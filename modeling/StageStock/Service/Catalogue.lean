import StageStock.Record

/-!
# The catalogue

Shows and locations are entered into the catalogue under a name. A location is entered under its
words, and no two locations are entered under the very same words; words that differ in case are not
the same.

* `Catalogue.addShow`, `Catalogue.addLocation`: enter a show or a location;
* `Catalogue.shows`: all shows by first day and name;
* `Catalogue.locations`: all locations by name.
-/

namespace StageStock.Catalogue

/-! ### Shows -/

/-- A show is to be entered. -/
structure ShowRequest where
  name : String
  first : Option Date := none
  last : Option Date := none

/-- Whether a show ends before it begins. -/
def endsEarly (first last : Option Date) : Bool :=
  match first, last with
  | some a, some b => decide (b < a)
  | _, _ => false

/-- Enter a show: its id and row, and the store after it. -/
def addShow (r : ShowRequest) (now : Moment) (s : Store) : Except Failure (Int × ShowRow) × Store :=
  let name := Text.trim r.name
  if name = "" then (.error .showNameRequired, s)
  else if endsEarly r.first r.last then (.error .showEndsBeforeStart, s)
  else
    let row : ShowRow := { name, first := r.first, last := r.last, created := some now }
    (.ok (s.shows.nextId, row), { s with shows := s.shows.insert row })

/-- Whether a show comes no later than another in the list of shows. -/
def showLe (a b : Int × ShowRow) : Bool :=
  if a.2.first = b.2.first then decide (a.2.name ≤ b.2.name) else dateLe a.2.first b.2.first

/-- All shows by first day, those without one first, and then by name. -/
def shows (s : Store) : List (Int × ShowRow) :=
  s.shows.rows.mergeSort showLe

/-! ### Locations -/

/-- A location is to be entered. -/
structure LocationRequest where
  name : String
  description : Option String := none

/-- Enter a location: its id and row, and the store after it. -/
def addLocation (r : LocationRequest) (now : Moment) (s : Store) :
    Except Failure (Int × LocationRow) × Store :=
  let name := Text.normalise r.name
  if name = "" then (.error .locationNameRequired, s)
  else if s.locations.rows.any fun row => row.2.name = name then
    (.error (.locationExists name), s)
  else
    let id := s.locations.nextId
    let row : LocationRow :=
      { name, description := r.description, isActive := some true, created := some now }
    let entry : AuditRow :=
      { subject := "Location", subjectId := id, action := "Create", details := some name
        time := some now }
    (.ok (id, row),
      { s with locations := s.locations.insert row, audits := s.audits.insert entry })

/-- All locations by name. -/
def locations (s : Store) : List (Int × LocationRow) :=
  s.locations.rows.mergeSort fun a b => decide (a.2.name ≤ b.2.name)

end StageStock.Catalogue
