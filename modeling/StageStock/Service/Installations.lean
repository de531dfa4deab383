import StageStock.Desk

/-!
# Installations

An equipment is portable or installed at one place. Installing again moves or resizes the
installation, and units brought back go to the store; with the last of them the equipment is
portable again.

* `Installations.install`: install units, or make the equipment portable;
* `Installations.bringBack`: bring installed units back to the store.
-/

namespace StageStock.Installations

/-- What a change of an installation answers: the ledger after it, to show the installation from. -/
structure Answer where
  ledger : Snapshot
  locationNames : List (Int × String)
  availability : Summary

namespace Answer

/-- The answer as it is shown. -/
def toJson (a : Answer) : Json :=
  .obj [("installation", a.ledger.installationJson a.locationNames),
    ("availability", a.availability.toJson)]

end Answer

/-- The answer after an installation was changed. -/
def answer (s : Store) (committed : Snapshot) : Except Failure Answer :=
  match committed.summary? 0 with
  | .error e => .error e
  | .ok availability =>
    .ok { ledger := committed, locationNames := s.locationNames, availability }

/-! ### Installing -/

/-- Units are to be installed. -/
structure InstallRequest where
  equipment : Int
  kind : String
  target : Place.Input := {}
  quantity : Option Int := none
  /-- The day of the installation; without one it is the day of the call. -/
  since : Option Date := none
  notes : Option String := none
  user : Option Int := none

/-- The installation that is asked for. A portable equipment has none, whatever else is given. -/
def requested (r : InstallRequest) (today : Date) (s : Store) : Except Failure Installation :=
  if r.kind = InstallationKind.portable.text then .ok {}
  else
    match s.findPlace r.target with
    | .error e => .error e
    | .ok none => .error .installationPlaceRequired
    | .ok (some place) =>
      match r.quantity with
      | none => .error .installedTooSmall
      | some quantity =>
        if quantity < 1 then .error .installedTooSmall
        else
          .ok { kind := r.kind, place := some place, quantity
                since := some (r.since.getD today), notes := r.notes }

/-- Prepare an installation. Units that are installed already count as available. -/
def prepareInstall (i : Installation) (ledger : Snapshot) : Except Failure (Prepared Answer) :=
  let work : Prepared Answer :=
    { action := "SetInstallation", changes := [.setInstallation i], answer }
  let bound := ledger.inStore + ledger.installed
  if !i.isActive then .ok work
  else if ledger.total < i.quantity then .error (.installedExceedsTotal i.quantity ledger.total)
  else if bound < i.quantity then .error (.installedExceedsAvailable i.quantity bound)
  else .ok work

/-- Install units of an equipment, or make it portable. -/
def install (r : InstallRequest) (today : Date) (s : Store) : Except Failure (Mutation Answer) :=
  if !InstallationKind.isKnown r.kind then .error (.installationKindUnknown r.kind)
  else
    match s.equipment? r.equipment with
    | .error e => .error e
    | .ok _ =>
      match requested r today s with
      | .error e => .error e
      | .ok installation =>
        .ok { equipment := r.equipment, user := r.user
              preparation := .fromLedger (prepareInstall installation) }

/-! ### Bringing units back -/

/-- Prepare the return of installed units, of all of them if no quantity is given. -/
def prepareReturn (quantity : Option Int) (ledger : Snapshot) : Except Failure (Prepared Answer) :=
  let current := ledger.installation
  if !current.isActive then .error .notInstalled
  else
    let returned := quantity.getD current.quantity
    if returned < 1 ∨ current.quantity < returned then .error (.returnOutOfRange current.quantity)
    else
      let remaining := current.quantity - returned
      let left : Installation :=
        if 0 < remaining then { current with quantity := remaining } else {}
      .ok { action := "ReturnFromInstallation", changes := [.setInstallation left], answer }

/-- Bring installed units back to the store. -/
def bringBack (equipment : Int) (quantity user : Option Int) (s : Store) :
    Except Failure (Mutation Answer) :=
  match s.equipment? equipment with
  | .error e => .error e
  | .ok _ => .ok { equipment, user, preparation := .fromLedger (prepareReturn quantity) }

end StageStock.Installations
