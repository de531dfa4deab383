import Mathlib.Tactic.Lemma
import StageStock.Proofs.Orders

/-!
What each request prepares.

For every request: the mutation that it makes of a store and the checks that it has passed
(`…_eq_ok`), what its preparation makes of a ledger (`prepare…_eq_ok`), that the commit is answered,
and that a request or a ledger which speaks against it is declined in the ordinary way (`…_error`,
`prepare…_error`).

* `Order.Makes`: the mutations that orders can make of a store (`Order.makes_iff`);
* `Order.Makes.answers`: every commit of an order is answered;
* `Order.Makes.equipment?_eq`: the lock is that of the equipment of the order;
* `Order.Makes.of_agreesBeside`: an order makes the same of a store that other workers have left.
-/

namespace StageStock

/-! ### Places -/

namespace Place

/-- An input is accepted if it gives an id that can be one, and no words, or else words. -/
lemma ofInput_eq_some_iff {i : Input} {p : Place} : ofInput i = .ok (some p)
    ↔ (∃ id name, i = { id := some id, name } ∧ Text.normalise? name = "" ∧ 0 < id ∧ p = named id)
      ∨ ∃ text, i = { name := some text } ∧ Text.normalise text ≠ ""
        ∧ p = custom (Text.normalise text) := by
  constructor
  · intro accepted
    obtain ⟨_ | id, name⟩ := i
    · simp only [ofInput] at accepted
      split at accepted
      · rename_i hwords
        cases name with
        | none => exact absurd (by decide) hwords
        | some text =>
            exact Or.inr ⟨text, rfl, hwords, (Option.some.inj (Except.ok.inj accepted)).symm⟩
      · cases accepted
    · simp only [ofInput] at accepted
      split at accepted
      · cases accepted
      · rename_i hblank
        split at accepted
        · cases accepted
        · rename_i hpositive
          exact Or.inl ⟨id, name, rfl, not_not.1 hblank, Int.not_le.1 hpositive,
            (Option.some.inj (Except.ok.inj accepted)).symm⟩
  · rintro (⟨id, name, rfl, hblank, hpositive, rfl⟩ | ⟨text, rfl, hwords, rfl⟩)
    · simp only [ofInput]
      rw [if_neg (not_not.2 hblank), if_neg (Int.not_le.2 hpositive)]
    · exact if_pos hwords

/-- Words that a caller gives are taken as normalised, and blank ones as none. -/
lemma ofInput_eq_custom {input : Input} {text : String}
    (h : ofInput input = .ok (some (.custom text))) : Text.normalise text = text ∧ text ≠ "" := by
  rcases ofInput_eq_some_iff.1 h with ⟨_, _, -, -, -, hplace⟩ | ⟨given, -, hwords, hplace⟩
  · cases hplace
  · obtain rfl := Place.custom.inj hplace
    exact ⟨Text.normalise_normalise given, hwords⟩

end Place

namespace Store

variable {s : Store} {input : Place.Input} {place : Place}

/-- A place is found if the input is accepted, and a location that it is resolved to is listed. -/
lemma findPlace_eq_some_iff_resolve : s.findPlace input = .ok (some place)
    ↔ ∃ given, Place.ofInput input = .ok (some given) ∧ given.resolve s.directory = place
      ∧ ∀ id, place = .named id → ∃ row, s.location? id = .ok row := by
  rw [findPlace]
  cases hinput : Place.ofInput input with
  | error e => simp
  | ok given =>
      cases given with
      | none => simp
      | some given =>
          simp only [Except.ok.injEq, Option.some.injEq, exists_eq_left']
          cases hresolved : given.resolve s.directory with
          | custom text => simp +contextual [eq_comm]
          | named id =>
              simp only
              cases hlisted : s.location? id with
              | error e =>
                  refine iff_of_false (fun h => by cases h) ?_
                  rintro ⟨rfl, hrow⟩
                  obtain ⟨row, hrow⟩ := hrow id rfl
                  rw [hlisted] at hrow
                  cases hrow
              | ok row =>
                  constructor
                  · intro h
                    obtain rfl := Option.some.inj (Except.ok.inj h)
                    exact ⟨rfl, fun _ hsame => ⟨row, Place.named.inj hsame ▸ hlisted⟩⟩
                  · rintro ⟨rfl, -⟩
                    rfl

/-- A listed location is found under its id. -/
lemma findPlace_of_listed {id : Int} {row : LocationRow} {name : Option String}
    (listed : s.location? id = .ok row) (positive : 0 < id) (blank : Text.normalise? name = "") :
    s.findPlace { id := some id, name } = .ok (some (.named id)) :=
  findPlace_eq_some_iff_resolve.2 ⟨.named id,
    Place.ofInput_eq_some_iff.2 (Or.inl ⟨id, name, rfl, blank, positive, rfl⟩), rfl,
    fun _ hsame => ⟨row, Place.named.inj hsame ▸ listed⟩⟩

/-- Words that no location is listed under are found as they are. -/
lemma findPlace_of_unlisted {text : String} (normal : Text.normalise text = text)
    (words : text ≠ "") (unlisted : s.directory.find? (foldName text) = none) :
    s.findPlace { name := some text } = .ok (some (.custom text)) := by
  refine findPlace_eq_some_iff_resolve.2 ⟨.custom text, Place.ofInput_eq_some_iff.2 (Or.inr ?_),
    ?_, fun _ hsame => by cases hsame⟩
  · exact ⟨text, rfl, normal.symm ▸ words, congrArg Place.custom normal.symm⟩
  · simp only [Place.resolve, unlisted]

/-- A place that is found is a listed location, or one described in words that no location is
listed under. -/
lemma findPlace_eq_ok (h : s.findPlace input = .ok (some place)) :
    (∃ id row, place = .named id ∧ s.location? id = .ok row)
      ∨ ∃ text, place = .custom text ∧ Text.normalise text = text ∧ text ≠ ""
        ∧ s.directory.find? (foldName text) = none := by
  obtain ⟨given, hgiven, rfl, hlisted⟩ := findPlace_eq_some_iff_resolve.1 h
  cases given with
  | named id =>
      obtain ⟨row, hrow⟩ := hlisted id rfl
      exact Or.inl ⟨id, row, rfl, hrow⟩
  | custom text =>
      simp only [Place.resolve] at hlisted ⊢
      cases hfound : s.directory.find? (foldName text) with
      | some id =>
          rw [hfound] at hlisted
          obtain ⟨row, hrow⟩ := hlisted id rfl
          exact Or.inl ⟨id, row, rfl, hrow⟩
      | none =>
          obtain ⟨hnormal, hwords⟩ := Place.ofInput_eq_custom hgiven
          exact Or.inr ⟨text, rfl, hnormal, hwords, hfound⟩

end Store

/-! ### Totals -/

namespace Equipments

variable {total : Int} {ledger : Snapshot} {work : Prepared Summary} {failure : Failure}

lemma setTotal_eq_ok {e : Int} {user : Option Int} {s : Store} {m : Mutation Summary}
    (h : setTotal e total user s = .ok m) :
    1 ≤ total ∧ m = { equipment := e, user, preparation := .fromLedger (prepareTotal total) } := by
  rw [setTotal] at h
  split at h
  · cases h
  · exact ⟨by omega, (Except.ok.inj h).symm⟩

lemma setTotal_error {e : Int} {user : Option Int} {s : Store}
    (h : setTotal e total user s = .error failure) : failure.IsOrdinary := by
  rw [setTotal] at h
  split at h <;> cases h
  exact Or.inr ⟨_, rfl, rfl⟩

lemma prepareTotal_eq_ok (h : prepareTotal total ledger = .ok work) :
    ledger.committed ≤ total
      ∧ work = { action := "EditTotalQuantity", changes := [.setTotal total]
                 answer := fun _ committed => committed.summary? 0 } := by
  rw [prepareTotal] at h
  split at h
  · cases h
  · exact ⟨by omega, (Except.ok.inj h).symm⟩

lemma prepareTotal_error (h : prepareTotal total ledger = .error failure) :
    failure.IsRefusal := by
  rw [prepareTotal] at h
  split at h <;> cases h
  exact ⟨_, rfl, rfl, rfl⟩

lemma orderly_prepareTotal (e total : Int) : Orderly e (prepareTotal total) where
  answers s read work _ hwork t committed _ hfits := by
    rw [(prepareTotal_eq_ok hwork).2]
    exact Snapshot.summary?_eq_ok hfits 0
  final _ _ := prepareTotal_error
  unexpected _ _ hwork := by rw [(prepareTotal_eq_ok hwork).2]

end Equipments

/-! ### Reservations -/

lemma checkExpected_error {expected : Option Int} {current : Int} {failure : Failure}
    (h : checkExpected expected current = .error failure) : failure.IsRefusal := by
  cases expected with
  | none => cases h
  | some version =>
      simp only [checkExpected] at h
      split at h <;> cases h
      exact ⟨_, rfl, rfl, rfl⟩

lemma Transition.check_eq_ok {t : Transition} : t.check = .ok () ↔ t.conflicts = [] := by
  rw [check]
  cases t.conflicts <;> simp

lemma Transition.check_error {t : Transition} {failure : Failure} (h : t.check = .error failure) :
    failure.IsRefusal := by
  rw [check] at h
  split at h <;> cases h
  refine ⟨_, rfl, ?_, rfl⟩
  rw [Failure.blocked]
  split <;> rfl

namespace Reservations

variable {s : Store} {ledger : Snapshot} {failure : Failure}

/-- What the making of a reservation prepares. -/
def prepareReserve (r : ReserveRequest) (row : ShowRow) (ledger : Snapshot) :
    Except Failure (Prepared Answer) :=
  let (changes, held) := reserveChanges r row ledger
  let bound := ledger.inStoreWith held
  if bound < r.needed then .error (.tooManyRequested r.needed bound)
  else .ok { action := "AllocateToShow", changes, answer := reserveAnswer r }

lemma reserve_eq_ok {r : ReserveRequest} {m : Mutation Answer} (h : reserve r s = .ok m) :
    1 ≤ r.needed ∧ ∃ row, s.show? r.showId = .ok row
      ∧ m = { equipment := r.equipment, user := r.user
              preparation := .fromLedger (prepareReserve r row) } := by
  rw [reserve] at h
  split at h
  · cases h
  · split at h
    · cases h
    · rename_i row hrow
      exact ⟨by omega, row, hrow, (Except.ok.inj h).symm⟩

lemma reserve_error {r : ReserveRequest} (h : reserve r s = .error failure) :
    failure.IsOrdinary := by
  rw [reserve] at h
  split at h
  · cases h
    exact Or.inr ⟨_, rfl, rfl⟩
  · split at h
    · rename_i e he
      exact Except.error.inj h ▸ Store.isOrdinary_of_show? he
    · cases h

lemma prepareReserve_eq_ok {r : ReserveRequest} {row : ShowRow} {work : Prepared Answer}
    (h : prepareReserve r row ledger = .ok work) :
    r.needed ≤ ledger.inStoreWith (reserveChanges r row ledger).2
      ∧ work = { action := "AllocateToShow", changes := (reserveChanges r row ledger).1
                 answer := reserveAnswer r } := by
  simp only [prepareReserve] at h
  split at h
  · cases h
  · exact ⟨by omega, (Except.ok.inj h).symm⟩

lemma prepareReserve_error {r : ReserveRequest} {row : ShowRow}
    (h : prepareReserve r row ledger = .error failure) : failure.IsRefusal := by
  simp only [prepareReserve] at h
  split at h <;> cases h
  exact ⟨_, rfl, rfl, rfl⟩

lemma change_eq_ok {r : ChangeRequest} {m : Mutation Answer} (h : change r s = .ok m) :
    ∃ row, s.reservation? r.id = .ok row
      ∧ m = { equipment := row.equipment, user := r.user
              preparation := .fromLedger (prepareChange r) } := by
  rw [change] at h
  split at h
  · cases h
  · rename_i row hrow
    exact ⟨row, hrow, (Except.ok.inj h).symm⟩

lemma change_error {r : ChangeRequest} (h : change r s = .error failure) :
    failure.IsOrdinary := by
  rw [change] at h
  split at h
  · rename_i e he
    exact Except.error.inj h ▸ Store.isOrdinary_of_reservation? he
  · cases h

/-- The units that the show needs after a change. -/
def ChangeRequest.neededOf (r : ChangeRequest) (current : Reservation) : Int :=
  r.needed.getD current.needed

/-- The units that are asked for by a change, of itself or because the need is lowered. -/
def ChangeRequest.allocatedOf (r : ChangeRequest) (current : Reservation) : Option Int :=
  if r.allocated = none ∧ r.neededOf current < current.allocated then some (r.neededOf current)
  else r.allocated

/-- The transition that a change comes to. -/
def ChangeRequest.transition (r : ChangeRequest) (ledger : Snapshot) (current : Reservation) :
    Transition :=
  ledger.transition { current with needed := r.neededOf current } r.status (r.allocatedOf current)

lemma prepareChange_iff {r : ChangeRequest} {work : Prepared Answer} :
    prepareChange r ledger = .ok work ↔ checkExpected r.expected ledger.version = .ok ()
      ∧ ∃ current, ledger.findReservation? r.id = some current ∧ 1 ≤ r.neededOf current
        ∧ (r.transition ledger current).conflicts = []
        ∧ work = changeWork r current (r.neededOf current) (r.transition ledger current) := by
  rw [prepareChange]
  constructor
  · intro h
    split at h
    · cases h
    · rename_i hexpected
      split at h
      · cases h
      · rename_i current hcurrent
        simp only at h
        split at h
        · cases h
        · split at h
          · cases h
          · rename_i hneeded _ hcheck
            refine ⟨hexpected, current, hcurrent, ?_, Transition.check_eq_ok.1 hcheck,
              (Except.ok.inj h).symm⟩
            rw [ChangeRequest.neededOf]
            omega
  · rintro ⟨hexpected, current, hcurrent, hneeded, hvalid, rfl⟩
    have henough : ¬ r.needed.getD current.needed < 1 := Int.not_lt.2 hneeded
    have hcheck : (ledger.transition { current with needed := r.needed.getD current.needed }
        r.status (r.allocatedOf current)).check = .ok () := Transition.check_eq_ok.2 hvalid
    rw [ChangeRequest.allocatedOf, ChangeRequest.neededOf] at hcheck
    simp only [hexpected, hcurrent, if_neg henough, hcheck]
    rfl

lemma prepareChange_eq_ok {r : ChangeRequest} {work : Prepared Answer}
    (h : prepareChange r ledger = .ok work) :
    ∃ current needed t allocated, ledger.findReservation? r.id = some current ∧ 1 ≤ needed
      ∧ t = ledger.transition { current with needed := needed } r.status allocated
      ∧ t.conflicts = [] ∧ work = changeWork r current needed t := by
  obtain ⟨-, current, hcurrent, hneeded, hvalid, hwork⟩ := prepareChange_iff.1 h
  exact ⟨current, _, _, _, hcurrent, hneeded, rfl, hvalid, hwork⟩

lemma prepareChange_error {r : ChangeRequest} (h : prepareChange r ledger = .error failure) :
    failure.IsRefusal := by
  rw [prepareChange] at h
  split at h
  · rename_i e hstale
    exact Except.error.inj h ▸ checkExpected_error hstale
  · split at h
    · cases h
      exact ⟨_, rfl, rfl, rfl⟩
    · simp only at h
      split at h
      · cases h
        exact ⟨_, rfl, rfl, rfl⟩
      · split at h
        · rename_i e hblocked
          exact Except.error.inj h ▸ Transition.check_error hblocked
        · cases h

lemma remove_eq_ok {id : Int} {user : Option Int} {m : Mutation Removed}
    (h : remove id user s = .ok m) :
    ∃ row answer, s.reservation? id = .ok row
      ∧ m = { equipment := row.equipment, user
              preparation := .known
                { action := "RemoveShowAllocation"
                  changes := [.dropReservation id (some row.showId)], answer } }
      ∧ ∀ s committed, fitsWord committed.total = true → ∃ removed, answer s committed = .ok removed
      := by
  rw [remove] at h
  split at h
  · cases h
  · rename_i row hrow
    refine ⟨row, _, hrow, (Except.ok.inj h).symm, fun s committed hfits => ?_⟩
    obtain ⟨summary, hsummary⟩ := Snapshot.summary?_eq_ok hfits 0
    exact ⟨_, by rw [hsummary]⟩

lemma remove_error {id : Int} {user : Option Int} (h : remove id user s = .error failure) :
    failure.IsOrdinary := by
  rw [remove] at h
  split at h
  · rename_i e he
    exact Except.error.inj h ▸ Store.isOrdinary_of_reservation? he
  · cases h

lemma answers_reserve (r : ReserveRequest) (s : Store) (committed : Snapshot)
    (h : fitsWord committed.total = true) : ∃ answer, reserveAnswer r s committed = .ok answer := by
  obtain ⟨summary, hsummary⟩ := Snapshot.summary?_eq_ok h 0
  exact ⟨_, by rw [reserveAnswer, hsummary]⟩

lemma answers_change (id : Int) (warnings : List Warning) (s : Store) (committed : Snapshot)
    (h : fitsWord committed.total = true) :
    ∃ answer, changeAnswer id warnings s committed = .ok answer := by
  obtain ⟨summary, hsummary⟩ := Snapshot.summary?_eq_ok h 0
  exact ⟨_, by rw [changeAnswer, hsummary]⟩

lemma orderly_prepareReserve (r : ReserveRequest) (row : ShowRow) :
    Orderly r.equipment (prepareReserve r row) where
  answers s read work _ hwork t committed _ hfits := by
    rw [(prepareReserve_eq_ok hwork).2]
    exact answers_reserve r t committed hfits
  final _ _ := prepareReserve_error
  unexpected _ _ hwork := by rw [(prepareReserve_eq_ok hwork).2]

lemma orderly_prepareChange (e : Int) (r : ChangeRequest) : Orderly e (prepareChange r) where
  answers s read work _ hwork t committed _ hfits := by
    obtain ⟨current, needed, transition, allocated, -, -, -, -, rfl⟩ := prepareChange_eq_ok hwork
    rw [changeWork]
    split <;> exact answers_change r.id transition.warnings t committed hfits
  final _ _ := prepareChange_error
  unexpected _ _ hwork := by
    obtain ⟨current, needed, transition, allocated, -, -, -, -, rfl⟩ := prepareChange_eq_ok hwork
    rw [changeWork]
    split <;> rfl

end Reservations

/-! ### Placements -/

namespace Placements

variable {s : Store} {ledger : Snapshot} {work : Prepared Answer} {m : Mutation Answer}
  {failure : Failure}

/-- What a whole new set of placements prepares. -/
def prepareReplace (e : Int) (placements : List Placement) (ledger : Snapshot) :
    Except Failure (Prepared Answer) :=
  let bound := ledger.distributable
  let requested := addUp (placements.map Placement.quantity)
  if bound < requested then .error (.tooManyPlaced requested bound)
  else
    .ok { action := "ReplaceLocations", changes := [.replacePlacements placements]
          answer := answer e }

/-- What the bringing of units to a place prepares. -/
def preparePlace (r : PlaceRequest) (target : Place) (ledger : Snapshot) :
    Except Failure (Prepared Answer) :=
  if ledger.inStore < r.quantity then .error (.storeTooSmall r.quantity ledger.inStore)
  else
    .ok { action := "AllocateToLocation"
          changes := [.replacePlacements (addUnits r target ledger.placements)]
          answer := answer r.equipment }

lemma replace_eq_ok {r : ReplaceRequest} (h : replace r s = .ok m) :
    ∃ row placements, s.equipment? r.equipment = .ok row ∧ readRows s r.rows 0 [] = .ok placements
      ∧ m = { equipment := r.equipment, user := r.user
              preparation := .fromLedger (prepareReplace r.equipment placements) } := by
  rw [replace] at h
  split at h
  · cases h
  · rename_i row hrow
    split at h
    · cases h
    · rename_i placements hplacements
      exact ⟨row, placements, hrow, hplacements, (Except.ok.inj h).symm⟩

/-- A row is read if it names a place that was not named before and holds units in a known state,
and if the rows after it are read. -/
lemma readRows_cons_eq_ok {row : Row} {rest : List Row} {index : Nat}
    {seen : List (PlaceKey × Nat)} {placements : List Placement} :
    readRows s (row :: rest) index seen = .ok placements
      ↔ ∃ place others, s.findPlace row.place = .ok (some place) ∧ 1 ≤ row.quantity
        ∧ PlacementStatus.isKnown row.statusText = true ∧ seen.lookup place.key = none
        ∧ readRows s rest (index + 1) ((place.key, index) :: seen) = .ok others
        ∧ placements = { id := none, place, quantity := row.quantity, status := row.statusText
                         notes := row.notes } :: others := by
  rw [readRows]
  constructor
  · intro h
    split at h
    · cases h
    · cases h
    · rename_i place hplace
      split at h
      · cases h
      · split at h
        · cases h
        · split at h
          · cases h
          · split at h
            · cases h
            · rename_i hquantity hstatus _ hnew _ others hothers
              exact ⟨place, others, hplace, by omega, by simpa using hstatus, hnew, hothers,
                (Except.ok.inj h).symm⟩
  · rintro ⟨place, others, hplace, hquantity, hstatus, hnew, hothers, rfl⟩
    have hunits : ¬ row.quantity < 1 := by omega
    simp only [hplace, hunits, hstatus, hnew, hothers, if_false, Bool.not_true, Bool.false_eq_true]

lemma readRows_error {rows : List Row} {index : Nat} {seen : List (PlaceKey × Nat)}
    (h : readRows s rows index seen = .error failure) : failure.IsOrdinary := by
  induction rows generalizing index seen with
  | nil => cases h
  | cons row rest ih =>
      rw [readRows] at h
      split at h
      · rename_i e he
        exact Except.error.inj h ▸ Store.isOrdinary_of_findPlace he
      · exact Except.error.inj h ▸ Or.inr ⟨_, rfl, rfl⟩
      · split at h
        · exact Except.error.inj h ▸ Or.inr ⟨_, rfl, rfl⟩
        · split at h
          · exact Except.error.inj h ▸ Or.inr ⟨_, rfl, rfl⟩
          · split at h
            · exact Except.error.inj h ▸ Or.inr ⟨_, rfl, rfl⟩
            · split at h
              · rename_i e he
                exact ih (he.trans h)
              · cases h

lemma replace_error {r : ReplaceRequest} (h : replace r s = .error failure) :
    failure.IsOrdinary := by
  rw [replace] at h
  split at h
  · rename_i e he
    exact Except.error.inj h ▸ Store.isOrdinary_of_equipment? he
  · split at h
    · rename_i e he
      exact Except.error.inj h ▸ readRows_error he
    · cases h

lemma prepareReplace_eq_ok {e : Int} {placements : List Placement}
    (h : prepareReplace e placements ledger = .ok work) :
    addUp (placements.map Placement.quantity) ≤ ledger.distributable
      ∧ work = { action := "ReplaceLocations", changes := [.replacePlacements placements]
                 answer := answer e } := by
  simp only [prepareReplace] at h
  split at h
  · cases h
  · exact ⟨by omega, (Except.ok.inj h).symm⟩

lemma prepareReplace_error {e : Int} {placements : List Placement}
    (h : prepareReplace e placements ledger = .error failure) : failure.IsRefusal := by
  simp only [prepareReplace] at h
  split at h <;> cases h
  exact ⟨_, rfl, rfl, rfl⟩

lemma place_eq_ok {r : PlaceRequest} (h : place r s = .ok m) :
    1 ≤ r.quantity ∧ PlacementStatus.isKnown r.status = true
      ∧ ∃ row target, s.equipment? r.equipment = .ok row ∧ s.findPlace r.target = .ok (some target)
      ∧ m = { equipment := r.equipment, user := r.user
              preparation := .fromLedger (preparePlace r target) } := by
  rw [place] at h
  split at h
  · cases h
  · split at h
    · cases h
    · rename_i hquantity hstatus
      split at h
      · cases h
      · rename_i row hrow
        split at h
        · cases h
        · cases h
        · rename_i target htarget
          exact ⟨by omega, by simpa using hstatus, row, target, hrow, htarget,
            (Except.ok.inj h).symm⟩

lemma place_error {r : PlaceRequest} (h : place r s = .error failure) : failure.IsOrdinary := by
  rw [place] at h
  split at h
  · exact Except.error.inj h ▸ Or.inr ⟨_, rfl, rfl⟩
  · split at h
    · exact Except.error.inj h ▸ Or.inr ⟨_, rfl, rfl⟩
    · split at h
      · rename_i e he
        exact Except.error.inj h ▸ Store.isOrdinary_of_equipment? he
      · split at h
        · rename_i e he
          exact Except.error.inj h ▸ Store.isOrdinary_of_findPlace he
        · exact Except.error.inj h ▸ Or.inr ⟨_, rfl, rfl⟩
        · cases h

lemma preparePlace_eq_ok {r : PlaceRequest} {target : Place}
    (h : preparePlace r target ledger = .ok work) :
    r.quantity ≤ ledger.inStore
      ∧ work = { action := "AllocateToLocation"
                 changes := [.replacePlacements (addUnits r target ledger.placements)]
                 answer := answer r.equipment } := by
  rw [preparePlace] at h
  split at h
  · cases h
  · exact ⟨by omega, (Except.ok.inj h).symm⟩

lemma preparePlace_error {r : PlaceRequest} {target : Place}
    (h : preparePlace r target ledger = .error failure) : failure.IsRefusal := by
  rw [preparePlace] at h
  split at h <;> cases h
  exact ⟨_, rfl, rfl, rfl⟩

lemma move_eq_ok {r : MoveRequest} (h : move r s = .ok m) :
    ∃ row target, s.placement? r.id = .ok row ∧ s.findPlace r.target = .ok target
      ∧ m = { equipment := row.equipment, user := r.user
              preparation := .fromLedger (prepareMove r target) } := by
  rw [move] at h
  split at h
  · cases h
  · rename_i row hrow
    split at h
    · cases h
    · rename_i target htarget
      exact ⟨row, target, hrow, htarget, (Except.ok.inj h).symm⟩

lemma move_error {r : MoveRequest} (h : move r s = .error failure) : failure.IsOrdinary := by
  rw [move] at h
  split at h
  · rename_i e he
    exact Except.error.inj h ▸ Store.isOrdinary_of_placement? he
  · split at h
    · rename_i e he
      exact Except.error.inj h ▸ Store.isOrdinary_of_findPlace he
    · cases h

lemma prepareMove_eq_ok {r : MoveRequest} {target : Option Place}
    (h : prepareMove r target ledger = .ok work) :
    ∃ source moved, ledger.placements.find? (fun p => p.id = some r.id) = some source
      ∧ 1 ≤ moved ∧ moved ≤ source.quantity
      ∧ (∀ place, target = some place → place.key ≠ source.place.key)
      ∧ work = { action := "MoveLocationAllocation"
                 changes := [.replacePlacements (moveUnits source target moved ledger.placements)]
                 answer := answer ledger.equipment } := by
  rw [prepareMove] at h
  split at h
  · cases h
  · rename_i source hsource
    simp only at h
    split at h
    · cases h
    · split at h
      · cases h
      · rename_i hrange helsewhere
        refine ⟨source, _, hsource, by omega, by omega, ?_, (Except.ok.inj h).symm⟩
        rintro place rfl
        simpa using helsewhere

lemma prepareMove_error {r : MoveRequest} {target : Option Place}
    (h : prepareMove r target ledger = .error failure) : failure.IsRefusal := by
  rw [prepareMove] at h
  split at h
  · exact Except.error.inj h ▸ ⟨_, rfl, rfl, rfl⟩
  · simp only at h
    split at h
    · exact Except.error.inj h ▸ ⟨_, rfl, rfl, rfl⟩
    · split at h <;> cases h
      exact ⟨_, rfl, rfl, rfl⟩

lemma answers_placements {e : Int} {s : Store} {committed : Snapshot}
    (read : s.ledger? e = .ok committed) (h : fitsWord committed.total = true) :
    ∃ a, answer e s committed = .ok a := by
  obtain ⟨summary, hsummary⟩ := Snapshot.summary?_eq_ok h 0
  obtain ⟨row, hfits, hrow, -⟩ := Store.ledger?_eq_ok.1 read
  have hequipment := Store.equipment?_eq_ok.2 ⟨hfits, hrow⟩
  exact ⟨_, by rw [answer, ofEquipment, hequipment, hsummary]⟩

lemma orderly_prepareReplace (e : Int) (placements : List Placement) :
    Orderly e (prepareReplace e placements) where
  answers s read work _ hwork t committed hread hfits := by
    rw [(prepareReplace_eq_ok hwork).2]
    exact answers_placements hread hfits
  final _ _ := prepareReplace_error
  unexpected _ _ hwork := by rw [(prepareReplace_eq_ok hwork).2]

lemma orderly_preparePlace (r : PlaceRequest) (target : Place) :
    Orderly r.equipment (preparePlace r target) where
  answers s read work _ hwork t committed hread hfits := by
    rw [(preparePlace_eq_ok hwork).2]
    exact answers_placements hread hfits
  final _ _ := preparePlace_error
  unexpected _ _ hwork := by rw [(preparePlace_eq_ok hwork).2]

lemma orderly_prepareMove (e : Int) (r : MoveRequest) (target : Option Place) :
    Orderly e (prepareMove r target) where
  answers s read work hread hwork t committed hreread hfits := by
    obtain ⟨source, moved, -, -, -, -, rfl⟩ := prepareMove_eq_ok hwork
    obtain ⟨equipment, -, -, rfl⟩ := Store.ledger?_eq_ok.1 hread
    exact answers_placements hreread hfits
  final _ _ := prepareMove_error
  unexpected _ _ hwork := by
    obtain ⟨source, moved, -, -, -, -, rfl⟩ := prepareMove_eq_ok hwork
    rfl

end Placements

/-! ### Installations -/

namespace Installations

variable {s : Store} {ledger : Snapshot} {work : Prepared Answer} {m : Mutation Answer}
  {failure : Failure}

lemma install_eq_ok {r : InstallRequest} {today : Date} (h : install r today s = .ok m) :
    InstallationKind.isKnown r.kind = true
      ∧ ∃ row i, s.equipment? r.equipment = .ok row ∧ requested r today s = .ok i
      ∧ m = { equipment := r.equipment, user := r.user
              preparation := .fromLedger (prepareInstall i) } := by
  rw [install] at h
  split at h
  · cases h
  · rename_i hkind
    split at h
    · cases h
    · rename_i row hrow
      split at h
      · cases h
      · rename_i i hi
        exact ⟨by simpa using hkind, row, i, hrow, hi, (Except.ok.inj h).symm⟩

/-- What is asked for is a portable equipment, or units at a place. -/
lemma requested_eq_ok {r : InstallRequest} {today : Date} {i : Installation}
    (h : requested r today s = .ok i) :
    r.kind = InstallationKind.portable.text ∧ i = {}
      ∨ ∃ place quantity, r.kind ≠ InstallationKind.portable.text
      ∧ s.findPlace r.target = .ok (some place) ∧ 1 ≤ quantity
      ∧ i = { kind := r.kind, place := some place, quantity
              since := some (r.since.getD today), notes := r.notes } := by
  rw [requested] at h
  split at h
  · rename_i hportable
    exact Or.inl ⟨hportable, (Except.ok.inj h).symm⟩
  · rename_i hkind
    split at h
    · cases h
    · cases h
    · rename_i place hplace
      split at h
      · cases h
      · split at h
        · cases h
        · exact Or.inr ⟨place, _, hkind, hplace, by omega, (Except.ok.inj h).symm⟩

lemma requested_error {r : InstallRequest} {today : Date}
    (h : requested r today s = .error failure) : failure.IsOrdinary := by
  rw [requested] at h
  split at h
  · cases h
  · split at h
    · rename_i e he
      exact Except.error.inj h ▸ Store.isOrdinary_of_findPlace he
    · exact Except.error.inj h ▸ Or.inr ⟨_, rfl, rfl⟩
    · split at h
      · exact Except.error.inj h ▸ Or.inr ⟨_, rfl, rfl⟩
      · split at h <;> cases h
        exact Or.inr ⟨_, rfl, rfl⟩

lemma install_error {r : InstallRequest} {today : Date} (h : install r today s = .error failure) :
    failure.IsOrdinary := by
  rw [install] at h
  split at h
  · exact Except.error.inj h ▸ Or.inr ⟨_, rfl, rfl⟩
  · split at h
    · rename_i e he
      exact Except.error.inj h ▸ Store.isOrdinary_of_equipment? he
    · split at h
      · rename_i e he
        exact Except.error.inj h ▸ requested_error he
      · cases h

lemma prepareInstall_eq_ok {i : Installation} (h : prepareInstall i ledger = .ok work) :
    (i.isActive = true → i.quantity ≤ ledger.inStore + ledger.installed)
      ∧ work = { action := "SetInstallation", changes := [.setInstallation i], answer } := by
  simp only [prepareInstall] at h
  split at h
  · rename_i hportable
    exact ⟨fun hactive => absurd hactive (by simpa using hportable), (Except.ok.inj h).symm⟩
  · split at h
    · cases h
    · split at h
      · cases h
      · exact ⟨fun _ => by omega, (Except.ok.inj h).symm⟩

lemma prepareInstall_error {i : Installation} (h : prepareInstall i ledger = .error failure) :
    failure.IsRefusal := by
  simp only [prepareInstall] at h
  split at h
  · cases h
  · split at h
    · exact Except.error.inj h ▸ ⟨_, rfl, rfl, rfl⟩
    · split at h <;> cases h
      exact ⟨_, rfl, rfl, rfl⟩

lemma bringBack_eq_ok {e : Int} {quantity user : Option Int}
    (h : bringBack e quantity user s = .ok m) :
    ∃ row, s.equipment? e = .ok row
      ∧ m = { equipment := e, user, preparation := .fromLedger (prepareReturn quantity) } := by
  rw [bringBack] at h
  split at h
  · cases h
  · rename_i row hrow
    exact ⟨row, hrow, (Except.ok.inj h).symm⟩

lemma bringBack_error {e : Int} {quantity user : Option Int}
    (h : bringBack e quantity user s = .error failure) : failure.IsOrdinary := by
  rw [bringBack] at h
  split at h
  · rename_i f hf
    exact Except.error.inj h ▸ Store.isOrdinary_of_equipment? hf
  · cases h

lemma prepareReturn_eq_ok {quantity : Option Int} (h : prepareReturn quantity ledger = .ok work) :
    ∃ i, (i = {} ∨ ∃ remaining, 1 ≤ remaining ∧ remaining ≤ ledger.installation.quantity
        ∧ ledger.installation.isActive = true
        ∧ i = { ledger.installation with quantity := remaining })
      ∧ work = { action := "ReturnFromInstallation", changes := [.setInstallation i], answer } := by
  simp only [prepareReturn] at h
  split at h
  · cases h
  · rename_i hinstalled
    split at h
    · cases h
    · refine ⟨_, ?_, (Except.ok.inj h).symm⟩
      split
      · exact Or.inr ⟨_, by omega, by omega, by simpa using hinstalled, rfl⟩
      · exact Or.inl rfl

lemma prepareReturn_error {quantity : Option Int}
    (h : prepareReturn quantity ledger = .error failure) : failure.IsRefusal := by
  simp only [prepareReturn] at h
  split at h
  · exact Except.error.inj h ▸ ⟨_, rfl, rfl, rfl⟩
  · split at h <;> cases h
    exact ⟨_, rfl, rfl, rfl⟩

lemma answers_installation (s : Store) {committed : Snapshot}
    (h : fitsWord committed.total = true) : ∃ a, answer s committed = .ok a := by
  obtain ⟨summary, hsummary⟩ := Snapshot.summary?_eq_ok h 0
  exact ⟨_, by rw [answer, hsummary]⟩

lemma orderly_prepareInstall (e : Int) (i : Installation) : Orderly e (prepareInstall i) where
  answers s read work _ hwork t committed _ hfits := by
    rw [(prepareInstall_eq_ok hwork).2]
    exact answers_installation t hfits
  final _ _ := prepareInstall_error
  unexpected _ _ hwork := by rw [(prepareInstall_eq_ok hwork).2]

lemma orderly_prepareReturn (e : Int) (quantity : Option Int) :
    Orderly e (prepareReturn quantity) where
  answers s read work _ hwork t committed _ hfits := by
    obtain ⟨i, -, rfl⟩ := prepareReturn_eq_ok hwork
    exact answers_installation t hfits
  final _ _ := prepareReturn_error
  unexpected _ _ hwork := by
    obtain ⟨i, -, rfl⟩ := prepareReturn_eq_ok hwork
    rfl

end Installations

/-! ### Orders -/

namespace Order

/-- The mutations that orders can make of a store, one constructor for each request. -/
inductive Makes (today : Date) (s : Store) : Order → Mutation Json → Prop where
  | setTotal {e total : Int} {user : Option Int} {m : Mutation Summary}
      (made : Equipments.setTotal e total user s = .ok m) :
      Makes today s (.setTotal e total user) (m.map Summary.toJson)
  | reserve {r : Reservations.ReserveRequest} {m : Mutation Reservations.Answer}
      (made : Reservations.reserve r s = .ok m) :
      Makes today s (.reserve r) (m.map Reservations.Answer.toJson)
  | changeReservation {r : Reservations.ChangeRequest} {m : Mutation Reservations.Answer}
      (made : Reservations.change r s = .ok m) :
      Makes today s (.changeReservation r) (m.map Reservations.Answer.toJson)
  | removeReservation {id : Int} {user : Option Int} {m : Mutation Reservations.Removed}
      (made : Reservations.remove id user s = .ok m) :
      Makes today s (.removeReservation id user) (m.map Reservations.Removed.toJson)
  | replacePlacements {r : Placements.ReplaceRequest} {m : Mutation Placements.Answer}
      (made : Placements.replace r s = .ok m) :
      Makes today s (.replacePlacements r) (m.map Placements.Answer.toJson)
  | placeUnits {r : Placements.PlaceRequest} {m : Mutation Placements.Answer}
      (made : Placements.place r s = .ok m) :
      Makes today s (.placeUnits r) (m.map Placements.Answer.toJson)
  | moveUnits {r : Placements.MoveRequest} {m : Mutation Placements.Answer}
      (made : Placements.move r s = .ok m) :
      Makes today s (.moveUnits r) (m.map Placements.Answer.toJson)
  | install {r : Installations.InstallRequest} {m : Mutation Installations.Answer}
      (made : Installations.install r today s = .ok m) :
      Makes today s (.install r) (m.map Installations.Answer.toJson)
  | bringBack {e : Int} {quantity user : Option Int} {m : Mutation Installations.Answer}
      (made : Installations.bringBack e quantity user s = .ok m) :
      Makes today s (.bringBack e quantity user) (m.map Installations.Answer.toJson)

variable {o : Order} {today : Date} {request : Store → Except Failure (Mutation Json)} {s : Store}
  {m : Mutation Json}

lemma makes_iff (h : o.request? today = some request) :
    request s = .ok m ↔ o.Makes today s m := by
  constructor
  · intro made
    cases o with
    | register _ | addShow _ | addLocation _ => cases h
    | _ =>
        cases h
        obtain ⟨plain, hplain, rfl⟩ := map_eq_ok made
        constructor
        exact hplain
  · intro makes
    cases makes with
    | setTotal made | reserve made | changeReservation made | removeReservation made
    | replacePlacements made | placeUnits made | moveUnits made | install made | bringBack made =>
        cases h
        exact congrArg (Except.map _) made

/-- An order that reads the ledger is prepared from it in an orderly way. -/
theorem Makes.exists_orderly (h : o.Makes today s m) (reads : o.readsLedger = true) :
    ∃ prepare, m.preparation = .fromLedger prepare ∧ Orderly m.equipment prepare := by
  cases h with
  | removeReservation made => cases reads
  | @setTotal e total user _ made =>
      rw [(Equipments.setTotal_eq_ok made).2]
      exact ⟨_, rfl, (Equipments.orderly_prepareTotal e total).map _⟩
  | @reserve r _ made =>
      obtain ⟨-, row, -, rfl⟩ := Reservations.reserve_eq_ok made
      exact ⟨_, rfl, (Reservations.orderly_prepareReserve r row).map _⟩
  | @changeReservation r _ made =>
      obtain ⟨row, -, rfl⟩ := Reservations.change_eq_ok made
      exact ⟨_, rfl, (Reservations.orderly_prepareChange row.equipment r).map _⟩
  | @replacePlacements r _ made =>
      obtain ⟨row, placements, -, -, rfl⟩ := Placements.replace_eq_ok made
      exact ⟨_, rfl, (Placements.orderly_prepareReplace r.equipment placements).map _⟩
  | @placeUnits r _ made =>
      obtain ⟨-, -, row, target, -, -, rfl⟩ := Placements.place_eq_ok made
      exact ⟨_, rfl, (Placements.orderly_preparePlace r target).map _⟩
  | @moveUnits r _ made =>
      obtain ⟨row, target, -, -, rfl⟩ := Placements.move_eq_ok made
      exact ⟨_, rfl, (Placements.orderly_prepareMove row.equipment r target).map _⟩
  | @install r _ made =>
      obtain ⟨-, row, i, -, -, rfl⟩ := Installations.install_eq_ok made
      exact ⟨_, rfl, (Installations.orderly_prepareInstall r.equipment i).map _⟩
  | @bringBack e quantity user _ made =>
      obtain ⟨row, -, rfl⟩ := Installations.bringBack_eq_ok made
      exact ⟨_, rfl, (Installations.orderly_prepareReturn e quantity).map _⟩

/-- The changes of an order that does not read the ledger are known beforehand. -/
lemma Makes.exists_known (h : o.Makes today s m) (reads : o.readsLedger = false) :
    ∃ known, m.preparation = .known known := by
  cases h with
  | removeReservation made =>
      obtain ⟨row, answer, -, rfl, -⟩ := Reservations.remove_eq_ok made
      exact ⟨_, rfl⟩
  | _ => cases reads

/-- Every commit of an order is answered. -/
theorem Makes.answers (h : o.Makes today s m) : m.Answers := by
  by_cases reads : o.readsLedger = true
  · obtain ⟨prepare, hprepare, horderly⟩ := h.exists_orderly reads
    exact Mutation.answers_of_orderly hprepare horderly
  · cases h with
    | removeReservation made =>
        obtain ⟨row, answer, -, rfl, hanswer⟩ := Reservations.remove_eq_ok made
        exact Prepared.Answers.map (fun t committed _ hfits => hanswer t committed hfits) _
    | _ => exact absurd rfl reads

/-- The lock that an order takes is that of its equipment. -/
theorem Makes.equipment?_eq (h : o.Makes today s m) : o.equipment? s = some m.equipment := by
  cases h with
  | setTotal made =>
      rw [(Equipments.setTotal_eq_ok made).2]
      rfl
  | reserve made =>
      obtain ⟨-, row, -, rfl⟩ := Reservations.reserve_eq_ok made
      rfl
  | changeReservation made =>
      obtain ⟨row, hrow, rfl⟩ := Reservations.change_eq_ok made
      rw [equipment?, (Store.reservation?_eq_ok.1 hrow).2]
      rfl
  | removeReservation made =>
      obtain ⟨row, answer, hrow, rfl, -⟩ := Reservations.remove_eq_ok made
      rw [equipment?, (Store.reservation?_eq_ok.1 hrow).2]
      rfl
  | replacePlacements made =>
      obtain ⟨row, placements, -, -, rfl⟩ := Placements.replace_eq_ok made
      rfl
  | placeUnits made =>
      obtain ⟨-, -, row, target, -, -, rfl⟩ := Placements.place_eq_ok made
      rfl
  | moveUnits made =>
      obtain ⟨row, target, hrow, -, rfl⟩ := Placements.move_eq_ok made
      rw [equipment?, (Store.placement?_eq_ok.1 hrow).2]
      rfl
  | install made =>
      obtain ⟨-, row, i, -, -, rfl⟩ := Installations.install_eq_ok made
      rfl
  | bringBack made =>
      obtain ⟨row, -, rfl⟩ := Installations.bringBack_eq_ok made
      rfl

end Order

/-! ### Requests made once more -/

section Agreeing

variable {e : Int} {s t : Store}

lemma Store.directory_congr (h : t.locations = s.locations) : t.directory = s.directory := by
  rw [directory, locationNames, h]
  rfl

lemma Store.findPlace_congr (h : t.locations = s.locations) (input : Place.Input) :
    t.findPlace input = s.findPlace input := by
  simp only [findPlace, location?, directory_congr h]
  rw [h]

lemma Placements.readRows_congr (h : t.locations = s.locations) (rows : List Row) (index : Nat)
    (seen : List (PlaceKey × Nat)) : readRows t rows index seen = readRows s rows index seen := by
  induction rows generalizing index seen with
  | nil => rfl
  | cons row rest ih => simp only [readRows, Store.findPlace_congr h, ih]

lemma Installations.requested_congr (h : t.locations = s.locations) (r : InstallRequest)
    (today : Date) : requested r today t = requested r today s := by
  simp only [requested]
  rw [Store.findPlace_congr h]

lemma Reservations.reserve_congr (h : t.shows = s.shows) (r : ReserveRequest) :
    reserve r t = reserve r s := by
  simp only [reserve, Store.show?]
  rw [h]

/-- An equipment that is there stays there. -/
lemma Store.AgreesBeside.exists_equipment (h : s.AgreesBeside e t) {e' : Int} {row : EquipmentRow}
    (found : s.equipment? e' = .ok row) : ∃ row', t.equipment? e' = .ok row' := by
  obtain ⟨hfits, hrow⟩ := Store.equipment?_eq_ok.1 found
  have hsome : (t.equipments.find? e').isSome = true := by
    rw [h.isSome_find? e', hrow]
    rfl
  obtain ⟨row', hrow'⟩ := Option.isSome_iff_exists.1 hsome
  exact ⟨row', Store.equipment?_eq_ok.2 ⟨hfits, hrow'⟩⟩

lemma Placements.replace_of_agreesBeside (h : s.AgreesBeside e t) {r : ReplaceRequest}
    {m : Mutation Answer} (made : replace r s = .ok m) : replace r t = .ok m := by
  obtain ⟨row, placements, hrow, hplacements, rfl⟩ := replace_eq_ok made
  obtain ⟨row', hrow'⟩ := h.exists_equipment hrow
  rw [replace, hrow', readRows_congr h.locations, hplacements]
  rfl

lemma Placements.place_of_agreesBeside (h : s.AgreesBeside e t) {r : PlaceRequest}
    {m : Mutation Answer} (made : place r s = .ok m) : place r t = .ok m := by
  obtain ⟨-, -, row, target, hrow, -, -⟩ := place_eq_ok made
  obtain ⟨row', hrow'⟩ := h.exists_equipment hrow
  rw [place] at made ⊢
  rw [hrow] at made
  rw [hrow', Store.findPlace_congr h.locations]
  exact made

lemma Installations.install_of_agreesBeside (h : s.AgreesBeside e t) {r : InstallRequest}
    {today : Date} {m : Mutation Answer} (made : install r today s = .ok m) :
    install r today t = .ok m := by
  obtain ⟨-, row, i, hrow, -, -⟩ := install_eq_ok made
  obtain ⟨row', hrow'⟩ := h.exists_equipment hrow
  rw [install] at made ⊢
  rw [hrow] at made
  rw [hrow', requested_congr h.locations]
  exact made

lemma Installations.bringBack_of_agreesBeside (h : s.AgreesBeside e t) {e' : Int}
    {quantity user : Option Int} {m : Mutation Answer}
    (made : bringBack e' quantity user s = .ok m) : bringBack e' quantity user t = .ok m := by
  obtain ⟨row, hrow, rfl⟩ := bringBack_eq_ok made
  obtain ⟨row', hrow'⟩ := h.exists_equipment hrow
  rw [bringBack, hrow']

lemma Reservations.change_of_prepared {r : ChangeRequest} {m : Mutation Answer} {read : Snapshot}
    {work : Prepared Answer} (made : change r s = .ok m) (ledger : t.ledger? m.equipment = .ok read)
    (prepared : prepareChange r read = .ok work) : change r t = .ok m := by
  obtain ⟨row, hrow, rfl⟩ := change_eq_ok made
  obtain ⟨equipment, -, -, rfl⟩ := Store.ledger?_eq_ok.1 ledger
  obtain ⟨current, needed, transition, allocated, hcurrent, -⟩ := prepareChange_eq_ok prepared
  obtain ⟨row', hrow', hown, -⟩ := Store.find?_of_mem_reservations
    (List.mem_of_find?_eq_some hcurrent) (of_decide_eq_true (List.find?_some hcurrent :))
  have hfound := Store.reservation?_eq_ok.2 ⟨(Store.reservation?_eq_ok.1 hrow).1, hrow'⟩
  simp only [change, hfound, hown]

lemma Placements.move_of_prepared (locations : t.locations = s.locations) {r : MoveRequest}
    {target : Option Place} {row : PlacementRow} {m : Mutation Answer} {read : Snapshot}
    {work : Prepared Answer} (found : s.placement? r.id = .ok row)
    (place : s.findPlace r.target = .ok target)
    (made : m = { equipment := row.equipment, user := r.user
                  preparation := .fromLedger (prepareMove r target) })
    (ledger : t.ledger? row.equipment = .ok read)
    (prepared : prepareMove r target read = .ok work) : move r t = .ok m := by
  obtain ⟨equipment, -, -, rfl⟩ := Store.ledger?_eq_ok.1 ledger
  obtain ⟨source, moved, hsource, -⟩ := prepareMove_eq_ok prepared
  have hid : source.id = some r.id := of_decide_eq_true (List.find?_some hsource :)
  obtain ⟨row', hrow', hplacement⟩ := List.mem_filterMap.1 (List.mem_of_find?_eq_some hsource)
  obtain ⟨hstored, hown⟩ := Store.mem_placementsOf.1 hrow'
  obtain ⟨p, -, rfl⟩ := Option.map_eq_some_iff.1 hplacement
  have hrow : t.placements.find? r.id = some row'.2 := by
    rw [← Option.some.inj hid]
    exact Table.find?_of_mem hstored
  have hfound := Store.placement?_eq_ok.2 ⟨(Store.placement?_eq_ok.1 found).1, hrow⟩
  simp only [move, hfound, Store.findPlace_congr locations, place, made, hown]

end Agreeing

namespace Order

variable {o : Order} {today : Date} {s t : Store} {m : Mutation Json}
  {prepare : Snapshot → Except Failure (Prepared Json)} {read : Snapshot} {work : Prepared Json}

/-- An order makes the same of a store that other workers have left, provided that the ledger there
still bears it out. -/
theorem Makes.of_agreesBeside (h : o.Makes today s m) (agrees : s.AgreesBeside m.equipment t)
    (prepared : m.preparation = .fromLedger prepare) (ledger : t.ledger? m.equipment = .ok read)
    (ready : prepare read = .ok work) : o.Makes today t m := by
  cases h with
  | setTotal made => exact .setTotal made
  | reserve made => exact .reserve ((Reservations.reserve_congr agrees.shows _).trans made)
  | changeReservation made =>
      obtain ⟨row, -, hmutation⟩ := Reservations.change_eq_ok made
      rw [hmutation] at prepared
      cases prepared
      obtain ⟨plain, hplain, -⟩ := map_eq_ok ready
      exact .changeReservation (Reservations.change_of_prepared made ledger hplain)
  | removeReservation made =>
      obtain ⟨row, answer, -, hmutation, -⟩ := Reservations.remove_eq_ok made
      rw [hmutation] at prepared
      cases prepared
  | replacePlacements made =>
      exact .replacePlacements (Placements.replace_of_agreesBeside agrees made)
  | placeUnits made => exact .placeUnits (Placements.place_of_agreesBeside agrees made)
  | moveUnits made =>
      obtain ⟨row, target, hrow, htarget, rfl⟩ := Placements.move_eq_ok made
      cases prepared
      obtain ⟨plain, hplain, -⟩ := map_eq_ok ready
      exact .moveUnits
        (Placements.move_of_prepared agrees.locations hrow htarget rfl ledger hplain)
  | install made => exact .install (Installations.install_of_agreesBeside agrees made)
  | bringBack made => exact .bringBack (Installations.bringBack_of_agreesBeside agrees made)

end Order

end StageStock
