import Mathlib.Tactic.Lemma
import StageStock.Proofs.Steps

/-!
When a registration is all or nothing.

A registration enters the row of an equipment and an entry of the audit trail that tells of it. The
row is committed on its own, since the entry needs the id that the row is given. What could be
refused of the row is refused before anything is entered, but the entry holds numbers of its own,
which may not fit a word: then the caller is told of a failure, and the equipment is there
nevertheless, without a word in the audit trail.

* `Store.withEquipment`, `Store.withRegistration`: the store after the first commit and after both;
* `Equipments.register_declined`, `Equipments.register_noted`, `Equipments.register_unnoted`: the
  three ways in which a registration can go;
* `Desk.RegistersWhole`: a registration is made in full or not at all;
* `Desk.registersWhole_iff`: exactly when it is, and what it comes to otherwise.
-/

namespace StageStock

namespace Store

/-- The store with the row of a new equipment. -/
def withEquipment (s : Store) (r : Equipments.RegisterRequest) (now : Moment) : Store :=
  { s with equipments := s.equipments.insert (Equipments.newRow r now) }

/-- The store with the row of a new equipment, and with the entry of the audit trail that tells of
it. -/
def withRegistration (s : Store) (r : Equipments.RegisterRequest) (now : Moment) : Store :=
  { s.withEquipment r now with
    audits := s.audits.insert (Equipments.registration r s.equipments.nextId now) }

lemma withEquipment_ne (s : Store) (r : Equipments.RegisterRequest) (now : Moment) :
    s.withEquipment r now ≠ s := by
  intro hsame
  have hlength := congrArg (fun u : Store => u.equipments.rows.length) hsame
  simp only [withEquipment, Table.rows_insert, List.length_append, List.length_singleton] at hlength
  omega

end Store

/-! ### One registration -/

namespace Equipments

variable {r : RegisterRequest} {s : Store}

lemma fits_newRow (r : RegisterRequest) (now : Moment) :
    (newRow r now).fits = fitsWord r.total := by
  have hzero : fitsWord 0 = true := by decide
  simp [newRow, EquipmentRow.fits, fitsWord?, hzero]

lemma fits_registration (r : RegisterRequest) (id : Int) (now : Moment) :
    (registration r id now).fits = (fitsWord id && fitsWord? r.user) := rfl

/-- Nothing is entered if there are no units or too many of them. -/
lemma register_declined (now : Moment) (declined : r.total < 1 ∨ fitsWord r.total = false) :
    ∃ failure, register r now s = (.error failure, s) := by
  by_cases hunits : r.total < 1
  · exact ⟨_, if_pos hunits⟩
  · have hwide : fitsWord r.total = false := declined.resolve_left hunits
    simp [register, hunits, fits_newRow, hwide]

lemma register_noted (now : Moment) (units : 1 ≤ r.total) (fits : fitsWord r.total = true)
    (noted : (registration r s.equipments.nextId now).fits = true) :
    register r now s
      = (.ok { id := s.equipments.nextId, row := newRow r now }, s.withRegistration r now) := by
  simp [register, Int.not_lt.2 units, fits_newRow, fits, noted, Store.withRegistration,
    Store.withEquipment]

/-- If only the entry of the audit trail cannot be stored, the row is there already. -/
lemma register_unnoted (now : Moment) (units : 1 ≤ r.total) (fits : fitsWord r.total = true)
    (unnoted : (registration r s.equipments.nextId now).fits = false) :
    register r now s = (.error .numberTooWide, s.withEquipment r now) := by
  simp [register, Int.not_lt.2 units, fits_newRow, fits, unnoted, Store.withEquipment]

end Equipments

/-! ### Registrations at the desk -/

namespace Desk

variable {desk : Desk} {call : Call} {r : Equipments.RegisterRequest}

lemma fulfil_register_of_eq {result : Except Failure EquipmentRecord} {t : Store}
    (h : Equipments.register r call.now desk.store = (result, t)) :
    desk.fulfil call (.register r)
      = { result := result.map EquipmentRecord.toJson, desk := { desk with store := t } } := by
  simp only [fulfil, entered, Outcome.map, h]

/-- A registration is all or nothing: it answers, and the row of the equipment and the entry of the
audit trail are there, or it fails, and everything is as it was. -/
def RegistersWhole (desk : Desk) (call : Call) (r : Equipments.RegisterRequest) : Prop :=
  ((∃ answer, (desk.fulfil call (.register r)).result = .ok answer)
      ∧ (desk.fulfil call (.register r)).desk
        = { desk with store := desk.store.withRegistration r call.now })
    ∨ (∃ failure, (desk.fulfil call (.register r)).result = .error failure)
      ∧ (desk.fulfil call (.register r)).desk = desk

lemma registersWhole_of_declined (declined : r.total < 1 ∨ fitsWord r.total = false) :
    desk.RegistersWhole call r := by
  obtain ⟨failure, hdeclined⟩ :=
    Equipments.register_declined (s := desk.store) call.now declined
  rw [RegistersWhole, fulfil_register_of_eq hdeclined]
  exact Or.inr ⟨⟨failure, rfl⟩, rfl⟩

lemma registersWhole_of_noted (units : 1 ≤ r.total) (fits : fitsWord r.total = true)
    (noted : (Equipments.registration r desk.store.equipments.nextId call.now).fits = true) :
    desk.RegistersWhole call r := by
  rw [RegistersWhole, fulfil_register_of_eq (Equipments.register_noted call.now units fits noted)]
  exact Or.inl ⟨⟨_, rfl⟩, rfl⟩

/-- A registration whose entry cannot be stored has failed, and yet the equipment is there. -/
lemma not_registersWhole_of_unnoted (units : 1 ≤ r.total) (fits : fitsWord r.total = true)
    (unnoted : (Equipments.registration r desk.store.equipments.nextId call.now).fits = false) :
    ¬ desk.RegistersWhole call r
      ∧ desk.fulfil call (.register r)
        = { result := .error .numberTooWide
            desk := { desk with store := desk.store.withEquipment r call.now } } := by
  have houtcome : desk.fulfil call (.register r)
      = { result := .error .numberTooWide
          desk := { desk with store := desk.store.withEquipment r call.now } } :=
    fulfil_register_of_eq (Equipments.register_unnoted call.now units fits unnoted)
  refine ⟨?_, houtcome⟩
  rw [RegistersWhole, houtcome]
  rintro (⟨⟨answer, hanswer⟩, -⟩ | ⟨-, hsame⟩)
  · cases hanswer
  · exact desk.store.withEquipment_ne r call.now (congrArg Desk.store hsame)

/-- A registration is all or nothing exactly if it is declined for its total, or if the id that the
equipment is given and the id of the user can be stored. Otherwise it fails after its first commit:
the equipment is there, without an entry in the audit trail, and nothing else has changed.

The id of the equipment can always be stored unless the largest number that can be is an id already.
There `Table.nextId` leaves out that the database gives another id, which can be stored as well, so
that it is the id of the user alone that a registration fails for. -/
theorem registersWhole_iff (desk : Desk) (call : Call) (r : Equipments.RegisterRequest) :
    (desk.RegistersWhole call r ↔ (1 ≤ r.total → fitsWord r.total = true →
        fitsWord desk.store.equipments.nextId = true ∧ fitsWord? r.user = true))
      ∧ (¬ desk.RegistersWhole call r → desk.fulfil call (.register r)
        = { result := .error .numberTooWide
            desk := { desk with store := desk.store.withEquipment r call.now } }) := by
  by_cases hasked : 1 ≤ r.total ∧ fitsWord r.total = true
  · obtain ⟨units, fits⟩ := hasked
    have hnoted : (Equipments.registration r desk.store.equipments.nextId call.now).fits = true
        ↔ fitsWord desk.store.equipments.nextId = true ∧ fitsWord? r.user = true := by
      rw [Equipments.fits_registration, Bool.and_eq_true]
    cases hentry : (Equipments.registration r desk.store.equipments.nextId call.now).fits with
    | true =>
        have hwhole : desk.RegistersWhole call r := registersWhole_of_noted units fits hentry
        exact ⟨iff_of_true hwhole fun _ _ => hnoted.1 hentry, fun hhalf => absurd hwhole hhalf⟩
    | false =>
        obtain ⟨hhalf, houtcome⟩ := not_registersWhole_of_unnoted units fits hentry
        refine ⟨iff_of_false hhalf fun hstored => ?_, fun _ => houtcome⟩
        rw [hnoted.2 (hstored units fits)] at hentry
        cases hentry
  · have hdeclined : r.total < 1 ∨ fitsWord r.total = false := by
      by_cases hunits : r.total < 1
      · exact Or.inl hunits
      · exact Or.inr (Bool.eq_false_iff.2 fun fits => hasked ⟨Int.not_lt.1 hunits, fits⟩)
    have hwhole : desk.RegistersWhole call r := registersWhole_of_declined hdeclined
    exact ⟨iff_of_true hwhole fun units fits => absurd ⟨units, fits⟩ hasked,
      fun hhalf => absurd hwhole hhalf⟩

/-- Three lamps, registered by a user whose id is the first that does not fit a word. -/
def lampsByStranger : Equipments.RegisterRequest :=
  { name := some "Lamp", total := 3, user := some 0x8000000000000000 }

/-- Their registration fails, but the lamps are there, and nothing tells who registered them. -/
theorem not_registersWhole_lampsByStranger :
    ¬ ({} : Desk).RegistersWhole { now := default } lampsByStranger
      ∧ (({} : Desk).fulfil { now := default } (.register lampsByStranger)).result
        = .error .numberTooWide
      ∧ (({} : Desk).fulfil { now := default }
          (.register lampsByStranger)).desk.store.equipments.rows
        = [(1, Equipments.newRow lampsByStranger default)]
      ∧ (({} : Desk).fulfil { now := default } (.register lampsByStranger)).desk.store.audits.rows
        = [] := by
  have hunnoted :
      (Equipments.registration lampsByStranger ({} : Desk).store.equipments.nextId default).fits
        = false := by
    decide +kernel
  have hunits : 1 ≤ lampsByStranger.total := by
    decide
  have hfits : fitsWord lampsByStranger.total = true := by
    decide
  obtain ⟨hhalf, houtcome⟩ :
      ¬ ({} : Desk).RegistersWhole { now := default } lampsByStranger ∧ _ :=
    not_registersWhole_of_unnoted hunits hfits hunnoted
  rw [houtcome]
  exact ⟨hhalf, rfl, rfl, rfl⟩

end Desk

end StageStock
