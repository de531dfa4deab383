import Mathlib.Tactic.Lemma
import StageStock.Proofs.Buckets

/-!
Leaving a ledger and coming back to it.

Orders for one bucket of a ledger leave all other buckets alone, however many of them are made. So a
ledger that has been left by such orders is reached again as soon as the bucket holds what it held
at the start; only the version is higher.

* `Store.YieldsBy`: what orders of some kind make of a store; what each of them keeps, all of them
  keep (`Store.YieldsBy.preserves`);
* `Store.Departs`: a store whose ledger is sound and differs from that of the start in one bucket
  (`Desk.departs_fulfil`);
* `Store.DiffersIn.eq_of_same`: if the bucket is the same as well, so is the ledger;
* `Desk.GivesBack`: an order that leads back to a ledger;
* `Desk.givesBack_of_readies`: an order does if its changes can be written and restore the bucket.
-/

namespace StageStock

/-! ### Rows of orders of one kind -/

/-- Orders of some kind make one store of another. Each may have come to another desk, and no other
worker has committed beside them. -/
inductive Store.YieldsBy (allowed : Store → Order → Prop) (s : Store) : Store → Prop where
  | refl : s.YieldsBy allowed s
  | order (desk : Desk) (call : Call) (o : Order) (h : s.YieldsBy allowed desk.store)
      (kind : allowed desk.store o) (alone : call.rivals = []) :
      s.YieldsBy allowed (desk.fulfil call o).desk.store

/-- What each order of the kind keeps, a row of them keeps. -/
lemma Store.YieldsBy.preserves {allowed : Store → Order → Prop} {I : Store → Prop} {s t : Store}
    (h : s.YieldsBy allowed t) (start : I s)
    (step : ∀ (desk : Desk) (call : Call) (o : Order), allowed desk.store o → call.rivals = [] →
      I desk.store → I (desk.fulfil call o).desk.store) : I t := by
  induction h with
  | refl => exact start
  | order desk call o _ kind alone ih => exact step desk call o kind alone ih

/-! ### Ledgers that differ in one bucket -/

/-- Two ledgers record the same in a bucket. -/
def Bucket.Same (m m' : Snapshot) : Bucket → Prop
  | reservation _ => m.reservations = m'.reservations
  | placements => m.placements = m'.placements
  | installation => m.installation = m'.installation
  | total => m.total = m'.total

namespace Store

variable {s t : Store} {e showId : Int} {b : Bucket} {start after : Snapshot}

/-- Ledgers that differ in one bucket, in which they record the same, are the same but for the
version. -/
theorem DiffersIn.eq_of_same (h : s.DiffersIn e b t) (read : s.ledger? e = .ok start)
    (reread : t.ledger? e = .ok after) (same : b.Same after start) :
    after = { start with version := after.version } := by
  obtain ⟨hplacements, hreservations, hinstallation, htotal⟩ := h.outside_eq read reread
  have hequipment : after.equipment = start.equipment := by
    obtain ⟨row, -, -, rfl⟩ := ledger?_eq_ok.1 read
    obtain ⟨row', -, -, rfl⟩ := ledger?_eq_ok.1 reread
    rfl
  obtain ⟨e, total, placements, reservations, installation, version⟩ := start
  obtain ⟨e', total', placements', reservations', installation', version'⟩ := after
  simp only at hplacements hreservations hinstallation htotal hequipment ⊢
  cases b with
  | reservation showId =>
      rw [hequipment, hplacements (by simp), hinstallation (by simp), htotal (by simp),
        show reservations' = reservations from same]
  | placements =>
      rw [hequipment, hreservations (by simp), hinstallation (by simp), htotal (by simp),
        show placements' = placements from same]
  | installation =>
      rw [hequipment, hplacements (by simp), hreservations (by simp), htotal (by simp),
        show installation' = installation from same]
  | total =>
      rw [hequipment, hplacements (by simp), hreservations (by simp), hinstallation (by simp),
        show total' = total from same]

/-- Where a show has no row, all rows of the equipment are those of other shows. -/
lemma reservationsOutside_of_free (free : ∀ row ∈ s.reservationsOf e, row.2.showId ≠ showId) :
    s.reservationsOutside e (.reservation showId) = s.reservationsOf e := by
  refine List.filter_congr fun row hrow => ?_
  by_cases hown : row.2.equipment = e
  · have hother := free row (mem_reservationsOf.2 ⟨hrow, hown⟩)
    simp [hown, Ne.symm hother]
  · simp [hown]

/-- Where a show has no row in either of two stores that differ in its reservations only, the
reservations are the same. -/
lemma DiffersIn.same_of_free (h : s.DiffersIn e (.reservation showId) t)
    (read : s.ledger? e = .ok start) (reread : t.ledger? e = .ok after)
    (free : ∀ row ∈ s.reservationsOf e, row.2.showId ≠ showId)
    (free' : ∀ row ∈ t.reservationsOf e, row.2.showId ≠ showId) :
    Bucket.Same after start (.reservation showId) := by
  obtain ⟨row, -, -, rfl⟩ := ledger?_eq_ok.1 read
  obtain ⟨row', -, -, rfl⟩ := ledger?_eq_ok.1 reread
  have hrows : t.reservationsOf e = s.reservationsOf e := by
    rw [← reservationsOutside_of_free free, ← reservationsOutside_of_free free', h.reservations]
  show (t.reservationsOf e).map t.reservationOf = (s.reservationsOf e).map s.reservationOf
  rw [hrows]
  exact List.map_congr_left fun r _ => by simp only [reservationOf, h.beside.shows]

/-- A store with a sound ledger that differs from that of another store in one bucket. -/
structure Departs (e : Int) (b : Bucket) (s t : Store) : Prop where
  differs : s.DiffersIn e b t
  stored : t.fits = true
  sound : ∃ m, t.ledger? e = .ok m ∧ m.IsSound

lemma departs_start (stored : s.fits = true) (read : s.ledger? e = .ok start)
    (sound : start.IsSound) (b : Bucket) : s.Departs e b s :=
  ⟨.refl _ _ _, stored, start, read, sound⟩

lemma Departs.isSound (h : s.Departs e b t) (read : t.ledger? e = .ok after) : after.IsSound := by
  obtain ⟨m, hm, hsound⟩ := h.sound
  rwa [← Except.ok.inj (hm.symm.trans read)]

end Store

/-- What is ready was prepared for the version that was read, and the caller expects none. -/
lemma Order.Makes.timely {o : Order} {today : Date} {s : Store} {m : Mutation Json}
    {read : Snapshot} {work : Prepared Json} (h : o.Makes today s m) (ready : m.Readies read work) :
    work.expected = none ∧ ∀ version, work.read = some version → version = read.version := by
  by_cases reads : o.readsLedger = true
  · obtain ⟨prepare, hprepared, horderly⟩ := h.exists_orderly reads
    rw [Mutation.Readies, hprepared] at ready
    obtain ⟨plain, hplain, rfl⟩ := ready
    exact ⟨horderly.unexpected read plain hplain, fun _ hversion => (Option.some.inj hversion).symm⟩
  · cases h with
    | removeReservation made =>
        obtain ⟨row, answer, -, rfl, -⟩ := Reservations.remove_eq_ok made
        obtain rfl := ready
        exact ⟨rfl, fun _ hversion => by cases hversion⟩
    | _ => exact absurd rfl reads

namespace Desk

variable {s : Store} {desk : Desk} {call : Call} {o : Order} {e : Int} {b : Bucket}
  {start current after : Snapshot} {w : Worksheet} {m : Mutation Json} {work : Prepared Json}

/-- An order for the bucket departs no further. -/
lemma departs_commit {t : Store} {committed : Snapshot} (h : s.Departs m.equipment b desk.store)
    (makes : o.Makes call.now.date desk.store m) (ready : m.Readies current work)
    (within : o.bucket? desk.store = some b)
    (commits : desk.store.Commits (m.proposal work) call.now current after w t committed) :
    s.Departs m.equipment b t := by
  obtain ⟨b', hbucket, htouches⟩ := makes.touches ready commits.read commits.applied
  obtain rfl : b = b' := Option.some.inj (within.symm.trans hbucket)
  exact ⟨h.differs.trans (commits.changesOnly htouches).toDiffersIn, commits.fits, committed,
    commits.reread, commits.isSound_of_proper (makes.proper.of_readies commits.read ready)⟩

theorem departs_fulfil (h : s.Departs e b desk.store) (alone : call.rivals = [])
    (on : o.equipment? desk.store = some e) (within : o.bucket? desk.store = some b) :
    s.Departs e b (desk.fulfil call o).desk.store := by
  refine fulfil_keeps alone on h fun hmakes he hready hcommits => ?_
  subst he
  exact departs_commit h hmakes hready within hcommits

/-- An order without other workers that succeeds has made one commit to the ledger of the start. -/
lemma exists_commit_of_granted {answer : Json} (alone : call.rivals = [])
    (on : o.equipment? desk.store = some e) (origin : desk.store.ledger? e = .ok start)
    (granted : (desk.fulfil call o).result = .ok answer) :
    ∃ m work after w committed, o.Makes call.now.date desk.store m ∧ m.equipment = e
      ∧ m.Readies start work ∧ desk.store.Commits (m.proposal work) call.now start after w
        (desk.fulfil call o).desk.store committed := by
  obtain ⟨m, k, work, before, after, w, t, committed, hmakes, -, hready, hcommits, houtcome⟩ :=
    fulfil_ok (o.isLocked_of_equipment? on) granted
  rw [alone, List.take_nil, o.afterRivals_nil] at hcommits
  obtain rfl : e = m.equipment := Option.some.inj (on.symm.trans hmakes.equipment?_eq)
  obtain rfl : before = start := Except.ok.inj (hcommits.read.symm.trans origin)
  rw [houtcome]
  exact ⟨m, work, after, w, committed, hmakes, rfl, hready, hcommits⟩

/-! ### Orders that give back -/

/-- An order gives back all that a ledger has granted since: it succeeds and leaves the ledger as it
was at the start but for the version, if the version can still be raised. If not, it fails and
changes nothing. -/
def GivesBack (desk : Desk) (call : Call) (o : Order) (e : Int) (start : Snapshot) : Prop :=
  ∃ current, desk.store.ledger? e = .ok current
    ∧ (fitsWord (current.version + 1) = true →
      (∃ answer, (desk.fulfil call o).result = .ok answer)
        ∧ (desk.fulfil call o).desk.store.ledger? e
          = .ok { start with version := current.version + 1 })
    ∧ (fitsWord (current.version + 1) = false →
      desk.fulfil call o = { result := .error .numberTooWide, desk })

/-- An order gives back if its changes can be written and leave the bucket as it was at the
start. -/
theorem givesBack_of_readies (h : s.Departs m.equipment b desk.store)
    (origin : s.ledger? m.equipment = .ok start) (unhindered : desk.Unhindered call m.equipment)
    (makes : o.Makes call.now.date desk.store m) (within : o.bucket? desk.store = some b)
    (read : desk.store.ledger? m.equipment = .ok current) (ready : m.Readies current work)
    (applied : Change.applyAll current work.changes = .ok after)
    (written : Worksheet.writeAll { store := desk.store } ⟨m.equipment, m.user, call.now⟩
      work.changes = .ok w)
    (fits : ∀ c ∈ work.changes, c.Fits) (user : fitsWord? m.user = true)
    (restores : ∀ t committed,
      desk.store.Commits (m.proposal work) call.now current after w t committed →
      s.Departs m.equipment b t → b.Same committed start) :
    desk.GivesBack call o m.equipment start := by
  obtain ⟨hexpected, hversion⟩ := makes.timely ready
  have hcommittable := Store.Committable.of_readies makes.proper makes.lawful ready hexpected
    hversion h.stored read (h.isSound read) applied written fits user
  obtain ⟨request, hrequest⟩ :=
    o.exists_request? (o.isLocked_of_equipment? makes.equipment?_eq) call.now.date
  have hfulfil : desk.fulfil call o = desk.mutateWith call desk.lockRetries m :=
    (fulfil_eq_mutate hrequest).trans (mutate_of_request ((Order.makes_iff hrequest).2 makes))
  obtain ⟨hroom, hfull⟩ := mutateWith_of_committable desk.lockRetries unhindered
    (makes.answers.of_readies read ready) ready hcommittable
  refine ⟨current, read, fun room => ?_, fun full => hfulfil.trans (hfull full)⟩
  obtain ⟨t, committed, answer, hcommits, -, hresult, hdesk⟩ := hroom room
  have hdeparts := departs_commit h makes ready within hcommits
  have hledger := hdeparts.differs.eq_of_same origin hcommits.reread
    (restores t committed hcommits hdeparts)
  rw [hcommits.version_eq] at hledger
  rw [hfulfil, hdesk]
  exact ⟨⟨answer, hresult⟩, hledger ▸ hcommits.reread⟩

end Desk

end StageStock
