import Mathlib.Tactic.Lemma
import StageStock.Proofs.Alignment
import StageStock.Proofs.Seating

/-!
When the ledger that is stored is the one that was checked.

A commit checks the ledger in memory and stores rows. What is read back of them is the checked
ledger if the rows say the same; rows do not say everything, and rows that wait are not seen by the
changes that follow.

* `Snapshot.StoredAs`: a ledger read back is one in memory, up to the order of rows, the ids of new
  rows and the blanks of descriptions;
* `Snapshot.StoredAs.alike`: the rules do not tell the two apart;
* `Proposal.Faithful`: what the changes must satisfy for this;
* `Store.commit_storedAs_iff`: a commit stores the ledger that it checked exactly if its changes are
  faithful.
-/

namespace StageStock

/-! ### Ledgers read back -/

/-- A placement as it is read back: its words are normalised, and an id that it names is kept. -/
structure Placement.StoredAs (p q : Placement) : Prop where
  same : q = { p with id := q.id, place := p.place.normalised }
  named : ∀ id, p.id = some id → q.id = some id

/-- A reservation as it is read back: an id that it names is kept. -/
structure Reservation.StoredAs (r q : Reservation) : Prop where
  same : q = { r with id := q.id }
  named : ∀ id, r.id = some id → q.id = some id

/-- A ledger as it is read back, one version later. -/
structure Snapshot.StoredAs (after committed : Snapshot) : Prop where
  equipment : committed.equipment = after.equipment
  version : committed.version = after.version + 1
  total : committed.total = after.total
  placements : Matched Placement.StoredAs after.placements committed.placements
  reservations : Matched Reservation.StoredAs after.reservations committed.reservations
  installation : committed.installation
    = { after.installation with place := after.installation.place.map Place.normalised }

lemma Placement.StoredAs.key_eq {p q : Placement} (h : p.StoredAs q) :
    p.place.key = q.place.key := by
  rw [h.same, Place.key_normalised]

lemma Snapshot.StoredAs.alike {after committed : Snapshot} (h : after.StoredAs committed) :
    after.Alike committed where
  total := h.total.symm
  placements := h.placements.mono fun p _ q _ hpq =>
    ⟨hpq.key_eq, by rw [hpq.same], by rw [hpq.same]⟩
  reservations := h.reservations.mono fun r _ q _ hrq =>
    ⟨by rw [hrq.same], by rw [hrq.same], by rw [hrq.same], by rw [hrq.same]⟩
  kind := by rw [h.installation]
  quantity := by rw [h.installation]
  place := by
    rw [h.installation]
    exact (Option.isSome_map ..).symm

/-! ### Faithful changes -/

/-- What a replacement needs of the rows that wait when it is written: placements that name an id
get the row that has it, and placements whose rows wait to be dropped are those that wait to be
entered. -/
structure Worksheet.Seats (w : Worksheet) (e : Int) (ps : List Placement) : Prop where
  staying : ∀ p ∈ w.staying e ps, ∀ id, p.id = some id → w.seat? e p = some id
  fresh : ∀ row ∈ w.seatedFresh e ps, ∀ id, row.2.id = some id → row.1 = id
  lost : Matched Placement.StoredAs (w.lost e ps) w.waiting

/-- Changes whose rows say what the changes say. -/
structure Proposal.Faithful (p : Proposal) (s : Store) (now : Moment) (before after : Snapshot) :
    Prop where
  /-- A reservation that names an id is one that the ledger has. -/
  known : Change.strays before p.changes = 0
  /-- It is for the show that its row is for. -/
  shows : ∀ r ∈ after.reservations, ∀ id, r.id = some id →
    ∃ b ∈ before.reservations, b.id = some id ∧ b.showId = r.showId
  /-- The days of a reservation are those of its show. -/
  days : ∀ r ∈ after.reservations, r.first = (s.shows.find? r.showId).bind ShowRow.first
    ∧ r.last = (s.shows.find? r.showId).bind ShowRow.last
  words : ∀ q ∈ after.placements, q.place.HasWords
  installed : ∀ place, after.installation.place = some place → place.HasWords
  seated : ∀ front ps w, Change.LastReplacement p.changes front ps →
    Worksheet.writeAll { store := s } (p.author now) front = .ok w → w.Seats p.equipment ps

namespace Store.Commits

variable {s t : Store} {p : Proposal} {now : Moment} {before after committed : Snapshot}
  {w : Worksheet} {front : List Change} {ps : List Placement}

/-! ### Reservations -/

lemma reservations_read (h : s.Commits p now before after w t committed) :
    committed.reservations = (w.flushed.reservationsOf p.equipment).map t.reservationOf := by
  obtain ⟨row, -, hcommitted, -⟩ := h.committed_eq
  rw [hcommitted]
  show (t.reservationsOf p.equipment).map t.reservationOf = _
  rw [reservationsOf, h.tables_eq.2]
  rfl

/-- Reservations that are read have different ids. -/
lemma eq_of_id (read : s.ledger? p.equipment = .ok before) {b b' : Reservation}
    (hb : b ∈ before.reservations) (hb' : b' ∈ before.reservations) {id : Int}
    (hid : b.id = some id) (hid' : b'.id = some id) : b = b' := by
  obtain ⟨equipment, -, -, rfl⟩ := ledger?_eq_ok.1 read
  obtain ⟨row, hrow, -, rfl⟩ := find?_of_mem_reservations hb hid
  obtain ⟨row', hrow', -, rfl⟩ := find?_of_mem_reservations hb' hid'
  rw [hrow] at hrow'
  rw [Option.some.inj hrow']

/-- The row of a reservation says all of it but the days, which are those of the show. -/
lemma reservationOf_eq (h : s.Commits p now before after w t committed) {r : Reservation}
    (hr : r ∈ after.reservations) {row : Int × ReservationRow}
    (records : Worksheet.Records before r row)
    (shows : ∀ id, r.id = some id →
      ∃ b ∈ before.reservations, b.id = some id ∧ b.showId = r.showId) :
    t.reservationOf row = { r with
      id := some row.1
      first := (s.shows.find? r.showId).bind ShowRow.first
      last := (s.shows.find? r.showId).bind ShowRow.last } := by
  have hsound := (Snapshot.violations_eq_nil_iff_isSound after).1 h.lawful
  have hshow : row.2.showId = r.showId := by
    cases hid : r.id with
    | none => exact records.new hid
    | some id =>
        obtain ⟨-, b, hb, hbid, hbshow⟩ := records.old id hid
        obtain ⟨b', hb', hbid', hbshow'⟩ := shows id hid
        rw [← hbshow, eq_of_id h.read hb hb' hbid hbid', hbshow']
  have hstatus : (if row.2.status = "" then ReservationStatus.requested.text else row.2.status)
      = r.status := by
    rcases records.status with hsame | ⟨hempty, husual⟩
    · rw [hsame, if_neg (hsound.reservations r hr).status_ne_empty]
    · rw [if_pos hempty, husual]
  rw [reservationOf]
  rw [hshow, hstatus, records.needed, records.allocated, records.notes, h.agreesBeside.shows]

/-- What each row says of its reservation, the ledger read back says of it. -/
lemma matched_reservations (h : s.Commits p now before after w t committed)
    (known : Change.strays before p.changes = 0) {R : Reservation → Reservation → Prop}
    (hR : ∀ r ∈ after.reservations, ∀ row, Worksheet.Records before r row →
      R r (t.reservationOf row)) :
    Matched R after.reservations committed.reservations := by
  rw [h.reservations_read]
  exact Matched.map_right ((h.aligned known).mono fun r hr row _ hrow => hR r hr row hrow)

/-- Without a stray there are as many rows as reservations in memory, with one there are more of the
latter. -/
lemma strays_of_storedAs (h : s.Commits p now before after w t committed)
    (stored : Matched Reservation.StoredAs after.reservations committed.reservations) :
    Change.strays before p.changes = 0 := by
  have hlength := stored.length_eq
  rw [h.reservations_read, List.length_map] at hlength
  have hcounts := h.counts
  omega

/-- A reservation that is stored as it is has a row that it is read back from. -/
lemma exists_row_of_storedAs (h : s.Commits p now before after w t committed)
    (stored : Matched Reservation.StoredAs after.reservations committed.reservations)
    {r : Reservation} (hr : r ∈ after.reservations) :
    ∃ row ∈ w.flushed.reservationsOf p.equipment, r.StoredAs (t.reservationOf row) := by
  obtain ⟨q, hq, hrq⟩ := stored.exists_right hr
  rw [h.reservations_read] at hq
  obtain ⟨row, hrow, rfl⟩ := List.mem_map.1 hq
  exact ⟨row, hrow, hrq⟩

/-- The row that a reservation is read back from is the one that records it. -/
lemma shows_of_storedAs (h : s.Commits p now before after w t committed)
    (stored : Matched Reservation.StoredAs after.reservations committed.reservations)
    {r : Reservation} (hr : r ∈ after.reservations) {id : Int} (hid : r.id = some id) :
    ∃ b ∈ before.reservations, b.id = some id ∧ b.showId = r.showId := by
  obtain ⟨row, hrow, hread⟩ := h.exists_row_of_storedAs stored hr
  obtain ⟨row', hrow', hrecords⟩ := (h.aligned (h.strays_of_storedAs stored)).exists_right hr
  obtain ⟨hid', b, hb, hbid, hbshow⟩ := hrecords.old id hid
  have hrowid : row.1 = id := Option.some.inj (hread.named id hid)
  have hsame : row = row' := List.inj_on_of_nodup_map
    (Worksheet.nodup_ids_reservationsOf w.flushed p.equipment) hrow hrow' (hrowid.trans hid'.symm)
  have hshow : row.2.showId = r.showId := congrArg Reservation.showId hread.same
  exact ⟨b, hb, hbid, by rw [hbshow, ← hsame, hshow]⟩

/-- Reservations are stored as they are in memory exactly if they name ids that the ledger has, with
the shows of these, and the days of their shows. -/
theorem reservations_storedAs_iff (h : s.Commits p now before after w t committed) :
    Matched Reservation.StoredAs after.reservations committed.reservations
      ↔ Change.strays before p.changes = 0
        ∧ (∀ r ∈ after.reservations, ∀ id, r.id = some id →
          ∃ b ∈ before.reservations, b.id = some id ∧ b.showId = r.showId)
        ∧ ∀ r ∈ after.reservations, r.first = (s.shows.find? r.showId).bind ShowRow.first
          ∧ r.last = (s.shows.find? r.showId).bind ShowRow.last := by
  constructor
  · intro hstored
    refine ⟨h.strays_of_storedAs hstored, fun r hr id hid => h.shows_of_storedAs hstored hr hid,
      fun r hr => ?_⟩
    obtain ⟨row, -, hread⟩ := h.exists_row_of_storedAs hstored hr
    have hshow : row.2.showId = r.showId := congrArg Reservation.showId hread.same
    have hfirst : (t.shows.find? row.2.showId).bind ShowRow.first = r.first :=
      congrArg Reservation.first hread.same
    have hlast : (t.shows.find? row.2.showId).bind ShowRow.last = r.last :=
      congrArg Reservation.last hread.same
    rw [h.agreesBeside.shows, hshow] at hfirst hlast
    exact ⟨hfirst.symm, hlast.symm⟩
  · rintro ⟨hknown, hshows, hdays⟩
    refine h.matched_reservations hknown fun r hr row hrecords => ?_
    rw [h.reservationOf_eq hr hrecords (hshows r hr), ← (hdays r hr).1, ← (hdays r hr).2]
    exact ⟨rfl, fun id hid => congrArg some (hrecords.old id hid).1⟩

/-! ### Placements -/

/-- Placements that are read back had words. -/
lemma hasWords_of_storedAs (h : s.Commits p now before after w t committed)
    (stored : Matched Placement.StoredAs after.placements committed.placements) :
    ∀ q ∈ after.placements, q.place.HasWords := by
  intro q hq
  obtain ⟨q', hq', hsame⟩ := stored.exists_right hq
  rw [h.placements_read] at hq'
  obtain ⟨row, -, hrow⟩ := List.mem_filterMap.1 hq'
  have hwords := (Placement.hasWords_of_placementOf? hrow).1
  rw [hsame.same] at hwords
  exact (Place.hasWords_normalised _).1 hwords

/-- Without a replacement the placements are stored as they are. -/
lemma placements_storedAs_of_none (h : s.Commits p now before after w t committed)
    (none : ∀ c ∈ p.changes, c.isReplacement = false) :
    Matched Placement.StoredAs after.placements committed.placements := by
  obtain ⟨hafter, hcommitted⟩ := h.placements_eq none
  have hread : ∀ q ∈ committed.placements, Placement.StoredAs (id q) q := by
    intro q hq
    rw [h.placements_read] at hq
    obtain ⟨row, -, hrow⟩ := List.mem_filterMap.1 hq
    obtain ⟨-, hnormal⟩ := Placement.hasWords_of_placementOf? hrow
    refine ⟨?_, fun id hid => hid⟩
    rw [id_eq, hnormal]
  have hself := Matched.map_left hread
  rw [List.map_id] at hself
  rwa [hafter, ← hcommitted]

/-- What is told of a placement that stays, of a new one and of those that wait, is told of all. -/
lemma matched_placements (h : s.Commits p now before after w t committed)
    (last : Change.LastReplacement p.changes front ps) {w₀ : Worksheet}
    (written : Worksheet.writeAll { store := s } (p.author now) front = .ok w₀)
    (words : ∀ q ∈ after.placements, q.place.HasWords) {R : Placement → Placement → Prop}
    (staying : ∀ q ∈ w₀.staying p.equipment ps, ∀ id, w₀.seat? p.equipment q = some id →
      R q { q with id := some id, place := q.place.normalised })
    (fresh : ∀ row ∈ w₀.seatedFresh p.equipment ps,
      R row.2 { row.2 with id := some row.1, place := row.2.place.normalised })
    (lost : Matched R (w₀.lost p.equipment ps) w₀.waiting) :
    Matched R after.placements committed.placements := by
  obtain ⟨w₁, hwritten, hafter, hperm⟩ := h.placements_perm last
  obtain rfl : w₁ = w₀ := Except.ok.inj (hwritten.symm.trans written)
  rw [hafter] at words ⊢
  have hall := ((Worksheet.matched_stayingRead words staying).append
    (Worksheet.matched_freshRead words fresh)).append lost
  exact (hall.perm_left (w₁.destinations_perm p.equipment ps)).perm_right hperm.symm

/-- Placements that are stored as they are in memory were seated by the last replacement. -/
lemma seats_of_storedAs (h : s.Commits p now before after w t committed)
    (stored : Matched Placement.StoredAs after.placements committed.placements)
    (last : Change.LastReplacement p.changes front ps) {w₀ : Worksheet}
    (written : Worksheet.writeAll { store := s } (p.author now) front = .ok w₀) :
    w₀.Seats p.equipment ps := by
  have hwords := h.hasWords_of_storedAs stored
  have hplaces := ((Snapshot.violations_eq_nil_iff_isSound after).1 h.lawful).places
  obtain ⟨w₁, hwritten, hafter, hperm⟩ := h.placements_perm last
  obtain rfl : w₁ = w₀ := Except.ok.inj (hwritten.symm.trans written)
  rw [hafter] at hwords hplaces stored
  have hdestinations := w₁.destinations_perm p.equipment ps
  have hnodup := (hdestinations.map fun q => q.place.key).nodup_iff.2 hplaces
  -- what has a row that stays, or gets one, is read back under the same keys
  have hkeys : Matched (fun q q' : Placement => q.place.key = q'.place.key)
      (w₁.staying p.equipment ps ++ w₁.fresh p.equipment ps)
      (w₁.stayingRead p.equipment ps ++ w₁.freshRead p.equipment ps) :=
    (Worksheet.matched_stayingRead hwords fun q _ _ _ => (Place.key_normalised q.place).symm).append
      (Worksheet.matched_freshRead hwords fun row _ => (Place.key_normalised row.2.place).symm)
  obtain ⟨hseated, hlost⟩ := ((stored.perm_left hdestinations.symm).perm_right hperm).split
    (fun _ _ hqq => hqq.key_eq) hnodup (hkeys.map_perm fun _ _ _ _ hqq => hqq)
  have hseatedNodup : ((w₁.staying p.equipment ps ++ w₁.fresh p.equipment ps).map
      fun q => q.place.key).Nodup := hnodup.sublist ((List.sublist_append_left _ _).map _)
  refine ⟨fun q hq id hid => ?_, fun row hrow id hid => ?_, hlost⟩
  · obtain ⟨hmem, seat, hseat, -⟩ := Worksheet.mem_staying.1 hq
    have hread : { q with id := some seat, place := q.place.normalised }
        ∈ w₁.stayingRead p.equipment ps ++ w₁.freshRead p.equipment ps := by
      refine List.mem_append_left _ (List.mem_filterMap.2 ⟨q, hq, ?_⟩)
      rw [hseat, Option.bind_some, Placement.readBack_of_hasWords (hwords q hmem)]
    have hsame := hseated.rel_of_key (fun _ _ hqq => hqq.key_eq) hseatedNodup
      (List.mem_append_left _ hq) hread (Place.key_normalised q.place).symm
    rw [hseat]
    exact hsame.named id hid
  · have hfresh : row.2 ∈ w₁.fresh p.equipment ps := mem_of_mem_numberFrom hrow
    have hread : { row.2 with id := some row.1, place := row.2.place.normalised }
        ∈ w₁.stayingRead p.equipment ps ++ w₁.freshRead p.equipment ps := by
      refine List.mem_append_right _ (List.mem_filterMap.2 ⟨row, hrow, ?_⟩)
      exact Placement.readBack_of_hasWords (hwords _ (List.mem_filter.1 hfresh).1) row.1
    have hsame := hseated.rel_of_key (fun _ _ hqq => hqq.key_eq) hseatedNodup
      (List.mem_append_right _ hfresh) hread (Place.key_normalised row.2.place).symm
    exact Option.some.inj (hsame.named id hid)

/-- Placements are stored as they are in memory exactly if they have words and the last replacement
gives them the rows that they need. -/
theorem placements_storedAs_iff (h : s.Commits p now before after w t committed) :
    Matched Placement.StoredAs after.placements committed.placements
      ↔ (∀ q ∈ after.placements, q.place.HasWords)
        ∧ ∀ front ps w, Change.LastReplacement p.changes front ps →
          Worksheet.writeAll { store := s } (p.author now) front = .ok w →
          w.Seats p.equipment ps := by
  constructor
  · exact fun hstored => ⟨h.hasWords_of_storedAs hstored,
      fun front ps w last written => h.seats_of_storedAs hstored last written⟩
  · rintro ⟨hwords, hseats⟩
    rcases Change.exists_lastReplacement p.changes with hnone | ⟨front, ps, hlast⟩
    · exact h.placements_storedAs_of_none hnone
    · obtain ⟨w₀, hwritten, -, -⟩ := h.placements_perm hlast
      obtain ⟨hstaying, hfresh, hlost⟩ := hseats front ps w₀ hlast hwritten
      refine h.matched_placements hlast hwritten hwords (fun q hq seat hseat => ⟨rfl, ?_⟩)
        (fun row hrow => ⟨rfl, ?_⟩) hlost
      · exact fun id hid => hseat.symm.trans (hstaying q hq id hid)
      · exact fun id hid => congrArg some (hfresh row hrow id hid)

/-! ### The installation -/

/-- The installation is stored as it is in memory exactly if its place has words. -/
theorem installation_storedAs_iff (h : s.Commits p now before after w t committed) :
    committed.installation
        = { after.installation with place := after.installation.place.map Place.normalised }
      ↔ ∀ place, after.installation.place = some place → place.HasWords := by
  obtain ⟨row, -, hcommitted, -, -, hinstallation⟩ := h.committed_eq
  have hsound := (Snapshot.violations_eq_nil_iff_isSound after).1 h.lawful
  have hread : committed.installation
      = { after.installation with place := after.installation.place.bind Place.reread } := by
    rw [hcommitted]
    refine hinstallation.trans ?_
    rw [Installation.recorded, if_neg hsound.installation.kind_ne_empty]
  rw [hread]
  cases hplace : after.installation.place with
  | none => simp
  | some place =>
      by_cases hwords : place.HasWords
      · simp [Place.reread, hwords]
      · simp [Place.reread, hwords]

end Store.Commits

/-! ### The whole ledger -/

lemma Change.version_apply {m m' : Snapshot} {c : Change} (h : apply m c = .ok m') :
    m'.version = m.version ∧ m'.equipment = m.equipment := by
  cases c with
  | dropReservation id showId =>
      obtain ⟨-, rfl⟩ := dropped_of_apply h
      exact ⟨rfl, rfl⟩
  | putReservation r => exact Except.ok.inj h ▸ ⟨rfl, rfl⟩
  | replacePlacements ps => exact Except.ok.inj h ▸ ⟨rfl, rfl⟩
  | setInstallation i => exact Except.ok.inj h ▸ ⟨rfl, rfl⟩
  | setTotal total => exact Except.ok.inj h ▸ ⟨rfl, rfl⟩

lemma Change.version_applyAll {m m' : Snapshot} {cs : List Change} (h : applyAll m cs = .ok m') :
    m'.version = m.version ∧ m'.equipment = m.equipment := by
  induction cs generalizing m with
  | nil => exact Except.ok.inj h ▸ ⟨rfl, rfl⟩
  | cons c rest ih =>
      obtain ⟨next, hc, hrest⟩ := exists_apply_of_applyAll h
      obtain ⟨hversion, hequipment⟩ := version_apply hc
      exact ⟨(ih hrest).1.trans hversion, (ih hrest).2.trans hequipment⟩

namespace Store

variable {s t : Store} {p : Proposal} {now : Moment} {before after committed : Snapshot}
  {w : Worksheet}

theorem Commits.storedAs_iff (h : s.Commits p now before after w t committed) :
    after.StoredAs committed ↔ p.Faithful s now before after := by
  constructor
  · intro hstored
    obtain ⟨hknown, hshows, hdays⟩ := h.reservations_storedAs_iff.1 hstored.reservations
    obtain ⟨hwords, hseated⟩ := h.placements_storedAs_iff.1 hstored.placements
    have hinstalled := h.installation_storedAs_iff.1 hstored.installation
    exact ⟨hknown, hshows, hdays, hwords, hinstalled, hseated⟩
  · intro hfaithful
    obtain ⟨row, -, hcommitted, hversion, htotal, -⟩ := h.committed_eq
    obtain ⟨equipment, -, -, hbefore⟩ := ledger?_eq_ok.1 h.read
    obtain ⟨hafterVersion, hafterEquipment⟩ := Change.version_applyAll h.applied
    refine ⟨?_, ?_, ?_, ?_, ?_, ?_⟩
    · rw [hafterEquipment, hbefore, hcommitted]
      rfl
    · rw [h.version_eq, hafterVersion]
    · rw [← htotal, hcommitted]
      rfl
    · exact h.placements_storedAs_iff.2 ⟨hfaithful.words, hfaithful.seated⟩
    · exact h.reservations_storedAs_iff.2 ⟨hfaithful.known, hfaithful.shows, hfaithful.days⟩
    · exact h.installation_storedAs_iff.2 hfaithful.installed

/-- A commit stores the ledger that it checked, one version later, exactly if its changes are
faithful; what is stored then breaks no rule. -/
theorem commit_storedAs_iff {s t : Store} {p : Proposal} {now : Moment} {committed : Snapshot}
    (h : s.commit p now = .ok (t, committed)) :
    ∃ before after, s.ledger? p.equipment = .ok before
      ∧ Change.applyAll before p.changes = .ok after
      ∧ t.ledger? p.equipment = .ok committed
      ∧ committed.version = before.version + 1
      ∧ (after.StoredAs committed ↔ p.Faithful s now before after)
      ∧ (p.Faithful s now before after → committed.violations = []) := by
  obtain ⟨before, after, w, hcommits⟩ := commits_of_commit h
  refine ⟨before, after, hcommits.read, hcommits.applied, hcommits.reread, hcommits.version_eq,
    hcommits.storedAs_iff, fun hfaithful => ?_⟩
  have hstored := hcommits.storedAs_iff.2 hfaithful
  have hsound := (Snapshot.violations_eq_nil_iff_isSound after).1 hcommits.lawful
  exact (Snapshot.violations_eq_nil_iff_isSound committed).2 (hstored.alike.isSound hsound)

end Store

/-! ### One replacement -/

lemma Worksheet.lost_of_nothing_waits {w : Worksheet} (dropped : w.droppedPlacements = []) (e : Int)
    (ps : List Placement) : w.lost e ps = [] := by
  refine List.filter_eq_nil_iff.2 fun q _ => ?_
  rw [dropped]
  cases w.seat? e q <;> simp

lemma Worksheet.waiting_of_nothing_waits {w : Worksheet} (new : w.newPlacements = []) :
    w.waiting = [] := by
  rw [waiting, new]
  rfl

lemma Change.lastReplacement_singleton {front : List Change} {ps qs : List Placement}
    (h : LastReplacement [.replacePlacements qs] front ps) : front = [] ∧ ps = qs := by
  obtain ⟨back, hchanges, -⟩ := h
  cases front with
  | nil =>
      simp only [List.nil_append, List.cons.injEq, replacePlacements.injEq] at hchanges
      exact ⟨rfl, hchanges.1.symm⟩
  | cons c rest => simp at hchanges

/-- A replacement alone is faithful, if the placements have words and no rows yet. -/
theorem Proposal.faithful_of_replacement {p : Proposal} {s : Store} {now : Moment}
    {before after : Snapshot} {qs : List Placement} (read : s.ledger? p.equipment = .ok before)
    (changes : p.changes = [.replacePlacements qs])
    (applied : Change.applyAll before p.changes = .ok after)
    (words : ∀ q ∈ qs, q.place.HasWords) (new : ∀ q ∈ qs, q.id = none) :
    p.Faithful s now before after := by
  rw [changes] at applied
  obtain rfl : { before with placements := qs } = after := Except.ok.inj applied
  obtain ⟨equipment, -, -, hbefore⟩ := Store.ledger?_eq_ok.1 read
  refine ⟨?_, fun r hr id hid => ⟨r, hr, hid, rfl⟩, fun r hr => ?_, words, fun place hplace => ?_,
    fun front ps w hlast hwritten => ?_⟩
  · rw [changes]
    rfl
  · rw [hbefore] at hr
    obtain ⟨row, -, rfl⟩ := List.mem_map.1 hr
    exact ⟨rfl, rfl⟩
  · rw [hbefore] at hplace
    exact (Place.normalised_of_ofColumns hplace).2
  · rw [changes] at hlast
    obtain ⟨rfl, rfl⟩ := Change.lastReplacement_singleton hlast
    obtain rfl : ({ store := s } : Worksheet) = w := Except.ok.inj hwritten
    refine ⟨fun q hq id hid => ?_, fun row hrow id hid => ?_, ?_⟩
    · rw [new q (List.mem_filter.1 hq).1] at hid
      cases hid
    · rw [new row.2 (List.mem_filter.1 (mem_of_mem_numberFrom hrow)).1] at hid
      cases hid
    · rw [Worksheet.lost_of_nothing_waits rfl, Worksheet.waiting_of_nothing_waits rfl]
      exact Matched.nil

/-! ### Two replacements at once -/

/-- Ten lamps and two racks. -/
def Store.twoRacks : Store :=
  { equipments := Table.empty.insert { name := some "Lamp", total := 10 }
    locations := (Table.empty.insert { name := "Rack A" }).insert { name := "Rack B" } }

/-- Six units in a rack, in a row of their own. -/
def Placement.sixIn (rack : Int) : Placement :=
  { id := none, place := .named rack, quantity := 6 }

/-- Six lamps are put in the first rack, and then in the second one instead. -/
def Proposal.rackToRack : Proposal :=
  { equipment := 1, action := "ApplyDelta"
    changes := [.replacePlacements [.sixIn 1], .replacePlacements [.sixIn 2]] }

/-- Six lamps are put in one rack. -/
def Proposal.toRack : Proposal :=
  { equipment := 1, action := "ApplyDelta", changes := [.replacePlacements [.sixIn 2]] }

/-- One replacement is stored as it was checked. -/
theorem Store.commit_toRack : ∃ t committed after,
    Store.twoRacks.commit .toRack default = .ok (t, committed)
      ∧ (Store.twoRacks.ledger? 1).bind (fun before =>
        Change.applyAll before Proposal.toRack.changes) = .ok after
      ∧ after.StoredAs committed ∧ committed.violations = [] := by
  have hcommit : ∃ t committed, Store.twoRacks.commit .toRack default = .ok (t, committed) :=
    ⟨_, _, rfl⟩
  obtain ⟨t, committed, hcommit⟩ := hcommit
  obtain ⟨before, after, hread, happlied, -, -, hiff, hlawful⟩ := commit_storedAs_iff hcommit
  have hfaithful : Proposal.toRack.Faithful Store.twoRacks default before after :=
    Proposal.faithful_of_replacement hread rfl happlied (by simp [Placement.sixIn, Place.HasWords])
      (by simp [Placement.sixIn])
  refine ⟨t, committed, after, hcommit, ?_, hiff.2 hfaithful, hlawful hfaithful⟩
  have hread' : Store.twoRacks.ledger? 1 = .ok before := hread
  rw [hread']
  exact happlied

/-- The rows of both replacements are stored, so that more lamps are placed than there are. -/
theorem Store.commit_rackToRack : ∃ t committed after,
    Store.twoRacks.commit .rackToRack default = .ok (t, committed)
      ∧ (Store.twoRacks.ledger? 1).bind (fun before =>
        Change.applyAll before Proposal.rackToRack.changes) = .ok after
      ∧ after.violations = [] ∧ after.inStore = 4
      ∧ ¬ after.StoredAs committed
      ∧ committed.violations = [.overcommitted (-2) 12 10] := by
  refine ⟨_, _, _, rfl, rfl, rfl, rfl, fun hstored => ?_, rfl⟩
  have hlength := hstored.placements.length_eq
  revert hlength
  decide

end StageStock
