import Mathlib.Tactic.Lemma
import StageStock.Proofs.Versions

/-!
The audit trail of an equipment is its whole story.

It begins with the registration, and every commit adds one entry, which says the figures of the
ledger before the commit and after it. The figures after it are those that were checked in memory,
while the next entry takes those before it from the rows; nothing changes them in between, so that
each entry goes on where the one before it ended. Nothing else adds an entry: an attempt that fails
or is overtaken leaves none.

* `Snapshot.Figures.describe_inj`: the wording of an entry says the figures;
* `Chained`: entries each of which goes on where the one before it ended;
* `Store.Commits.trail_eq`: what a commit adds to the trails of equipments;
* `Store.Told`: the trail of an equipment is its registration and one entry for each version, from
  the figures at its registration to those that it has (`Store.Told.becomes`);
* `Store.Yields.trail_eq`: so it is, whatever was ordered since the registration.
-/

namespace StageStock

/-! ### Figures and their wording -/

/-- The figures of a ledger that the audit trail notes. -/
@[ext]
structure Snapshot.Figures where
  total : Int
  placed : Int
  reserved : Int
  installed : Int
  inStore : Int
  deriving DecidableEq, Repr

namespace Snapshot

def figures (s : Snapshot) : Figures :=
  { total := s.total, placed := s.placed, reserved := s.reserved, installed := s.installed
    inStore := s.inStore }

namespace Figures

/-- The figures of an equipment whose units are all in the store. -/
def stored (total : Int) : Figures :=
  { total, placed := 0, reserved := 0, installed := 0, inStore := total }

/-- The wording of a change of figures. -/
def describe (before after : Figures) : String :=
  let part (name : String) (figure : Figures → Int) : String :=
    name ++ " " ++ toString (figure before) ++ "->" ++ toString (figure after)
  "; ".intercalate [part "total" total, part "locations" placed, part "shows" reserved,
    part "installation" installed, part "defaultStorage" inStore]

/-- The characters that say how one figure changed, and the rest. -/
def wording (name : String) (before after : Int) (rest : List Char) : List Char :=
  name.toList ++
    ((toString before).toList ++ '-' :: '>' :: ((toString after).toList ++ ';' :: rest))

lemma toList_describe (before after : Figures) :
    (before.describe after ++ ";").toList
      = wording "total " before.total after.total
        (wording " locations " before.placed after.placed
          (wording " shows " before.reserved after.reserved
            (wording " installation " before.installed after.installed
              (wording " defaultStorage " before.inStore after.inStore [])))) := by
  simp [describe, wording]

/-- A number is written with its digits, after a sign if it is negative. -/
lemma toList_toString (n : Int) : (toString n).toList
    = if 0 ≤ n then Nat.toDigits 10 n.toNat else '-' :: Nat.toDigits 10 (-n).toNat := by
  rw [Int.toString_eq_repr, Int.repr_eq_if]
  split
  · rw [Nat.toList_repr]
  · rw [String.toList_append, Nat.toList_repr]
    rfl

lemma not_mem_toDigits {c : Char} (digit : c.isDigit = false) (k : Nat) :
    c ∉ Nat.toDigits 10 k := by
  intro hk
  have hdigit := Nat.isDigit_of_mem_toDigits (by decide) (by decide) hk
  rw [digit] at hdigit
  cases hdigit

/-- Digits and a sign are all that a number is written with. -/
lemma not_mem_toString {c : Char} (digit : c.isDigit = false) (sign : c ≠ '-') (n : Int) :
    c ∉ (toString n).toList := by
  rw [toList_toString]
  split
  · exact not_mem_toDigits digit _
  · rw [List.mem_cons, not_or]
    exact ⟨sign, not_mem_toDigits digit _⟩

/-- The digits of a number say it. -/
lemma eq_of_toDigits {j k : Nat} (h : Nat.toDigits 10 j = Nat.toDigits 10 k) : j = k := by
  have hvalues := congrArg (fun digits => Nat.ofDigitChars 10 digits 0) h
  simpa only [Nat.ofDigitChars_ten_toDigits] using hvalues

/-- So do its digits with the sign, since no digit is a sign. -/
lemma eq_of_toList_toString {m n : Int} (h : (toString m).toList = (toString n).toList) :
    m = n := by
  have hsign (k : Nat) : '-' ∉ Nat.toDigits 10 k := not_mem_toDigits (by decide) k
  rw [toList_toString, toList_toString] at h
  split at h <;> split at h
  · have hsame := eq_of_toDigits h
    omega
  · exact absurd (h ▸ List.mem_cons_self) (hsign m.toNat)
  · exact absurd (h ▸ List.mem_cons_self) (hsign n.toNat)
  · have hsame := eq_of_toDigits (List.cons.inj h).2
    omega

/-- Two texts that agree up to a character that occurs in neither of them before. -/
lemma append_cons_inj {c : Char} {xs xs' ys ys' : List Char} (hx : c ∉ xs) (hx' : c ∉ xs')
    (h : xs ++ c :: ys = xs' ++ c :: ys') : xs = xs' ∧ ys = ys' := by
  rcases List.append_eq_append_iff.1 h with ⟨more, rfl, hrest⟩ | ⟨more, rfl, hrest⟩
  · cases more with
    | nil => exact ⟨by simp, (List.cons.inj hrest).2⟩
    | cons d more =>
        obtain ⟨rfl, -⟩ := List.cons.inj hrest
        exact absurd (by simp) hx'
  · cases more with
    | nil => exact ⟨by simp, (List.cons.inj hrest).2.symm⟩
    | cons d more =>
        obtain ⟨rfl, -⟩ := List.cons.inj hrest
        exact absurd (by simp) hx

/-- The arrow ends the first number, and the semicolon the second. -/
lemma wording_inj {name : String} {before after before' after' : Int} {rest rest' : List Char}
    (h : wording name before after rest = wording name before' after' rest') :
    before = before' ∧ after = after' ∧ rest = rest' := by
  have harrow : ∀ n : Int, '>' ∉ (toString n).toList ++ ['-'] := by
    intro n hmem
    rcases List.mem_append.1 hmem with hnumber | hdash
    · exact not_mem_toString (by decide) (by decide) n hnumber
    · exact absurd hdash (by decide)
  have hsplit : ∀ (m n : Int) (more : List Char),
      (toString m).toList ++ '-' :: '>' :: ((toString n).toList ++ ';' :: more)
        = ((toString m).toList ++ ['-']) ++ '>' :: ((toString n).toList ++ ';' :: more) := by
    intro m n more
    rw [List.append_assoc, List.singleton_append]
  have hnumbers := List.append_cancel_left h
  rw [hsplit, hsplit] at hnumbers
  obtain ⟨hbefore, htail⟩ := append_cons_inj (harrow before) (harrow before') hnumbers
  obtain ⟨hafter, hrest⟩ := append_cons_inj (not_mem_toString (by decide) (by decide) after)
    (not_mem_toString (by decide) (by decide) after') htail
  exact ⟨eq_of_toList_toString (List.append_cancel_right hbefore), eq_of_toList_toString hafter,
    hrest⟩

/-- Different changes of figures are worded differently. -/
theorem describe_inj {before after before' after' : Figures}
    (h : before.describe after = before'.describe after') : before = before' ∧ after = after' := by
  have hwords := congrArg (fun text => (text ++ ";").toList) h
  simp only [toList_describe] at hwords
  obtain ⟨htotal, htotal', hwords⟩ := wording_inj hwords
  obtain ⟨hplaced, hplaced', hwords⟩ := wording_inj hwords
  obtain ⟨hreserved, hreserved', hwords⟩ := wording_inj hwords
  obtain ⟨hinstalled, hinstalled', hwords⟩ := wording_inj hwords
  obtain ⟨hinStore, hinStore', -⟩ := wording_inj hwords
  exact ⟨Figures.ext htotal hplaced hreserved hinstalled hinStore,
    Figures.ext htotal' hplaced' hreserved' hinstalled' hinStore'⟩

end Figures

/-- A commit words the figures before it and after it. -/
lemma describeChange_eq (before after : Snapshot) :
    describeChange before after = before.figures.describe after.figures :=
  rfl

lemma Alike.figures_eq {s t : Snapshot} (h : s.Alike t) : s.figures = t.figures := by
  simp only [figures, h.total, h.placed_eq, h.reserved_eq, h.installed_eq, h.inStore_eq]

end Snapshot

/-! ### Entries -/

/-- An entry says that the figures were these before the change, and those after it. -/
def AuditRow.Tells (entry : AuditRow) (before after : Snapshot.Figures) : Prop :=
  entry.details = some (before.describe after)

/-- Entries each of which goes on where the one before it ended. -/
inductive Chained : Snapshot.Figures → List AuditRow → Snapshot.Figures → Prop where
  | nil (figures : Snapshot.Figures) : Chained figures [] figures
  | cons {first middle last : Snapshot.Figures} {entry : AuditRow} {rest : List AuditRow}
      (tells : entry.Tells first middle) (chained : Chained middle rest last) :
      Chained first (entry :: rest) last

namespace Chained

variable {first middle last : Snapshot.Figures} {entries : List AuditRow} {entry : AuditRow}

/-- One more entry at the end. -/
lemma concat (h : Chained first entries middle) (tells : entry.Tells middle last) :
    Chained first (entries ++ [entry]) last := by
  induction h with
  | nil => exact .cons tells (.nil last)
  | cons earlier _ ih => exact .cons earlier (ih tells)

/-- The entries say where they end. -/
lemma eq_of_chained {other : Snapshot.Figures} (h : Chained first entries last)
    (h' : Chained first entries other) : last = other := by
  induction h with
  | nil =>
      cases h' with
      | nil => rfl
  | cons tells _ ih =>
      cases h' with
      | cons tells' chained' =>
          obtain ⟨-, rfl⟩ := Snapshot.Figures.describe_inj
            (Option.some.inj (tells.symm.trans tells'))
          exact ih chained'

end Chained

/-! ### Trails -/

/-- What the audit trail calls the changes of ledgers. -/
def AuditRow.changeActions : List String :=
  ["EditTotalQuantity", "AllocateToShow", "ReturnShowAllocation", "UpdateShowAllocation",
    "ShowStatusChange", "RemoveShowAllocation", "ReplaceLocations", "AllocateToLocation",
    "MoveLocationAllocation", "SetInstallation", "ReturnFromInstallation"]

lemma Order.Proposes.mem_changeActions {o : Order} {today : Date} {s : Store} {read : Snapshot}
    {action : String} {cs : List Change} (h : o.Proposes today s read action cs) :
    action ∈ AuditRow.changeActions := by
  cases h with
  | changed r current changed action found showId named =>
      rcases List.mem_pair.1 named with rfl | rfl <;> simp [AuditRow.changeActions]
  | _ => simp [AuditRow.changeActions]

/-- The entries of the audit trail that concern an equipment, oldest ones first. -/
def Store.trail (s : Store) (e : Int) : List AuditRow :=
  (s.audits.select fun row => row.subject = "Equipment" && row.subjectId = e).map Prod.snd

/-- The history of an equipment shows the newest entries of its trail. -/
lemma Equipments.map_history {s : Store} {e limit : Int} {shown : List (Int × AuditRow)}
    (h : history s e limit = .ok shown) :
    shown.map Prod.snd = (s.trail e).reverse.take (max 1 limit).toNat := by
  rw [history] at h
  split at h
  · cases h
  · split at h
    · cases h
    · rw [← Except.ok.inj h, List.map_take, List.map_reverse]
      rfl

namespace Store

variable {s t : Store} {now : Moment} {o : Order} {e : Int}

/-- One more entry is at the end of the trail that it concerns. -/
lemma trail_insert (s : Store) (entry : AuditRow) (e : Int) :
    ({ s with audits := s.audits.insert entry } : Store).trail e
      = s.trail e ++ if entry.subject = "Equipment" ∧ entry.subjectId = e then [entry] else [] := by
  simp only [trail, Table.select_insert, List.map_append]
  congr 1
  by_cases h : entry.subject = "Equipment" ∧ entry.subjectId = e
  · simp [h]
  · rw [if_neg h]
    simp [h]

/-- An entry into the store adds nothing to the trails of equipments that are not new. -/
lemma Enters.trail_eq (enters : s.Enters now o t)
    (old : t.equipments.find? e = s.equipments.find? e) : t.trail e = s.trail e := by
  cases enters with
  | equipment r audits units fits noted =>
      have hne : s.equipments.nextId ≠ e := by
        rintro rfl
        have hnew : (s.equipments.insert (Equipments.newRow r now)).find? s.equipments.nextId
            = some (Equipments.newRow r now) := Table.find?_insert_nextId _ _
        rw [Table.find?_nextId] at old
        rw [old] at hnew
        cases hnew
      rcases noted with rfl | rfl
      · rfl
      · refine (trail_insert s _ e).trans ?_
        rw [if_neg fun h => hne h.2, List.append_nil]
  | event r added => rfl
  | location r added audits words name noted =>
      obtain ⟨entry, hsubject, rfl⟩ := noted
      refine (trail_insert s _ e).trans ?_
      rw [if_neg, List.append_nil]
      rintro ⟨hequipment, -⟩
      rw [hsubject] at hequipment
      exact absurd hequipment (by decide)

end Store

/-! ### What a commit adds -/

/-- The entry of a commit in the audit trail. -/
def Proposal.entry (p : Proposal) (now : Moment) (before after : Snapshot) : AuditRow :=
  { subject := "Equipment", subjectId := p.equipment, action := p.action
    details := some (describeChange before after), user := p.user, time := some now }

/-- The writing of a change adds nothing to the audit trail. -/
lemma Worksheet.Wrote.audits_eq {a : Author} {w w' : Worksheet} {c : Change}
    (wrote : Wrote a w c w') : w'.flushed.audits = w.flushed.audits := by
  cases wrote with
  | replacePlacements ps =>
      obtain ⟨placements, hflushed⟩ := flushed_replacePlacements w a ps
      rw [hflushed]
  | _ => rfl

/-- The finished worksheet has one entry more than the store. -/
lemma Store.audits_complete {s : Store} {a : Worksheet.Author} {cs : List Change}
    {before after : Snapshot} {w : Worksheet} (applied : Change.applyAll before cs = .ok after)
    (written : Worksheet.writeAll { store := s } a cs = .ok w) (p : Proposal) (now : Moment) :
    (complete w (p.author now) p before after).flushed.audits
      = s.audits.insert (p.entry now before after) := by
  have hwritten : w.flushed.audits = s.audits :=
    Worksheet.writeAll_induction (I := fun _ _ w => w.flushed.audits = s.audits) applied written
      rfl fun _ _ _ _ _ _ _ wrote hsofar => wrote.audits_eq.trans hsofar
  rw [← hwritten]
  exact List.foldl_append

namespace Store.Commits

variable {s t : Store} {p : Proposal} {now : Moment} {before after committed : Snapshot}
  {w : Worksheet}

/-- A commit adds one entry to the audit trail. -/
theorem audits_eq (h : s.Commits p now before after w t committed) :
    t.audits = s.audits.insert (p.entry now before after) := by
  rw [h.stored]
  exact audits_complete h.applied h.written p now

/-- It is at the end of the trail of the equipment. -/
lemma trail_eq (h : s.Commits p now before after w t committed) :
    t.trail p.equipment = s.trail p.equipment ++ [p.entry now before after] := by
  have hinsert := trail_insert s (p.entry now before after) p.equipment
  rw [trail, ← h.audits_eq, if_pos ⟨rfl, rfl⟩] at hinsert
  exact hinsert

/-- Other trails stay as they are. -/
lemma trail_eq_beside (h : s.Commits p now before after w t committed) {e : Int}
    (beside : e ≠ p.equipment) : t.trail e = s.trail e := by
  have hinsert := trail_insert s (p.entry now before after) e
  rw [trail, ← h.audits_eq, if_neg fun hown => beside hown.2.symm, List.append_nil] at hinsert
  exact hinsert

end Store.Commits

/-! ### Trails that tell everything -/

namespace Store

variable {s t u : Store} {now : Moment} {o : Order} {e : Int}

/-- The trail of an equipment has a first entry and then one for each version of its ledger. These
tell all changes of its figures, from those at the start to those that it has. -/
def Told (s : Store) (e : Int) (first : AuditRow) (start : Snapshot.Figures) : Prop :=
  ∃ row entries, s.equipments.find? e = some row ∧ s.trail e = first :: entries
    ∧ (∀ entry ∈ entries, entry.action ∈ AuditRow.changeActions)
    ∧ (entries.length : Int) = row.version
    ∧ Chained start entries (s.snapshot e row).figures

namespace Told

variable {first : AuditRow} {start : Snapshot.Figures}

/-- An entry into the store adds nothing to what is told of an equipment. -/
lemma enter (h : s.Told e first start) (standing : s.Standing) (enters : s.Enters now o t) :
    t.Told e first start := by
  obtain ⟨row, entries, hrow, htrail, hactions, hlength, hchained⟩ := h
  obtain ⟨hkept, hledger⟩ := enters.keeps standing hrow
  refine ⟨row, entries, hkept, ?_, hactions, hlength, by rw [hledger]; exact hchained⟩
  rw [enters.trail_eq (hkept.trans hrow.symm), htrail]

/-- A commit tells what it changes: its entry goes on where the last one ended, and ends where the
ledger is read back, since the rules do not tell that from the one in memory. -/
lemma commit (h : s.Told e first start) {p : Proposal} {before after committed : Snapshot}
    {w : Worksheet} (commits : s.Commits p now before after w t committed)
    (proper : Change.Proper before p.changes) (action : p.action ∈ AuditRow.changeActions) :
    t.Told e first start := by
  obtain ⟨row, entries, hrow, htrail, hactions, hlength, hchained⟩ := h
  by_cases he : e = p.equipment
  · subst he
    obtain ⟨read, -, hread, hbefore⟩ := ledger?_eq_ok.1 commits.read
    obtain rfl : read = row := Option.some.inj (hread.symm.trans hrow)
    obtain ⟨raised, hraised, hresult, hversion, -⟩ := commits.committed_eq
    refine ⟨raised, entries ++ [p.entry now before after], hraised, ?_, ?_, ?_, ?_⟩
    · rw [commits.trail_eq, htrail, List.cons_append]
    · intro entry hentry
      rcases List.mem_append.1 hentry with hold | hnew
      · exact hactions entry hold
      · rw [List.mem_singleton.1 hnew]
        exact action
    · rw [hversion, hbefore, List.length_append]
      show (entries.length : Int) + 1 = read.version + 1
      rw [hlength]
    · rw [← hbefore] at hchained
      rw [← hresult, ← (commits.alike_of_proper proper).figures_eq]
      exact hchained.concat (congrArg some (Snapshot.describeChange_eq before after))
  · refine ⟨row, entries, ?_, ?_, hactions, hlength, ?_⟩
    · rw [commits.agreesBeside.equipments e he]
      exact hrow
    · rw [commits.trail_eq_beside he, htrail]
    · rw [commits.agreesBeside.snapshot_eq he]
      exact hchained

/-- An order tells what it changes, whether it succeeds or fails. -/
theorem becomes (h : s.Told e first start) (standing : s.Standing) (becomes : s.Becomes now o t) :
    t.Told e first start := by
  cases becomes with
  | same => exact h
  | entered enters => exact h.enter standing enters
  | committed shows locations makes ready commits =>
      exact h.commit commits (makes.proper.of_readies commits.read ready)
        (makes.proposes ready).mem_changeActions

end Told

/-- Nothing is told of an equipment that is not registered. -/
lemma Leads.trail_eq_nil (h : Store.empty.Leads s) (unregistered : s.equipments.find? e = none) :
    s.trail e = [] := by
  have htold := h.preserves (I := fun v => v.equipments.find? e = none → v.trail e = [])
    (fun _ => rfl) fun u now o v hsofar becomes hu unregistered => ?_
  · exact htold unregistered
  · -- an equipment that is registered stays so
    have hbefore : u.equipments.find? e = none := by
      cases hrow : u.equipments.find? e with
      | none => rfl
      | some row =>
          rcases becomes.raises_or_keeps hsofar.standing hrow with
            ⟨raised, hraised, -⟩ | ⟨hkept, -⟩
          · exact absurd (unregistered.symm.trans hraised) (by simp)
          · exact absurd (unregistered.symm.trans hkept) (by simp)
    cases becomes with
    | same => exact hu hbefore
    | entered enters => rw [enters.trail_eq (unregistered.trans hbefore.symm), hu hbefore]
    | committed shows locations makes ready commits =>
        have hbeside := commits.trail_eq_beside (e := e) fun he => by
          obtain ⟨raised, hraised, -⟩ := commits.committed_eq
          rw [← he, unregistered] at hraised
          cases hraised
        rw [hbeside, hu hbefore]

end Store

/-! ### From the registration on -/

/-- A registration that succeeds enters the equipment and tells it. -/
lemma Equipments.register_eq_ok {r : RegisterRequest} {now : Moment} {s t : Store}
    {record : EquipmentRecord} (h : register r now s = (.ok record, t)) :
    record.id = s.equipments.nextId
      ∧ t = { s with
          equipments := s.equipments.insert (newRow r now)
          audits := s.audits.insert (registration r s.equipments.nextId now) } := by
  rw [register] at h
  split at h
  · cases h
  · simp only at h
    split at h
    · cases h
    · split at h
      · cases h
        exact ⟨rfl, rfl⟩
      · cases h

namespace Store

variable {s t u : Store} {now : Moment} {r : Equipments.RegisterRequest} {record : EquipmentRecord}

/-- A new equipment has its registration told, and nothing else. -/
lemma Leads.told_of_register (h : Store.empty.Leads s)
    (registered : Equipments.register r now s = (.ok record, t)) :
    t.Told record.id (Equipments.registration r record.id now) (.stored r.total) := by
  obtain ⟨hid, rfl⟩ := Equipments.register_eq_ok registered
  have hnone : s.equipments.find? record.id = none := by
    rw [hid]
    exact Table.find?_nextId s.equipments
  obtain ⟨hplacements, hreservations⟩ := h.sound.unregistered record.id hnone
  have hfigures : (s.snapshot record.id (Equipments.newRow r now)).figures
      = .stored r.total := by
    rw [Sound.snapshot_newRow r now hplacements hreservations]
    exact Snapshot.Figures.ext rfl rfl rfl rfl (Sound.inStore_newRow _ _)
  rw [← hid]
  refine ⟨Equipments.newRow r now, [], ?_, ?_, by simp, rfl, ?_⟩
  · rw [hid]
    exact Table.find?_insert_nextId _ _
  · refine (trail_insert s _ record.id).trans ?_
    rw [if_pos ⟨rfl, rfl⟩, h.trail_eq_nil hnone, List.nil_append]
  · rw [← hfigures]
    exact .nil _

/-- Whatever was ordered since an equipment was registered, and whoever was overtaken: its trail is
the entry of its registration and then one entry for each version of its ledger. The first one of
these starts from the total that was registered, all of it in the store, each of the others goes on
where the one before it ended, and the last one ends at the figures of the ledger. -/
theorem Yields.exists_trail_of_register (h : Store.empty.Yields s)
    (registered : Equipments.register r now s = (.ok record, t)) (yields : t.Yields u) :
    ∃ row entries, u.equipments.find? record.id = some row
      ∧ u.trail record.id = Equipments.registration r record.id now :: entries
      ∧ (∀ entry ∈ entries, entry.action ∈ AuditRow.changeActions)
      ∧ (entries.length : Int) = row.version
      ∧ ∀ figures, Chained (.stored r.total) entries figures
        ↔ figures = (u.snapshot record.id row).figures := by
  have hregistered : Store.empty.Leads t := by
    have hentered : t = s ∨ s.Enters now (.register r) t := by
      have h := @Equipments.enters_register s now r
      rwa [registered] at h
    rcases hentered with rfl | hentered
    · exact h.leads
    · exact h.leads.stroke (.entered hentered)
  obtain ⟨row, entries, hrow, htrail, hactions, hlength, hchained⟩ :=
    yields.leads.preserves
      (I := fun v => v.Told record.id (Equipments.registration r record.id now) (.stored r.total))
      (h.leads.told_of_register registered)
      fun _ _ _ _ hsofar becomes told =>
        told.becomes (hregistered.trans hsofar).standing becomes
  refine ⟨row, entries, hrow, htrail, hactions, hlength, fun figures => ⟨fun hother => ?_, ?_⟩⟩
  · exact hother.eq_of_chained hchained
  · rintro rfl
    exact hchained

/-- Ten lamps are registered. -/
def tenLamps : Store :=
  (Equipments.register { name := some "Lamp", total := 10 } default Store.empty).2

/-- Another worker counts eleven lamps. -/
def elevenCounted : Rival :=
  { action := "EditTotalQuantity", changes := [.setTotal 11] }

/-- Twelve lamps are counted, which is overtaken once, four of them are put at a bench, and in vain
three are counted. -/
def benchStore : Store :=
  (({ store := tenLamps } : Desk).fulfilAll
    [({ now := default, rivals := [elevenCounted] }, .setTotal 1 12 none),
      ({ now := default },
        .placeUnits { equipment := 1, target := { name := some "Bench" }, quantity := 4 }),
      ({ now := default }, .setTotal 1 3 none)]).store

/-- The registration, both counts and the bench are told, and neither the order that failed nor the
attempt that was overtaken. -/
theorem Yields.exists_trail_of_register_benchStore :
    (benchStore.trail 1).map AuditRow.action
        = ["RegisterEquipment", "EditTotalQuantity", "EditTotalQuantity", "AllocateToLocation"]
      ∧ tenLamps.Yields benchStore
      ∧ ∃ record row entries,
        Equipments.register { name := some "Lamp", total := 10 } default Store.empty
            = (.ok record, tenLamps)
          ∧ benchStore.equipments.find? record.id = some row
          ∧ benchStore.trail record.id = Equipments.registration
            { name := some "Lamp", total := 10 } record.id default :: entries
          ∧ (∀ entry ∈ entries, entry.action ∈ AuditRow.changeActions)
          ∧ (entries.length : Int) = row.version
          ∧ ∀ figures, Chained (.stored 10) entries figures
            ↔ figures = (benchStore.snapshot record.id row).figures := by
  have hordered : ∀ e, (Order.setTotal 1 12 none).equipment? tenLamps = some e →
      tenLamps.AllOrdered e default [elevenCounted] := by
    intro e he
    obtain rfl : 1 = e := Option.some.inj he
    refine ⟨⟨.setTotal 1 11 none, _, _, _, .setTotal rfl, rfl, rfl, ⟨_, rfl, rfl⟩, ?_⟩, trivial⟩
    rfl
  have hyields : tenLamps.Yields benchStore :=
    .alone _ _ _ (.alone _ _ _ (.order _ _ _ .refl hordered) rfl) rfl
  obtain ⟨row, entries, htold⟩ := Yields.exists_trail_of_register .refl
    (r := { name := some "Lamp", total := 10 }) (t := tenLamps) rfl hyields
  exact ⟨by decide +kernel, hyields, _, row, entries, rfl, htold⟩

end Store

end StageStock
