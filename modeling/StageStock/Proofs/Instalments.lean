import Mathlib.Tactic.Lemma
import StageStock.Proofs.Adding
import StageStock.Proofs.GivingBack

/-!
Units that are installed at once and brought back in instalments.

Units can be installed as far as they are in the store or installed already. What is brought back is
taken off the installation, which stays what it was otherwise; with the last unit the equipment is
portable again. Requests for more units than are left are declined, however many come between the
others, and no unit is lost on the way.

* `Installation.reduced`: an installation of which some units are left;
* `Installations.ReturnRequest`, `Desk.afterReturns`, `Desk.unitsReturned`: requests to bring units
  back, one after the other, with the desk after them and the units that were accepted;
* `Desk.Remains`: what holds between two such requests (`Desk.Remains.returnUnits`,
  `Desk.Remains.afterReturns`);
* `Desk.install_in_instalments`: exactly when units can be installed and brought back, and what is
  recorded meanwhile.
-/

namespace StageStock

/-! ### What is left of an installation -/

namespace Installation

variable {i : Installation} {left : Int}

/-- The installation of which some units are left; without any the equipment is portable. -/
def reduced (i : Installation) (left : Int) : Installation :=
  if 0 < left then { i with quantity := left } else {}

lemma reduced_of_pos (some : 0 < left) : i.reduced left = { i with quantity := left } :=
  if_pos some

lemma reduced_of_not_pos (none : ¬ 0 < left) : i.reduced left = {} :=
  if_neg none

/-- With the last unit the equipment is portable again. -/
lemma isActive_reduced (active : i.isActive = true) :
    (i.reduced left).isActive = true ↔ 0 < left := by
  by_cases hsome : 0 < left
  · rw [reduced_of_pos hsome]
    exact iff_of_true active hsome
  · rw [reduced_of_not_pos hsome]
    exact iff_of_false (by decide) hsome

/-- What is left is read back as it was recorded. -/
lemma recorded_reduced (stored : i.recorded = i) (left : Int) :
    (i.reduced left).recorded = i.reduced left := by
  by_cases hsome : 0 < left
  · rw [reduced_of_pos hsome]
    calc ({ i with quantity := left } : Installation).recorded
        = { i.recorded with quantity := left } := rfl
      _ = { i with quantity := left } := by rw [stored]
  · rw [reduced_of_not_pos hsome]
    rfl

end Installation

namespace Installations

variable {ledger : Snapshot} {i : Installation} {left q : Int}

/-- What is prepared for units that are brought back: as many are taken off the installation, if
there are as many. -/
lemma prepareReturn_reduced (active : i.isActive = true)
    (recorded : ledger.installation = i.reduced left) (q : Int) :
    prepareReturn (some q) ledger
      = if ¬ 0 < left then .error .notInstalled
        else if q < 1 ∨ left < q then .error (.returnOutOfRange left)
        else .ok { action := "ReturnFromInstallation"
                   changes := [.setInstallation (i.reduced (left - q))], answer } := by
  by_cases hsome : 0 < left
  · have hactive : ({ i with quantity := left } : Installation).isActive = true := active
    simp only [prepareReturn, recorded, Installation.reduced_of_pos hsome, hactive, hsome,
      Option.getD_some, Bool.not_true, Bool.false_eq_true, not_true_eq_false, if_false]
    rfl
  · simp only [prepareReturn, recorded, Installation.reduced_of_not_pos hsome, if_pos hsome]
    rfl

lemma eq_of_prepareReturn_reduced {work : Prepared Answer} (active : i.isActive = true)
    (recorded : ledger.installation = i.reduced left)
    (h : prepareReturn (some q) ledger = .ok work) :
    1 ≤ q ∧ q ≤ left
      ∧ work = { action := "ReturnFromInstallation"
                 changes := [.setInstallation (i.reduced (left - q))], answer } := by
  rw [prepareReturn_reduced active recorded] at h
  split at h
  · cases h
  · split at h
    · cases h
    · exact ⟨by omega, by omega, (Except.ok.inj h).symm⟩

/-- As many can be brought back as are left. -/
lemma exists_prepareReturn_iff (active : i.isActive = true)
    (recorded : ledger.installation = i.reduced left) :
    (∃ work, prepareReturn (some q) ledger = .ok work) ↔ 0 < left ∧ 1 ≤ q ∧ q ≤ left := by
  constructor
  · rintro ⟨work, hwork⟩
    obtain ⟨hone, hmost, -⟩ := eq_of_prepareReturn_reduced active recorded hwork
    omega
  · intro hsome
    exact ⟨_, (prepareReturn_reduced active recorded q).trans
      ((if_neg (by omega)).trans (if_neg (by omega)))⟩

/-! ### Requests one after the other -/

/-- Units are to be brought back. -/
structure ReturnRequest where
  now : Moment
  quantity : Int
  user : Option Int := none

end Installations

namespace Desk

open Installations

/-- Units are brought back. -/
def returnUnits (desk : Desk) (e : Int) (r : ReturnRequest) : Outcome Answer :=
  desk.mutate { now := r.now } (bringBack e (some r.quantity) r.user)

/-- The desk after some requests to bring units back. -/
def afterReturns (desk : Desk) (e : Int) : List ReturnRequest → Desk
  | [] => desk
  | r :: rest => (desk.returnUnits e r).desk.afterReturns e rest

/-- The units of those requests that were accepted. -/
def unitsReturned (desk : Desk) (e : Int) : List ReturnRequest → Int
  | [] => 0
  | r :: rest =>
    (if (desk.returnUnits e r).result.isOk then r.quantity else 0)
      + (desk.returnUnits e r).desk.unitsReturned e rest

/-- Between two requests some units of an installation are left, and the others are in the store. -/
structure Remains (desk : Desk) (e : Int) (start : Snapshot) (i : Installation) (left : Int)
    (current : Snapshot) : Prop where
  stored : desk.store.fits = true
  free : desk.locks.isHeld e = false
  nonneg : 0 ≤ left
  read : desk.store.ledger? e = .ok current
  sound : current.IsSound
  installation : current.installation = i.reduced left
  /-- The row of the equipment says so. -/
  written : ∃ row, desk.store.equipments.find? e = some row
    ∧ Worksheet.installationRow (i.reduced left) row = row
  conserved : current.inStore + current.installed = start.inStore + start.installed

/-- What becomes of a request to bring units back when some are left. -/
structure Settles (desk : Desk) (e left : Int) (current : Snapshot) (r : ReturnRequest) : Prop where
  succeeds : (∃ answer, (desk.returnUnits e r).result = .ok answer)
    ↔ current.installation.isActive = true ∧ 1 ≤ r.quantity ∧ r.quantity ≤ left
      ∧ fitsWord? r.user = true ∧ fitsWord (current.version + 1) = true
  /-- Without any there is nothing to bring back. -/
  portable : left = 0 → desk.returnUnits e r = { result := .error .notInstalled, desk }
  /-- Whoever brings back none, or more than are left, is told how many there are. -/
  outside : 0 < left → ¬ (1 ≤ r.quantity ∧ r.quantity ≤ left) →
    desk.returnUnits e r = { result := .error (.returnOutOfRange left), desk }
  failed : ∀ failure, (desk.returnUnits e r).result = .error failure →
    desk.returnUnits e r = { result := .error failure, desk }

namespace Remains

variable {desk : Desk} {e left : Int} {start current : Snapshot} {i : Installation}

/-- A commit that records what is left. -/
lemma of_commits {p : Proposal} {now : Moment} {after committed : Snapshot} {w : Worksheet}
    {t : Store} (commits : desk.store.Commits p now current after w t committed)
    (own : p.equipment = e) (sets : p.changes = [.setInstallation (i.reduced left)])
    (proper : Change.Proper current p.changes) (free : desk.locks.isHeld e = false)
    (nonneg : 0 ≤ left) (recorded : i.recorded = i)
    (conserved : current.inStore + current.installed = start.inStore + start.installed) :
    ({ desk with store := t } : Desk).Remains e start i left committed := by
  subst own
  have htouches : Change.Touches current .installation p.changes := by
    rw [sets]
    exact .setInstallation _
  have honly := commits.changesOnly htouches
  obtain ⟨-, -, -, htotal⟩ := honly.outside_eq commits.read commits.reread
  have hstore := honly.inStore_sub commits.read commits.reread
  rw [htotal (by simp)] at hstore
  simp only [Bucket.units] at hstore
  exact {
    stored := commits.fits
    free := free
    nonneg := nonneg
    read := commits.reread
    sound := commits.isSound_of_proper proper
    installation := (commits.installation_eq sets).trans (i.recorded_reduced recorded left)
    written := commits.holds_installed sets
    conserved := by omega }

/-- The numbers of an installation of which less is left can be stored. -/
lemma fits (h : desk.Remains e start i left current) {fewer : Int} (nonneg : 0 ≤ fewer)
    (less : fewer ≤ left) : (Change.setInstallation (i.reduced fewer)).Fits := by
  by_cases hsome : 0 < fewer
  · obtain ⟨row, hrow, hwritten⟩ := h.written
    have hfits := (Store.fits_iff.1 h.stored).1 _ (Table.find?_eq_some_iff.1 hrow)
    rw [← hwritten, Installation.reduced_of_pos (by omega)] at hfits
    simp only [EquipmentRow.fits, Worksheet.installationRow, Bool.and_eq_true] at hfits
    rw [Installation.reduced_of_pos hsome]
    exact ⟨hfits.1.2, fitsWord_of_le nonneg less hfits.1.1.2⟩
  · rw [Installation.reduced_of_not_pos hsome]
    exact ⟨rfl, by decide⟩

/-- One request: units are brought back exactly if there are as many, and are then taken off. -/
theorem returnUnits (h : desk.Remains e start i left current) (active : i.isActive = true)
    (recorded : i.recorded = i) (r : ReturnRequest) :
    desk.Settles e left current r
      ∧ ((∃ answer, (desk.returnUnits e r).result = .ok answer) → ∃ next,
        (desk.returnUnits e r).desk.Remains e start i (left - r.quantity) next) := by
  have hunhindered : desk.Unhindered { now := r.now } e := ⟨h.free, rfl, rfl⟩
  have hm : bringBack e (some r.quantity) r.user desk.store = _ := bringBack_of_ledger? h.read
  have hprepare := prepareReturn_reduced active h.installation r.quantity
  obtain ⟨hiff, hmade, hdeclined⟩ := mutate_prepared hunhindered hm rfl
    (orderly_prepareReturn e (some r.quantity)) (proper_bringBack hm) h.stored h.read
    fun work hwork => by
      have hlawful := lawful_bringBack hm _ _ _ h.read hwork h.sound
      obtain ⟨hone, hmost, rfl⟩ := eq_of_prepareReturn_reduced active h.installation hwork
      refine ⟨_, _, rfl, hlawful _ rfl, rfl, fun c hc => ?_⟩
      rw [List.mem_singleton.1 hc]
      exact h.fits (by omega) (by omega)
  refine ⟨?_, fun hok => ?_⟩
  · exact {
      succeeds := by
        refine hiff.trans ?_
        rw [exists_prepareReturn_iff active h.installation, h.installation,
          Installation.isActive_reduced active, and_assoc, and_assoc]
      portable := fun hnone => hdeclined _ (by rw [hprepare, if_pos (by omega)])
      outside := fun hsome hout =>
        hdeclined _ (by rw [hprepare, if_neg (by omega), if_pos (by omega)])
      failed := fun failure hfailed => mutate_of_error rfl (fun m' hm' => by
        obtain ⟨row, -, rfl⟩ := bringBack_eq_ok hm'
        exact Mutation.answers_of_orderly rfl (orderly_prepareReturn e _)) hfailed }
  · obtain ⟨work, after, w, t, committed, hwork, hcommits, hdesk⟩ := hmade hok
    have hproper := (proper_bringBack hm).of_readies h.read
      (Mutation.readies_of_prepare rfl hwork)
    obtain ⟨-, hmost, rfl⟩ := eq_of_prepareReturn_reduced active h.installation hwork
    rw [Desk.returnUnits, hdesk]
    exact ⟨committed, of_commits hcommits rfl rfl hproper h.free (by omega) recorded
      h.conserved⟩

/-- Many requests, of which some may fail: what was brought back is taken off. -/
theorem afterReturns (h : desk.Remains e start i left current) (active : i.isActive = true)
    (recorded : i.recorded = i) (returns : List ReturnRequest) :
    ∃ last, (desk.afterReturns e returns).Remains e start i
      (left - desk.unitsReturned e returns) last := by
  induction returns generalizing desk left current with
  | nil => exact ⟨current, by simpa [Desk.afterReturns, Desk.unitsReturned] using h⟩
  | cons r rest ih =>
    obtain ⟨hsettles, hreturned⟩ := h.returnUnits active recorded r
    rw [Desk.afterReturns, Desk.unitsReturned]
    cases hresult : (desk.returnUnits e r).result with
    | error failure =>
      -- the desk is the same, so that the remaining requests find the same units
      rw [congrArg Outcome.desk (hsettles.failed failure hresult), Except.isOk, Except.toBool,
        if_neg Bool.false_ne_true, Int.zero_add]
      exact ih h
    | ok answer =>
      obtain ⟨next, hnext⟩ := hreturned ⟨answer, hresult⟩
      obtain ⟨last, hlast⟩ := ih hnext
      rw [Except.isOk, Except.toBool, if_pos rfl, ← Int.sub_sub]
      exact ⟨last, hlast⟩

end Remains

/-! ### From the installation on -/

variable {desk : Desk} {call : Call} {start : Snapshot} {r : InstallRequest} {place : Place}
  {n : Int}

/-- What is asked for when units are to be installed at a place. -/
lemma requested_of_found (today : Date) (installs : r.kind ≠ InstallationKind.portable.text)
    (found : desk.store.findPlace r.target = .ok (some place)) (quantity : r.quantity = some n) :
    requested r today desk.store
      = if n < 1 then .error .installedTooSmall
        else .ok { kind := r.kind, place := some place, quantity := n
                   since := some (r.since.getD today), notes := r.notes } := by
  rw [requested, if_neg installs, found, quantity]

lemma answers_of_install {today : Date} (m : Mutation Answer)
    (h : install r today desk.store = .ok m) : m.Answers := by
  obtain ⟨-, row, i, -, -, rfl⟩ := install_eq_ok h
  exact Mutation.answers_of_orderly rfl (orderly_prepareInstall _ i)

/-- What is asked for is read back as it was recorded. -/
lemma recorded_of_found {since : Option Date} {notes : Option String}
    (known : InstallationKind.isKnown r.kind = true)
    (found : desk.store.findPlace r.target = .ok (some place)) :
    let i : Installation :=
      { kind := r.kind, place := some place, quantity := n, since, notes }
    i.recorded = i := by
  intro i
  have hnamed : r.kind ≠ "" := fun hempty => absurd (hempty ▸ known) (by decide)
  rw [Installation.recorded, if_neg hnamed]
  show { i with place := place.reread } = i
  rw [Store.reread_of_findPlace found]

/-- Units of an equipment are installed at a place, and nothing hinders it. -/
lemma mutate_install (read : desk.store.ledger? r.equipment = .ok start) (sound : start.IsSound)
    (known : InstallationKind.isKnown r.kind = true)
    (installs : r.kind ≠ InstallationKind.portable.text)
    (found : desk.store.findPlace r.target = .ok (some place)) (quantity : r.quantity = some n)
    (stored : desk.store.fits = true) (unhindered : desk.Unhindered call r.equipment) :
    let o := desk.mutate call (install r call.now.date)
    let i : Installation :=
      { kind := r.kind, place := some place, quantity := n
        since := some (r.since.getD call.now.date), notes := r.notes }
    ((∃ answer, o.result = .ok answer)
        ↔ 1 ≤ n ∧ n ≤ start.inStore + start.installed ∧ fitsWord? r.user = true
          ∧ fitsWord (start.version + 1) = true)
      ∧ ((∃ answer, o.result = .ok answer) →
        ∃ current, o.desk.Remains r.equipment start i n current) := by
  intro o i
  obtain ⟨row, hfits, hrow, -⟩ := Store.ledger?_eq_ok.1 read
  have hactive : i.isActive = true := decide_eq_true installs
  have hrequested := requested_of_found call.now.date installs found quantity
  by_cases hone : 1 ≤ n
  · have hnonneg : 0 ≤ n := by omega
    rw [if_neg (by omega)] at hrequested
    have hm : install r call.now.date desk.store = .ok
        { equipment := r.equipment, user := r.user
          preparation := .fromLedger (prepareInstall i) } := by
      rw [install, known, Store.equipment?_eq_ok.2 ⟨hfits, hrow⟩, hrequested]
      rfl
    have hprepares : (∃ work, prepareInstall i start = .ok work)
        ↔ n ≤ start.inStore + start.installed := by
      refine ⟨?_, fun henough => ⟨_, prepareInstall_of_enough sound fun _ => henough⟩⟩
      rintro ⟨work, hwork⟩
      exact (prepareInstall_eq_ok hwork).1 hactive
    obtain ⟨hiff, hmade, -⟩ := mutate_prepared unhindered hm rfl (orderly_prepareInstall _ i)
      (proper_install hm) stored read fun work hwork => by
        have hlawful := lawful_install hm _ _ _ read hwork sound
        obtain ⟨henough, rfl⟩ := prepareInstall_eq_ok hwork
        have hmost : n ≤ start.total := Int.le_trans (henough hactive) sound.installable_le
        refine ⟨_, _, rfl, hlawful _ rfl, rfl, fun c hc => List.mem_singleton.1 hc ▸ ?_⟩
        exact ⟨Store.fits_of_findPlace found,
          fitsWord_of_le hnonneg hmost (Store.fits_of_ledger? stored read).1⟩
    rw [hprepares] at hiff
    refine ⟨hiff.trans ⟨fun h => ⟨hone, h⟩, And.right⟩, fun hok => ?_⟩
    obtain ⟨work, after, w, t, committed, hwork, hcommits, hdesk⟩ := hmade hok
    have hproper := (proper_install hm).of_readies read (Mutation.readies_of_prepare rfl hwork)
    obtain ⟨-, rfl⟩ := prepareInstall_eq_ok hwork
    rw [hdesk]
    have hall : i.reduced n = i := Installation.reduced_of_pos (by omega)
    exact ⟨committed, .of_commits hcommits rfl (by rw [hall]; rfl) hproper unhindered.free hnonneg
      (recorded_of_found known found) rfl⟩
  · have hdeclined : ¬ ∃ answer, o.result = .ok answer := by
      rw [if_pos (by omega)] at hrequested
      rintro ⟨answer, hanswer⟩
      obtain ⟨m, -, -, -, -, -, -, hm, -⟩ :=
        commits_of_mutate_ok unhindered.alone answers_of_install hanswer
      obtain ⟨-, row', i', -, hi', -⟩ := install_eq_ok hm
      cases hi'.symm.trans hrequested
    exact ⟨iff_of_false hdeclined fun h => hone h.1, fun hok => absurd hok hdeclined⟩

/-- Units of an equipment are installed at a place, and nothing hinders it. That succeeds exactly if
at least one unit is to be installed, as many are in the store or installed already, and the user
who asks and the next version of the ledger can be stored. If it fails, nothing is changed.

Whatever requests to bring units back come then, those that succeeded have been taken off: as long
as units are left, the installation has its kind, its place, its day and its notes, and no other
units; with the last one the equipment is portable. All the time the units in the store and those
installed are as many as before the installation. The next request succeeds exactly if units are
installed, it brings back at least one of them and no more than are left, and its user and the next
version can be stored; it is told how many are left if it brings back another number, and that there
is no installation if none are, and changes nothing when it fails. -/
theorem install_in_instalments (read : desk.store.ledger? r.equipment = .ok start)
    (lawful : start.violations = []) (known : InstallationKind.isKnown r.kind = true)
    (installs : r.kind ≠ InstallationKind.portable.text)
    (found : desk.store.findPlace r.target = .ok (some place)) (quantity : r.quantity = some n)
    (stored : desk.store.fits = true) (unhindered : desk.Unhindered call r.equipment) :
    let o := desk.mutate call (install r call.now.date)
    let i : Installation :=
      { kind := r.kind, place := some place, quantity := n
        since := some (r.since.getD call.now.date), notes := r.notes }
    ((∃ answer, o.result = .ok answer)
        ↔ 1 ≤ n ∧ n ≤ start.inStore + start.installed ∧ fitsWord? r.user = true
          ∧ fitsWord (start.version + 1) = true)
      ∧ (∀ failure, o.result = .error failure → o = { result := .error failure, desk })
      ∧ ((∃ answer, o.result = .ok answer) → ∀ returns,
        let left := n - o.desk.unitsReturned r.equipment returns
        let later := o.desk.afterReturns r.equipment returns
        ∃ current, later.Remains r.equipment start i left current
          ∧ ∀ next, later.Settles r.equipment left current next) := by
  intro o i
  have hsound := (Snapshot.violations_eq_nil_iff_isSound start).1 lawful
  have hactive : i.isActive = true := decide_eq_true installs
  have hrecorded : i.recorded = i := recorded_of_found known found
  obtain ⟨hiff, hinstalled⟩ :=
    mutate_install read hsound known installs found quantity stored unhindered
  refine ⟨hiff, fun failure => mutate_of_error unhindered.alone answers_of_install,
    fun hok returns => ?_⟩
  obtain ⟨first, hfirst⟩ := hinstalled hok
  obtain ⟨current, hcurrent⟩ := hfirst.afterReturns hactive hrecorded returns
  exact ⟨current, hcurrent, fun next => (hcurrent.returnUnits hactive hrecorded next).1⟩

/-- Three of five lamps are in the store and are installed at the stage. One comes back, then five
are refused as only two are left, and with these two the lamps are portable again. -/
theorem install_in_instalments_stage :
    let o := ({ store := .lampsOnShelf 7 } : Desk).mutate { now := default }
      (install { equipment := 1, kind := "fixed", target := { name := some "Stage" }
                 quantity := some 3 } default)
    let returns : List ReturnRequest := [⟨default, 1, none⟩, ⟨default, 5, none⟩, ⟨default, 2, none⟩]
    (∃ answer, o.result = .ok answer)
      ∧ ((o.desk.afterReturns 1 (returns.take 1)).returnUnits 1 ⟨default, 5, none⟩).result
        = .error (.returnOutOfRange 2)
      ∧ ∃ current, (o.desk.afterReturns 1 returns).store.ledger? 1 = .ok current
        ∧ current.installation = {} ∧ current.inStore = 3 := by
  intro o returns
  have hread : (Store.lampsOnShelf 7).ledger? 1 = .ok ((Store.lampsOnShelf 7).snapshot 1
      { name := some "Lamp", total := 5, version := 7 }) :=
    Store.ledger?_eq_ok.2 ⟨_, by decide, rfl, rfl⟩
  obtain ⟨hiff, -, hreturns⟩ := @install_in_instalments { store := .lampsOnShelf 7 }
    { now := default } _ { equipment := 1, kind := "fixed", target := { name := some "Stage" }
                           quantity := some 3 } (.custom "Stage") 3
    hread (by decide +kernel) (by decide) (by decide) rfl rfl (by decide +kernel) ⟨rfl, rfl, rfl⟩
  have hok := hiff.2 ⟨by decide, by decide +kernel, by decide, by decide +kernel⟩
  obtain ⟨_, -, hsettles⟩ := hreturns hok (returns.take 1)
  obtain ⟨current, hcurrent, -⟩ := hreturns hok returns
  have hone : o.desk.unitsReturned 1 (returns.take 1) = 1 := by decide +kernel
  have hall : o.desk.unitsReturned 1 returns = 3 := by decide +kernel
  change Remains _ _ _ _ (3 - o.desk.unitsReturned 1 returns) _ at hcurrent
  change ∀ next, Settles _ _ (3 - o.desk.unitsReturned 1 (returns.take 1)) _ next at hsettles
  rw [hall] at hcurrent
  rw [hone] at hsettles
  have hrefused := (hsettles ⟨default, 5, none⟩).outside (by decide) (by decide)
  have hconserved := hcurrent.conserved
  rw [Snapshot.installed, hcurrent.installation] at hconserved
  exact ⟨hok, congrArg Outcome.result hrefused, current, hcurrent.read, hcurrent.installation,
    (Int.add_zero _).symm.trans (hconserved.trans (by decide +kernel))⟩

/-- At the largest version that can be stored nothing is installed; one below it, nothing that was
installed can be brought back. -/
theorem not_install_in_instalments_stage :
    let o (version : Int) := ({ store := .lampsOnShelf version } : Desk).mutate { now := default }
      (install { equipment := 1, kind := "fixed", target := { name := some "Stage" }
                 quantity := some 3 } default)
    (∀ version ∈ [0x7FFFFFFFFFFFFFFF, 0x7FFFFFFFFFFFFFFE],
        ∃ ledger, (Store.lampsOnShelf version).ledger? 1 = .ok ledger ∧ ledger.violations = []
          ∧ 3 ≤ ledger.inStore + ledger.installed)
      ∧ (o 0x7FFFFFFFFFFFFFFF).result = .error .numberTooWide
      ∧ (o 0x7FFFFFFFFFFFFFFE).result.isOk = true
      ∧ ((o 0x7FFFFFFFFFFFFFFE).desk.returnUnits 1 ⟨default, 1, none⟩).result
        = .error .numberTooWide := by
  intro o
  refine ⟨?_, rfl, by decide +kernel, rfl⟩
  simp only [List.forall_mem_cons, List.not_mem_nil, false_implies, implies_true, and_true]
  exact ⟨⟨_, Store.ledger?_eq_ok.2 ⟨_, by decide, rfl, rfl⟩, by decide +kernel, by decide +kernel⟩,
    ⟨_, Store.ledger?_eq_ok.2 ⟨_, by decide, rfl, rfl⟩, by decide +kernel, by decide +kernel⟩⟩

end Desk

end StageStock
