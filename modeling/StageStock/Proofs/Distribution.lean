import Mathlib.Tactic.Lemma
import StageStock.Proofs.Requests
import StageStock.Proofs.Soundness

/-!
How units are spread over places.

Submitted rows, units brought to a place and units moved each make a new list of placements. Of each
it is said which places it has, that no place stands in it twice, and how many units there are.

* `Placements.keys_of_readRows`: the rows that are read are of different places;
* `Placements.addUp_addUnits`: units brought to a place are added once;
* `Placements.addUp_moveUnits`: units that are moved stay what they are, and none are lost but those
  that go back to the store;
* `Store.nodup_ids_of_ledger?`: placements that are read have different rows.
-/

namespace StageStock

/-! ### Sums over edited lists -/

section Sums

variable {α β : Type}

/-- An edit of the one element with a key changes the sum by the difference of that element. -/
lemma addUp_map_edit [DecidableEq β] {key : α → β} {f g : α → Int} {xs : List α} {x : α}
    (nodup : (xs.map key).Nodup) (h : x ∈ xs) (same : ∀ y ∈ xs, key y ≠ key x → g y = f y) :
    addUp (xs.map g) = addUp (xs.map f) + (g x - f x) := by
  have hfront := perm_cons_filter_ne nodup h
  have hrest : (xs.filter fun y => key y ≠ key x).map g
      = (xs.filter fun y => key y ≠ key x).map f := by
    refine List.map_congr_left fun y hy => ?_
    obtain ⟨hmem, hne⟩ := List.mem_filter.1 hy
    exact same y hmem (of_decide_eq_true hne)
  rw [addUp_eq_of_perm (hfront.map g), addUp_eq_of_perm (hfront.map f), List.map_cons,
    List.map_cons, hrest, addUp, addUp]
  omega

lemma addUp_map_flatMap (f : α → List β) (g : β → Int) (xs : List α) :
    addUp ((xs.flatMap f).map g) = addUp (xs.map fun x => addUp ((f x).map g)) := by
  induction xs with
  | nil => rfl
  | cons x rest ih =>
      rw [List.flatMap_cons, List.map_append, addUp_append, ih]
      rfl

/-- What is left of each element keeps its key, so that keys do not come to repeat. -/
lemma map_flatMap_sublist {key : α → β} {f : α → List α} {xs : List α}
    (h : ∀ x ∈ xs, ((f x).map key).Sublist [key x]) :
    ((xs.flatMap f).map key).Sublist (xs.map key) := by
  induction xs with
  | nil => exact List.Sublist.refl _
  | cons x rest ih =>
      rw [List.flatMap_cons, List.map_append, List.map_cons]
      exact (h x List.mem_cons_self).append (ih fun y hy => h y (List.mem_cons_of_mem _ hy))

end Sums

/-! ### Placements that are read -/

/-- Placements that are read have different rows. -/
lemma Store.nodup_ids_of_ledger? {s : Store} {e : Int} {ledger : Snapshot}
    (read : s.ledger? e = .ok ledger) : (ledger.placements.map Placement.id).Nodup := by
  obtain ⟨row, -, -, rfl⟩ := Store.ledger?_eq_ok.1 read
  have hids := List.pairwise_map.1 (Table.nodup_ids_select s.placements fun r => r.equipment = e)
  refine List.pairwise_map.2 (List.Pairwise.filterMap _ (fun x y hne p hp q hq => ?_) hids)
  obtain ⟨-, -, rfl⟩ := Option.map_eq_some_iff.1 hp
  obtain ⟨-, -, rfl⟩ := Option.map_eq_some_iff.1 hq
  exact fun h => hne (Option.some.inj h)

namespace Placements

variable {s : Store} {ps : List Placement}

/-! ### Submitted rows -/

section Rows

variable {rows : List Row} {index : Nat} {seen : List (PlaceKey × Nat)}

/-- Rows are read as places that were found. -/
lemma found_of_readRows (h : readRows s rows index seen = .ok ps) :
    ∀ p ∈ ps, ∃ input, s.findPlace input = .ok (some p.place) := by
  induction rows generalizing index seen ps with
  | nil =>
      obtain rfl := Except.ok.inj h
      exact fun p hp => absurd hp List.not_mem_nil
  | cons row rest ih =>
      obtain ⟨place, others, hplace, -, -, -, hothers, rfl⟩ := readRows_cons_eq_ok.1 h
      intro p hp
      rcases List.mem_cons.1 hp with rfl | hp
      · exact ⟨row.place, hplace⟩
      · exact ih hothers p hp

lemma sound_of_readRows (h : readRows s rows index seen = .ok ps) :
    ∀ p ∈ ps, Snapshot.PlacementSound p := by
  induction rows generalizing index seen ps with
  | nil =>
      obtain rfl := Except.ok.inj h
      exact fun p hp => absurd hp List.not_mem_nil
  | cons row rest ih =>
      obtain ⟨place, others, -, hquantity, hstatus, -, hothers, rfl⟩ := readRows_cons_eq_ok.1 h
      intro p hp
      rcases List.mem_cons.1 hp with rfl | hp
      · exact ⟨hquantity, hstatus⟩
      · exact ih hothers p hp

/-- The rows that are read are of different places, none of which was seen before. -/
lemma keys_of_readRows (h : readRows s rows index seen = .ok ps) :
    (ps.map fun p => p.place.key).Nodup ∧ ∀ p ∈ ps, seen.lookup p.place.key = none := by
  induction rows generalizing index seen ps with
  | nil =>
      obtain rfl := Except.ok.inj h
      exact ⟨List.nodup_nil, fun p hp => absurd hp List.not_mem_nil⟩
  | cons row rest ih =>
      obtain ⟨place, others, -, -, -, hnew, hothers, rfl⟩ := readRows_cons_eq_ok.1 h
      obtain ⟨hnodup, hunseen⟩ := ih hothers
      have hothers : ∀ p ∈ others, p.place.key ≠ place.key ∧ seen.lookup p.place.key = none := by
        intro p hp
        have hlook := hunseen p hp
        rw [List.lookup_eq_none_iff, List.forall_mem_cons, ← List.lookup_eq_none_iff] at hlook
        exact ⟨by simpa using hlook.1, hlook.2⟩
      refine ⟨List.nodup_cons.2 ⟨fun hmem => ?_, hnodup⟩, fun p hp => ?_⟩
      · obtain ⟨p, hp, hkey⟩ := List.mem_map.1 hmem
        exact (hothers p hp).1 hkey
      · rcases List.mem_cons.1 hp with rfl | hp
        · exact hnew
        · exact (hothers p hp).2

end Rows

/-! ### Units brought to a place -/

section Add

variable {r : PlaceRequest} {target : Place}

/-- A placement after units were brought to a place. -/
def topUp (r : PlaceRequest) (target : Place) (p : Placement) : Placement :=
  if p.place.key = target.key then
    { p with quantity := p.quantity + r.quantity, notes := r.notes.or p.notes }
  else p

/-- The placement of units at a place where there were none. -/
def newlyPlaced (r : PlaceRequest) (target : Place) : Placement :=
  { id := none, place := target, quantity := r.quantity, status := r.status, notes := r.notes }

lemma addUnits_eq (r : PlaceRequest) (target : Place) (ps : List Placement) :
    addUnits r target ps = ps.map (topUp r target)
      ++ if ps.any fun p => p.place.key = target.key then [] else [newlyPlaced r target] := by
  have htopped : ps.map (topUp r target) = ps.map fun p => if decide (p.place.key = target.key) then
      { p with quantity := p.quantity + r.quantity, notes := r.notes.or p.notes } else p := by
    simp only [decide_eq_true_eq]
    rfl
  rw [addUnits, htopped]
  split
  · exact (List.append_nil _).symm
  · rfl

lemma place_topUp (p : Placement) : (topUp r target p).place = p.place := by
  rw [topUp]
  split <;> rfl

/-- Every place is one that was there or the one that units were brought to. -/
lemma place_of_mem_addUnits {p : Placement} (h : p ∈ addUnits r target ps) :
    (∃ old ∈ ps, p.place = old.place) ∨ p.place = target := by
  rw [addUnits_eq] at h
  rcases List.mem_append.1 h with h | h
  · obtain ⟨old, hold, rfl⟩ := List.mem_map.1 h
    exact Or.inl ⟨old, hold, place_topUp old⟩
  · split at h
    · cases h
    · rw [List.mem_singleton.1 h]
      exact Or.inr rfl

lemma nodup_addUnits (nodup : (ps.map fun p => p.place.key).Nodup) :
    ((addUnits r target ps).map fun p => p.place.key).Nodup := by
  have htopped : (ps.map (topUp r target)).map (fun p => p.place.key)
      = ps.map fun p => p.place.key := by
    rw [List.map_map]
    exact List.map_congr_left fun p _ => congrArg Place.key (place_topUp p)
  rw [addUnits_eq, List.map_append, htopped]
  split
  · simpa using nodup
  · rename_i hnew
    refine List.nodup_append.2 ⟨nodup, List.nodup_singleton _, fun k hk k' hk' => ?_⟩
    obtain ⟨p, hp, rfl⟩ := List.mem_map.1 hk
    rw [List.mem_singleton.1 hk']
    exact fun hkey => hnew (List.any_eq_true.2 ⟨p, hp, decide_eq_true hkey⟩)

lemma sound_addUnits (hps : ∀ p ∈ ps, Snapshot.PlacementSound p) (units : 1 ≤ r.quantity)
    (known : PlacementStatus.isKnown r.status = true) :
    ∀ p ∈ addUnits r target ps, Snapshot.PlacementSound p := by
  intro p hp
  rw [addUnits_eq] at hp
  rcases List.mem_append.1 hp with hp | hp
  · obtain ⟨old, hold, rfl⟩ := List.mem_map.1 hp
    obtain ⟨hquantity, hstatus⟩ := hps old hold
    rw [topUp]
    split
    · exact ⟨by simp only; omega, hstatus⟩
    · exact ⟨hquantity, hstatus⟩
  · split at hp
    · cases hp
    · rw [List.mem_singleton.1 hp]
      exact ⟨units, known⟩

/-- Units brought to a place are added once, whether there were some before or not. -/
theorem addUp_addUnits (nodup : (ps.map fun p => p.place.key).Nodup) :
    addUp ((addUnits r target ps).map Placement.quantity)
      = addUp (ps.map Placement.quantity) + r.quantity := by
  rw [addUnits_eq, List.map_append, addUp_append, List.map_map]
  have hsame : ∀ p : Placement, p.place.key ≠ target.key → (topUp r target p).quantity = p.quantity
      := fun p hne => by rw [topUp, if_neg hne]
  split
  · rename_i hthere
    obtain ⟨old, hold, hkey⟩ := List.any_eq_true.1 hthere
    have hkey := of_decide_eq_true hkey
    have hedit := addUp_map_edit (f := Placement.quantity)
      (g := fun p => (topUp r target p).quantity) nodup hold
      fun p _ hne => hsame p (hkey ▸ hne)
    have htopped : (topUp r target old).quantity = old.quantity + r.quantity := by
      rw [topUp, if_pos hkey]
    show addUp (ps.map fun p => (topUp r target p).quantity) + 0 = _
    rw [hedit, htopped]
    omega
  · rename_i hnew
    have hkept : ps.map (Placement.quantity ∘ topUp r target) = ps.map Placement.quantity := by
      refine List.map_congr_left fun p hp => hsame p fun hkey => hnew ?_
      exact List.any_eq_true.2 ⟨p, hp, decide_eq_true hkey⟩
    rw [hkept]
    show _ + (r.quantity + 0) = _
    omega

end Add

/-! ### Units moved -/

section Move

variable {source : Placement} {target : Option Place} {moved : Int}

/-- Whether units are moved to the place of a placement. -/
def isTarget (target : Option Place) (p : Placement) : Bool :=
  target.any fun place => p.place.key = place.key

/-- What a placement becomes when units of `source` are moved. -/
def afterMove (source : Placement) (target : Option Place) (moved : Int) (p : Placement) :
    List Placement :=
  if p.id = source.id then
    if 0 < p.quantity - moved then [{ p with quantity := p.quantity - moved }] else []
  else if isTarget target p then [{ p with quantity := p.quantity + moved }]
  else [p]

/-- The placement of moved units at a place where there were none. -/
def arrival (source : Placement) (place : Place) (moved : Int) : Placement :=
  { id := none, place, quantity := moved, status := source.status, notes := source.notes }

/-- The new placement of moved units, if one is needed. -/
def arrivals (source : Placement) (target : Option Place) (moved : Int) (ps : List Placement) :
    List Placement :=
  match target with
  | none => []
  | some place =>
    if ps.any fun p => p.id ≠ source.id && isTarget target p then []
    else [arrival source place moved]

lemma arrivals_of_merged {place : Place}
    (h : ∃ p ∈ ps, p.id ≠ source.id ∧ p.place.key = place.key) :
    arrivals source (some place) moved ps = [] := by
  obtain ⟨p, hp, hid, hkey⟩ := h
  exact if_pos (List.any_eq_true.2 ⟨p, hp, by simp [hid, isTarget, hkey]⟩)

lemma arrivals_of_new {place : Place}
    (h : ∀ p ∈ ps, p.id ≠ source.id → p.place.key ≠ place.key) :
    arrivals source (some place) moved ps = [arrival source place moved] := by
  refine if_neg fun hmerged => ?_
  obtain ⟨p, hp, hboth⟩ := List.any_eq_true.1 hmerged
  obtain ⟨hid, hkey⟩ : p.id ≠ source.id ∧ p.place.key = place.key := by
    simpa [isTarget] using hboth
  exact h p hp hid hkey

/-- There is at most one new placement, at the target and at no place that others are at. -/
lemma arrivals_cases (source : Placement) (target : Option Place) (moved : Int)
    (ps : List Placement) :
    arrivals source target moved ps = []
      ∨ ∃ place, target = some place
        ∧ arrivals source target moved ps = [arrival source place moved]
        ∧ ∀ p ∈ ps, p.id ≠ source.id → p.place.key ≠ place.key := by
  cases target with
  | none => exact Or.inl rfl
  | some place =>
      by_cases h : ∃ p ∈ ps, p.id ≠ source.id ∧ p.place.key = place.key
      · exact Or.inl (arrivals_of_merged h)
      · have hnew : ∀ p ∈ ps, p.id ≠ source.id → p.place.key ≠ place.key :=
          fun p hp hid hkey => h ⟨p, hp, hid, hkey⟩
        exact Or.inr ⟨place, rfl, arrivals_of_new hnew, hnew⟩

lemma moveUnits_eq (source : Placement) (target : Option Place) (moved : Int)
    (ps : List Placement) :
    moveUnits source target moved ps
      = ps.flatMap (afterMove source target moved) ++ arrivals source target moved ps := by
  cases target with
  | none => exact (List.append_nil _).symm
  | some place =>
      have hmove : moveUnits source (some place) moved ps
          = if ps.any fun p => p.id ≠ source.id && isTarget (some place) p then
              ps.flatMap (afterMove source (some place) moved)
            else ps.flatMap (afterMove source (some place) moved) ++ [arrival source place moved] :=
        rfl
      rw [hmove, arrivals]
      split
      · exact (List.append_nil _).symm
      · rfl

lemma place_of_mem_afterMove {p q : Placement} (h : q ∈ afterMove source target moved p) :
    q.place = p.place := by
  rw [afterMove] at h
  split at h
  · split at h
    · rw [List.mem_singleton.1 h]
    · cases h
  · split at h
    · rw [List.mem_singleton.1 h]
    · rw [List.mem_singleton.1 h]

/-- Every place is one that was there or the one that units were moved to. -/
lemma place_of_mem_moveUnits {p : Placement} (h : p ∈ moveUnits source target moved ps) :
    (∃ old ∈ ps, p.place = old.place) ∨ target = some p.place := by
  rw [moveUnits_eq] at h
  rcases List.mem_append.1 h with h | h
  · obtain ⟨old, hold, hp⟩ := List.mem_flatMap.1 h
    exact Or.inl ⟨old, hold, place_of_mem_afterMove hp⟩
  · rcases arrivals_cases source target moved ps with hnone | ⟨place, rfl, hone, -⟩
    · rw [hnone] at h
      cases h
    · rw [hone, List.mem_singleton] at h
      rw [h]
      exact Or.inr rfl

lemma sound_moveUnits (hps : ∀ p ∈ ps, Snapshot.PlacementSound p) (hsource : source ∈ ps)
    (some_moved : 1 ≤ moved) :
    ∀ p ∈ moveUnits source target moved ps, Snapshot.PlacementSound p := by
  intro p hp
  rw [moveUnits_eq] at hp
  rcases List.mem_append.1 hp with hp | hp
  · obtain ⟨old, hold, hp⟩ := List.mem_flatMap.1 hp
    obtain ⟨hquantity, hstatus⟩ := hps old hold
    rw [afterMove] at hp
    split at hp
    · split at hp
      · rw [List.mem_singleton.1 hp]
        exact ⟨by simp only; omega, hstatus⟩
      · cases hp
    · split at hp
      · rw [List.mem_singleton.1 hp]
        exact ⟨by simp only; omega, hstatus⟩
      · rw [List.mem_singleton.1 hp]
        exact ⟨hquantity, hstatus⟩
  · rcases arrivals_cases source target moved ps with hnone | ⟨place, -, hone, -⟩
    · rw [hnone] at hp
      cases hp
    · rw [hone, List.mem_singleton] at hp
      rw [hp]
      exact ⟨some_moved, (hps source hsource).2⟩

section Rows

variable (ids : (ps.map Placement.id).Nodup) (hsource : source ∈ ps)

include ids hsource

/-- Only the source has its row. -/
lemma eq_source_of_id {p : Placement} (hp : p ∈ ps) (h : p.id = source.id) : p = source :=
  List.inj_on_of_nodup_map ids hp hsource h

/-- So the source is found under the id of its row. -/
lemma find?_source {id : Int} (named : source.id = some id) :
    (ps.find? fun p => p.id = some id) = some source :=
  find?_eq_some_of_unique hsource (decide_eq_true named) fun _ hp hid =>
    eq_source_of_id ids hsource hp ((of_decide_eq_true hid).trans named.symm)

lemma nodup_moveUnits (nodup : (ps.map fun p => p.place.key).Nodup)
    (elsewhere : ∀ place, target = some place → place.key ≠ source.place.key) :
    ((moveUnits source target moved ps).map fun p => p.place.key).Nodup := by
  have hleft : ((ps.flatMap (afterMove source target moved)).map fun p => p.place.key).Nodup := by
    refine nodup.sublist (map_flatMap_sublist fun p _ => ?_)
    rw [afterMove]
    split
    · split
      · exact List.Sublist.refl _
      · exact List.nil_sublist _
    · split <;> exact List.Sublist.refl _
  rw [moveUnits_eq, List.map_append]
  rcases arrivals_cases source target moved ps with hnone | ⟨place, rfl, hone, hnew⟩
  · rw [hnone]
    simpa using hleft
  · -- the target is a place where neither the source nor another placement is
    rw [hone]
    refine List.nodup_append.2 ⟨hleft, List.nodup_singleton _, fun k hk k' hk' => ?_⟩
    obtain ⟨q, hq, rfl⟩ := List.mem_map.1 hk
    obtain ⟨old, hold, hq⟩ := List.mem_flatMap.1 hq
    rw [List.mem_singleton.1 hk', place_of_mem_afterMove hq]
    by_cases hid : old.id = source.id
    · rw [eq_source_of_id ids hsource hold hid]
      exact (elsewhere place rfl).symm
    · exact hnew old hold hid

omit hsource ids in
/-- The units of a placement after the move. -/
lemma addUp_afterMove (enough : moved ≤ source.quantity) (p : Placement)
    (own : p.id = source.id → p = source) :
    addUp ((afterMove source target moved p).map Placement.quantity)
      = p.quantity - (if p.id = source.id then moved else 0)
        + if p.id ≠ source.id ∧ isTarget target p then moved else 0 := by
  rw [afterMove]
  by_cases hid : p.id = source.id
  · rw [own hid]
    simp only [if_true, ne_eq, not_true_eq_false, false_and, if_false]
    split
    · simp [addUp]
    · simp only [List.map_nil, addUp]
      omega
  · simp only [hid, if_false, ne_eq, not_false_eq_true, true_and]
    split <;> simp [addUp]

/-- Units that are moved to a place are all there afterwards; units without a target have gone back
to the store. -/
theorem addUp_moveUnits (nodup : (ps.map fun p => p.place.key).Nodup)
    (enough : moved ≤ source.quantity) :
    addUp ((moveUnits source target moved ps).map Placement.quantity)
      = addUp (ps.map Placement.quantity) - if target = none then moved else 0 := by
  -- first the units are taken from the source, then they are added at the target
  let taken (p : Placement) : Int := p.quantity - if p.id = source.id then moved else 0
  let given (p : Placement) : Int :=
    taken p + if p.id ≠ source.id ∧ isTarget target p then moved else 0
  have htaken : addUp (ps.map taken) = addUp (ps.map Placement.quantity) - moved := by
    have hedit := addUp_map_edit (f := Placement.quantity) (g := taken) ids hsource
      fun p _ hne => by simp [taken, hne]
    have hown : taken source = source.quantity - moved := by simp [taken]
    rw [hedit, hown]
    omega
  have hgiven : addUp ((ps.flatMap (afterMove source target moved)).map Placement.quantity)
      = addUp (ps.map given) := by
    rw [addUp_map_flatMap]
    congr 1
    exact List.map_congr_left fun p hp =>
      addUp_afterMove enough p (eq_source_of_id ids hsource hp)
  rw [moveUnits_eq, List.map_append, addUp_append, hgiven]
  cases target with
  | none =>
      have hsame : ps.map given = ps.map taken :=
        List.map_congr_left fun p _ => by simp [given, isTarget]
      rw [hsame, htaken]
      simp [arrivals, addUp]
  | some place =>
      by_cases hmerged : ∃ p ∈ ps, p.id ≠ source.id ∧ p.place.key = place.key
      · obtain ⟨p, hp, hid, hkey⟩ := hmerged
        have hedit := addUp_map_edit (f := taken) (g := given) nodup hp
          fun q _ hne => by simp [given, isTarget, ← hkey, hne]
        have hown : given p = taken p + moved := by simp [given, isTarget, hid, hkey]
        rw [arrivals_of_merged ⟨p, hp, hid, hkey⟩, hedit, hown, htaken]
        simp [addUp]
      · have hnew : ∀ p ∈ ps, p.id ≠ source.id → p.place.key ≠ place.key :=
          fun p hp hid hkey => hmerged ⟨p, hp, hid, hkey⟩
        have hsame : ps.map given = ps.map taken := by
          refine List.map_congr_left fun p hp => ?_
          have hother : ¬ (p.id ≠ source.id ∧ isTarget (some place) p = true) := by
            rintro ⟨hid, hkey⟩
            exact hnew p hp hid (by simpa [isTarget] using hkey)
          simp only [given, if_neg hother, Int.add_zero]
        rw [arrivals_of_new hnew, hsame, htaken]
        simp [addUp, arrival]

end Rows

end Move

end Placements

end StageStock
