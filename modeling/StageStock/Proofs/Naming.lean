import Mathlib.Tactic.Lemma
import StageStock.Http.Api
import StageStock.Proofs.Resolution

/-!
Whether each location is found under its own name.

Locations are looked up by their folded names, and of locations with the same folded name only the
one whose name comes last in the order of names is found, whichever of them was entered first. A
location is not entered under the very words of another one, but under words that differ from these
in case only it is. So the names of the locations that were entered are the words that were asked
for, each of them once, and every location is found under its own name exactly if no two of these
words fold to the same name.

* `Store.find?_directory_eq_some_iff`: which location is found under a name;
* `Store.TellsApart`: every location has a folded name and an entry of the directory of its own, and
  is found under its name;
* `Store.words_addLocation`: what one entry makes of the names of the locations;
* `Desk.enterAll`: a row of requests to enter a location;
* `Desk.mem_words_enterAll`, `Desk.nodup_words_enterAll`: the names of the locations after it;
* `Desk.tellsApart_enterAll_iff`: exactly when each of them is found.
-/

namespace StageStock

/-! ### Directories without equal names -/

namespace Directory

variable {names : List (Int × String)}

lemma put_of_not_mem {folded : String} {entries : List (String × Int)} (id : Int)
    (fresh : folded ∉ entries.map Prod.fst) :
    put folded id entries = entries ++ [(folded, id)] := by
  induction entries with
  | nil => rfl
  | cons entry rest ih =>
      rw [List.map_cons, List.mem_cons, not_or] at fresh
      rw [put, if_neg (Ne.symm fresh.1), ih fresh.2]
      rfl

/-- Names that are all different once they are folded have an entry each, in their order. -/
lemma entries_ofNames (given : ∀ entry ∈ names, entry.2 ≠ "")
    (nodup : (names.map fun entry => foldName entry.2).Nodup) :
    (ofNames names).entries = names.map fun entry => (foldName entry.2, entry.1) := by
  induction names using List.reverseRecOn with
  | nil => rfl
  | append_singleton names entry ih =>
      rw [List.map_append, List.nodup_append] at nodup
      obtain ⟨hearlier, -, hapart⟩ := nodup
      have hfront : (ofNames names).entries
          = names.map fun entry => (foldName entry.2, entry.1) :=
        ih (fun other hother => given other (List.mem_append_left _ hother)) hearlier
      have hfresh : foldName entry.2 ∉ (ofNames names).entries.map Prod.fst := by
        rw [hfront, List.map_map]
        exact fun hmem => hapart _ hmem _ (List.mem_singleton_self _) rfl
      have hlast : entry.2 ≠ "" := given entry (by simp)
      calc (ofNames (names ++ [entry])).entries
          = put (foldName entry.2) entry.1 (ofNames names).entries := by
            simp only [ofNames, List.foldl_append, List.foldl_cons, List.foldl_nil, if_neg hlast]
        _ = (ofNames names).entries ++ [(foldName entry.2, entry.1)] := put_of_not_mem _ hfresh
        _ = (names ++ [entry]).map fun entry => (foldName entry.2, entry.1) := by
            rw [hfront, List.map_append]
            rfl

/-- The id of a name that no other one is folded to is found under it. -/
lemma find?_ofNames_of_nodup (nodup : (names.map fun entry => foldName entry.2).Nodup)
    {entry : Int × String} (hentry : entry ∈ names) (given : entry.2 ≠ "") :
    (ofNames names).find? (foldName entry.2) = some entry.1 := by
  cases hfound : (ofNames names).find? (foldName entry.2) with
  | none => exact absurd rfl (find?_ofNames_eq_none_iff.1 hfound entry hentry given)
  | some id =>
      obtain ⟨name, hname, hsame⟩ := exists_name_of_find? hfound
      rw [← List.inj_on_of_nodup_map nodup hname hentry hsame]

/-- In a list that is in the order of names, the location found under a name is the last one in that
order. -/
lemma last_of_find?_ofNames (sorted : names.Pairwise fun a b => a.2 ≤ b.2) {folded : String}
    {id : Int} (h : (ofNames names).find? folded = some id) :
    ∃ name, (id, name) ∈ names ∧ (name ≠ "" ∧ foldName name = folded)
      ∧ ∀ other ∈ names, other.2 ≠ "" ∧ foldName other.2 = folded → other.2 ≤ name := by
  rw [find?_ofNames, Option.map_eq_some_iff] at h
  obtain ⟨entry, hentry, rfl⟩ := h
  obtain ⟨hunder, later, earlier, hsplit, hskipped⟩ := List.find?_eq_some_iff_append.1 hentry
  have hmem (other : Int × String) : other ∈ names ↔ other ∈ later ++ entry :: earlier := by
    rw [← hsplit, List.mem_reverse]
  have hsorted := List.pairwise_reverse.2 sorted
  rw [hsplit, List.pairwise_append, List.pairwise_cons] at hsorted
  refine ⟨entry.2, (hmem entry).2 (by simp), of_decide_eq_true hunder, ?_⟩
  intro other hother hother'
  rcases List.mem_append.1 ((hmem other).1 hother) with hlater | hrest
  · have hunlisted := hskipped other hlater
    rw [Bool.not_eq_true', decide_eq_false_iff_not] at hunlisted
    exact absurd hother' hunlisted
  · rcases List.mem_cons.1 hrest with rfl | hearlier
    · exact String.le_refl _
    · exact hsorted.2.1.1 other hearlier

end Directory

/-! ### Locations that are told apart -/

/-- A location is listed under a folded name. -/
def LocationRow.ListedUnder (row : LocationRow) (folded : String) : Prop :=
  row.name ≠ "" ∧ foldName row.name = folded

namespace Store

/-- The names of the locations. -/
def words (s : Store) : List String :=
  s.locations.rows.map fun row => row.2.name

/-- A location is listed under a folded name, and no other one under it has a later name. -/
structure IsLastUnder (s : Store) (folded : String) (row : Int × LocationRow) : Prop where
  listed : row ∈ s.locations.rows
  under : row.2.ListedUnder folded
  last : ∀ other ∈ s.locations.rows, other.2.ListedUnder folded → other.2.name ≤ row.2.name

variable {s : Store}

lemma exists_isLastUnder_of_find?_directory {folded : String} {id : Int}
    (h : s.directory.find? folded = some id) : ∃ row, s.IsLastUnder folded row ∧ row.1 = id := by
  obtain ⟨name, hname, hunder, hlast⟩ :=
    Directory.last_of_find?_ofNames (Directory.pairwise_byName _) h
  obtain ⟨row, hrow, heq⟩ := List.mem_map.1 (s.perm_locationNames.mem_iff.1 hname)
  obtain ⟨rfl, rfl⟩ := Prod.mk.inj heq
  refine ⟨row, ⟨hrow, hunder, fun other hother hother' => ?_⟩, rfl⟩
  exact hlast (other.1, other.2.name) (mem_locationNames_of_mem hother) hother'

/-- Of the locations that are listed under a folded name the one whose name comes last is found. -/
theorem find?_directory_eq_some_iff (nodup : s.words.Nodup) {folded : String} {id : Int} :
    s.directory.find? folded = some id ↔ ∃ row, s.IsLastUnder folded row ∧ row.1 = id := by
  refine ⟨exists_isLastUnder_of_find?_directory, ?_⟩
  rintro ⟨row, hrow, rfl⟩
  cases hfound : s.directory.find? folded with
  | none =>
      exact absurd hrow.under.2
        (find?_directory_eq_none_iff.1 hfound row hrow.listed hrow.under.1)
  | some id =>
      -- no two locations have one name, so that only one of them has the last name
      obtain ⟨row', hrow', rfl⟩ := exists_isLastUnder_of_find?_directory hfound
      have hname : row'.2.name = row.2.name := String.le_antisymm
        (hrow.last row' hrow'.listed hrow'.under) (hrow'.last row hrow.listed hrow.under)
      rw [List.inj_on_of_nodup_map nodup hrow'.listed hrow.listed hname]

/-- Small letters come after capital ones, so that this rack is found although it was entered
first. -/
example : ({ locations := ⟨[(1, { name := "rack a" }), (2, { name := "Rack A" })], by decide⟩ } :
    Store).directory.find? "rack a" = some 1 := by
  decide +kernel

/-- Every location has a folded name of its own, the directory has one entry for each location, in
the order of their names, and each location is found under its own name. -/
structure TellsApart (s : Store) : Prop where
  names : (s.words.map foldName).Nodup
  entries : s.directory.entries = s.locationNames.map fun entry => (foldName entry.2, entry.1)
  found : ∀ row ∈ s.locations.rows,
    (Place.custom row.2.name).resolve s.directory = .named row.1

/-- All of it comes down to the folded names. -/
lemma tellsApart_iff (given : "" ∉ s.words) : s.TellsApart ↔ (s.words.map foldName).Nodup := by
  refine ⟨TellsApart.names, fun nodup => ?_⟩
  have hwords : (s.locationNames.map Prod.snd).Perm s.words := by
    have h := s.perm_locationNames.map Prod.snd
    rwa [List.map_map] at h
  have hgiven : ∀ entry ∈ s.locationNames, entry.2 ≠ "" := fun entry hentry hblank =>
    given (hwords.mem_iff.1 (hblank ▸ List.mem_map_of_mem hentry))
  have hnodup : (s.locationNames.map fun entry => foldName entry.2).Nodup := by
    have h := (hwords.map foldName).nodup_iff.2 nodup
    rwa [List.map_map] at h
  refine ⟨nodup, Directory.entries_ofNames hgiven hnodup, fun row hrow => ?_⟩
  have hentry : (row.1, row.2.name) ∈ s.locationNames := mem_locationNames_of_mem hrow
  have hfound := Directory.find?_ofNames_of_nodup hnodup hentry (hgiven _ hentry)
  rw [Place.resolve, directory, hfound]

/-- A location is entered under its words, unless there are none or a location has them already. -/
lemma words_addLocation (s : Store) (r : Catalogue.LocationRequest) (now : Moment) :
    (Catalogue.addLocation r now s).2.words
      = if Text.normalise r.name = "" ∨ Text.normalise r.name ∈ s.words then s.words
        else s.words ++ [Text.normalise r.name] := by
  have hlisted : (s.locations.rows.any fun row => row.2.name = Text.normalise r.name) = true
      ↔ Text.normalise r.name ∈ s.words := by
    simp [words]
  rw [Catalogue.addLocation]
  by_cases hblank : Text.normalise r.name = ""
  · rw [if_pos (Or.inl hblank), if_pos hblank]
  · by_cases hold : Text.normalise r.name ∈ s.words
    · rw [if_pos (Or.inr hold)]
      simp only [if_neg hblank, if_pos (hlisted.2 hold)]
    · have hnew : ¬ (Text.normalise r.name = "" ∨ Text.normalise r.name ∈ s.words) :=
        not_or.2 ⟨hblank, hold⟩
      rw [if_neg hnew]
      simp only [if_neg hblank, if_neg (hlisted.not.2 hold), words, Table.rows_insert,
        List.map_append, List.map_cons, List.map_nil]

end Store

/-! ### Requests to enter a location -/

namespace Http.Request

/-- The request to enter a location that a body describes. -/
def forLocation (body : String) : Request :=
  { method := "POST", target := "/api/locations", body }

/-- The location that a body describes, if it can be read. -/
def location? (body : String) : Option Catalogue.LocationRequest :=
  match (Payload.read body).document? with
  | none => none
  | some document =>
    match Body.newLocation [.key "body"] document with
    | .problems _ => none
    | .value r => some r

/-- The words under which a body asks to enter a location, if there are any. -/
def words? (body : String) : Option String :=
  match location? body with
  | none => none
  | some r => if Text.normalise r.name = "" then none else some (Text.normalise r.name)

lemma ne_of_words? {body word : String} (h : words? body = some word) : word ≠ "" := by
  rw [words?] at h
  split at h
  · cases h
  · split at h
    · cases h
    · rename_i hgiven
      exact Option.some.inj h ▸ hgiven

end Http.Request

namespace Desk

open Http

/-- A request to enter a location is the order to enter the location that its body describes. -/
lemma serve_forLocation (desk : Desk) (now : Moment) (body : String) :
    (desk.serve now (.forLocation body)).2
      = match Request.location? body with
        | none => desk
        | some r => (desk.fulfil { now } (.addLocation r)).desk := by
  have hfault : Target.fault? "/api/locations" = none := by decide +kernel
  have hroutes : Route.ofSegments
        (Route.settle "/api/locations".length (Target.parse "/api/locations")).segments
      = [("GET", .ask .locations), ("POST", .order .addLocation)] := by
    decide +kernel
  have hroute : [("GET", Route.ask .locations), ("POST", .order .addLocation)].lookup
      "POST".toUpper = some (.order .addLocation) := by
    decide +kernel
  simp only [serve, Request.forLocation, hfault, hroutes, hroute]
  rw [Request.location?]
  cases hbody : Payload.read body with
  | malformed => rfl
  | unreadable => rfl
  | absent => rfl
  | document value =>
      simp only [handle, carryOut, Command.order, Payload.document?, Input.read]
      cases hread : Body.newLocation [.key "body"] value <;> rfl

/-- What one request to enter a location makes of the names of the locations. -/
lemma words_serve (desk : Desk) (now : Moment) (body : String) :
    (desk.serve now (.forLocation body)).2.store.words
      = match Request.words? body with
        | none => desk.store.words
        | some word =>
          if word ∈ desk.store.words then desk.store.words else desk.store.words ++ [word] := by
  rw [serve_forLocation, Request.words?]
  cases Request.location? body with
  | none => rfl
  | some r =>
      show (Catalogue.addLocation r now desk.store).2.words = _
      rw [Store.words_addLocation]
      by_cases hblank : Text.normalise r.name = ""
      · rw [if_pos (Or.inl hblank)]
        simp only [if_pos hblank]
      · simp only [if_neg hblank, or_iff_right hblank]

/-- The desk after requests to enter locations, those that were declined included. -/
def enterAll (desk : Desk) (posts : List (Moment × String)) : Desk :=
  posts.foldl (fun desk post => (desk.serve post.1 (.forLocation post.2)).2) desk

/-- The desk without locations. -/
def withoutLocations (desk : Desk) : Desk :=
  { desk with store := { desk.store with locations := Table.empty } }

variable {desk : Desk} {posts : List (Moment × String)}

lemma enterAll_concat (desk : Desk) (posts : List (Moment × String)) (post : Moment × String) :
    desk.enterAll (posts ++ [post])
      = ((desk.enterAll posts).serve post.1 (.forLocation post.2)).2 := by
  rw [enterAll, List.foldl_append]
  rfl

/-- The locations have the names that they had, and the words that were asked for. -/
lemma mem_words_enterAll {word : String} : word ∈ (desk.enterAll posts).store.words
    ↔ word ∈ desk.store.words ∨ ∃ post ∈ posts, Request.words? post.2 = some word := by
  induction posts using List.reverseRecOn with
  | nil => simp [enterAll]
  | append_singleton posts post ih =>
      have hlast : (∃ p ∈ posts ++ [post], Request.words? p.2 = some word)
          ↔ (∃ p ∈ posts, Request.words? p.2 = some word)
            ∨ Request.words? post.2 = some word := by
        simp [or_and_right, exists_or]
      rw [enterAll_concat, words_serve, hlast, ← or_assoc, ← ih]
      cases Request.words? post.2 with
      | none => simp
      | some new =>
          simp only [Option.some.injEq]
          split
          · rename_i hold
            exact ⟨Or.inl, fun h => h.elim id fun hnew => hnew ▸ hold⟩
          · rw [List.mem_append, List.mem_singleton, eq_comm (a := new)]

/-- No two locations have the very same name. -/
lemma nodup_words_enterAll (nodup : desk.store.words.Nodup) (posts : List (Moment × String)) :
    (desk.enterAll posts).store.words.Nodup := by
  induction posts using List.reverseRecOn with
  | nil => exact nodup
  | append_singleton posts post ih =>
      rw [enterAll_concat, words_serve]
      cases Request.words? post.2 with
      | none => exact ih
      | some new =>
          show (if _ then _ else _ : List String).Nodup
          split
          · exact ih
          · rename_i hnew
            refine List.nodup_append.2 ⟨ih, List.nodup_singleton _, ?_⟩
            rintro old hold _ hlast rfl
            exact hnew (List.mem_singleton.1 hlast ▸ hold)

/-- After any requests to enter locations, each location has a folded name and an entry of the
directory of its own and is found under its name exactly if no two requests asked for words that
differ and yet fold to the same name. -/
theorem tellsApart_enterAll_iff (desk : Desk) (posts : List (Moment × String)) :
    (desk.withoutLocations.enterAll posts).store.TellsApart
      ↔ ∀ post ∈ posts, ∀ post' ∈ posts, ∀ word word',
        Request.words? post.2 = some word → Request.words? post'.2 = some word' →
        foldName word = foldName word' → word = word' := by
  have hmem : ∀ word, word ∈ (desk.withoutLocations.enterAll posts).store.words
      ↔ ∃ post ∈ posts, Request.words? post.2 = some word := by
    intro word
    rw [mem_words_enterAll]
    exact or_iff_right List.not_mem_nil
  have hnodup : (desk.withoutLocations.enterAll posts).store.words.Nodup :=
    @nodup_words_enterAll desk.withoutLocations List.nodup_nil posts
  have hgiven : "" ∉ (desk.withoutLocations.enterAll posts).store.words := by
    intro hblank
    obtain ⟨post, -, hword⟩ := (hmem "").1 hblank
    exact Request.ne_of_words? hword rfl
  rw [Store.tellsApart_iff hgiven, List.nodup_map_iff_inj_on hnodup]
  constructor
  · intro hinj post hpost post' hpost' word word' hword hword'
    exact hinj word ((hmem word).2 ⟨post, hpost, hword⟩) word'
      ((hmem word').2 ⟨post', hpost', hword'⟩)
  · intro hwords word hword word' hword' hsame
    obtain ⟨post, hpost, hasked⟩ := (hmem word).1 hword
    obtain ⟨post', hpost', hasked'⟩ := (hmem word').1 hword'
    exact hwords post hpost post' hpost' word word' hasked hasked' hsame

/-- A rack is entered, and once more with small letters. -/
def twoRacks : List (Moment × String) :=
  [(default, "\x7b\"locationName\": \"Rack A\"\x7d"),
    (default, "\x7b\"locationName\": \"rack a\"\x7d")]

/-- Both are listed, the directory has one entry, and under the name of the first one the second one
is found. -/
theorem not_tellsApart_twoRacks :
    (({} : Desk).enterAll twoRacks).store.locationNames = [(1, "Rack A"), (2, "rack a")]
      ∧ (({} : Desk).enterAll twoRacks).store.directory.entries = [("rack a", 2)]
      ∧ (Place.custom "Rack A").resolve (({} : Desk).enterAll twoRacks).store.directory = .named 2
      ∧ ¬ (({} : Desk).enterAll twoRacks).store.TellsApart := by
  have hlisted : (({} : Desk).enterAll twoRacks).store.locationNames
      = [(1, "Rack A"), (2, "rack a")] := by
    decide +kernel
  have hwords : ¬ ((({} : Desk).enterAll twoRacks).store.words.map foldName).Nodup := by
    decide +kernel
  exact ⟨hlisted, by decide +kernel, by decide +kernel, fun h => hwords h.names⟩

end Desk

end StageStock
