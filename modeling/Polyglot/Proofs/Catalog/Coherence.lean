import Mathlib.Data.List.Nodup
import Polyglot.Catalog.Builtin
import Polyglot.Proofs.Extension

/-!
# Coherence of a catalog

The two indexes of a catalog say the same as its list of languages: the one by identifier has each
language at its place, the one by extension has each listed extension at the place of the language
that lists it. That no two languages share an identifier or an extension, and that no place in an
index lies beyond the list, follows.

`Coherent` is this invariant. Each step of an insertion keeps it: a renaming (`Coherent.rename`) and
a claim (`Coherent.claim`), so it also holds between the steps. A claim changes all languages alike
(`Coherent.changes_claim`): the claimant adopts the extension and everybody else releases it. So
does a row of claims with all that is registered in it (`Coherent.changes_claims`).
-/

namespace Polyglot.Catalog

variable {c : Catalog} {i j : Nat} {x y : String} {xs : List String} {l m : Language}

/-! ## Languages that gain and lose an extension -/

@[simp] theorem release_id : (release x l).id = l.id := rfl

@[simp] theorem release_name : (release x l).name = l.name := rfl

@[simp] theorem adopt_id : (adopt x l).id = l.id := by
  rw [adopt]
  split <;> rfl

@[simp] theorem adopt_name : (adopt x l).name = l.name := by
  rw [adopt]
  split <;> rfl

@[simp] theorem mem_extensions_release :
    y ∈ (release x l).extensions ↔ y ∈ l.extensions ∧ y ≠ x := by
  simp [release]

/-- A language that has the extension already is left as it is. -/
theorem adopt_eq_self (h : x ∈ l.extensions) : adopt x l = l := by
  rw [adopt, if_pos (List.contains_iff_mem.mpr h)]

/-- A new extension is added at the end of the list. -/
theorem extensions_adopt (h : x ∉ l.extensions) :
    (adopt x l).extensions = l.extensions ++ [x] := by
  rw [adopt, if_neg (by simpa using h)]

@[simp] theorem mem_extensions_adopt :
    y ∈ (adopt x l).extensions ↔ y ∈ l.extensions ∨ y = x := by
  by_cases h : x ∈ l.extensions
  · rw [adopt_eq_self h]
    exact ⟨.inl, fun hy => hy.elim id fun e => e ▸ h⟩
  · rw [extensions_adopt h, List.mem_append, List.mem_singleton]

theorem release_eq_self (h : x ∉ l.extensions) : release x l = l := by
  have : l.extensions.filter (· != x) = l.extensions :=
    List.filter_eq_self.mpr fun y hy => bne_iff_ne.mpr fun e => h (e ▸ hy)
  rw [release, this]

/-- What becomes of the language at the place `j` when the one at `i` gets the extension. -/
def handOver (i : Nat) (x : String) (j : Nat) (l : Language) : Language :=
  if j = i then adopt x l else release x l

@[simp] theorem handOver_id : (handOver i x j l).id = l.id := by
  rw [handOver]
  split <;> simp

@[simp] theorem handOver_name : (handOver i x j l).name = l.name := by
  rw [handOver]
  split <;> simp

/-- After an extension has been handed over, the new owner alone has it. -/
theorem mem_extensions_handOver_self : x ∈ (handOver i x j l).extensions ↔ j = i := by
  rw [handOver]
  split <;> simp [*]

/-- Handing over an extension leaves all others where they are. -/
theorem mem_extensions_handOver_of_ne (h : y ≠ x) :
    y ∈ (handOver i x j l).extensions ↔ y ∈ l.extensions := by
  rw [handOver]
  split <;> simp [h]

/-- Handing over an extension gives nobody an extension twice. -/
theorem nodup_extensions_handOver (h : l.extensions.Nodup) :
    (handOver i x j l).extensions.Nodup := by
  rw [handOver]
  split
  · by_cases hx : x ∈ l.extensions
    · rwa [adopt_eq_self hx]
    · rw [extensions_adopt hx]
      refine List.nodup_append.mpr ⟨h, List.nodup_singleton x, fun y hy z hz => ?_⟩
      rw [List.mem_singleton] at hz
      rintro rfl
      exact hx (hz ▸ hy)
  · exact h.filter _

/-- What becomes of the language at the place `j` when the one at `i` gets the name. -/
def relabel (i : Nat) (name : String) (j : Nat) (l : Language) : Language :=
  if j = i then { l with name := name } else l

@[simp] theorem relabel_id {name : String} : (relabel i name j l).id = l.id := by
  rw [relabel]
  split <;> rfl

@[simp] theorem relabel_extensions {name : String} :
    (relabel i name j l).extensions = l.extensions := by
  rw [relabel]
  split <;> rfl

/-! ## Changes place by place -/

/-- The languages of `c'` are those of `c`, each changed by what `g` says for its place. -/
def Changes (g : Nat → Language → Language) (c c' : Catalog) : Prop :=
  ∀ j : Nat, c'.entries[j]? = c.entries[j]?.map (g j)

namespace Changes

variable {g : Nat → Language → Language} {c' : Catalog}

/-- What stands at a place is what stood there, with the change made to it. -/
theorem getElem?_eq_some (h : Changes g c c') :
    c'.entries[j]? = some l ↔ ∃ m, c.entries[j]? = some m ∧ g j m = l := by
  rw [h, Option.map_eq_some_iff]

/-- The languages are those that were there, with the change made to each. -/
theorem mem_iff (h : Changes g c c') :
    l ∈ c'.entries ↔ ∃ j m, c.entries[j]? = some m ∧ g j m = l := by
  simp only [Array.mem_iff_getElem?, h.getElem?_eq_some]

/-- A change that keeps the identifiers keeps the places at which they stand. -/
theorem exists_id_iff (h : Changes g c c') (hid : ∀ j l, (g j l).id = l.id) {id : String} :
    (∃ l, c'.entries[j]? = some l ∧ l.id = id) ↔ ∃ l, c.entries[j]? = some l ∧ l.id = id := by
  simp only [h.getElem?_eq_some]
  constructor
  · rintro ⟨_, ⟨m, hm, rfl⟩, rfl⟩
    exact ⟨m, hm, (hid j m).symm⟩
  · rintro ⟨m, hm, rfl⟩
    exact ⟨_, ⟨m, hm, rfl⟩, hid j m⟩

/-- A change that keeps the identifiers loses none of them. -/
theorem exists_mem_id (h : Changes g c c') (hid : ∀ j l, (g j l).id = l.id) {id : String}
    (hl : ∃ l ∈ c.entries, l.id = id) : ∃ l ∈ c'.entries, l.id = id := by
  obtain ⟨l, hl, rfl⟩ := hl
  obtain ⟨j, hj⟩ := Array.mem_iff_getElem?.mp hl
  exact ⟨_, h.mem_iff.mpr ⟨j, l, hj, rfl⟩, hid j l⟩

/-- A change that keeps each identifier keeps the list of them. -/
theorem ids_eq (h : Changes g c c') (hid : ∀ j l, (g j l).id = l.id) :
    c'.entries.toList.map (·.id) = c.entries.toList.map (·.id) := by
  refine List.ext_getElem? fun j => ?_
  rw [List.getElem?_map, List.getElem?_map, Array.getElem?_toList, Array.getElem?_toList, h,
    Option.map_map]
  exact congrArg (Option.map · _) (funext (hid j))

end Changes

/-! ## The invariant -/

/-- The indexes agree with the list of languages, and the listed extensions are in order. -/
structure Coherent (c : Catalog) : Prop where
  /-- The index by identifier has exactly the places of the languages. -/
  byId_iff : ∀ (id : String) (i : Nat), c.byId[id]? = some i ↔
    ∃ l, c.entries[i]? = some l ∧ l.id = id
  /-- The index by extension has exactly the listed extensions. -/
  byExtension_iff : ∀ (x : String) (i : Nat), c.byExtension[x]? = some i ↔
    ∃ l, c.entries[i]? = some l ∧ x ∈ l.extensions
  /-- No language lists an extension twice. -/
  nodup_extensions : ∀ l ∈ c.entries, l.extensions.Nodup
  /-- Every listed extension is in the form in which extensions are registered. -/
  isNormal : ∀ l ∈ c.entries, ∀ x ∈ l.extensions, IsNormalExtension x

theorem coherent_empty : Coherent empty := by
  constructor <;> simp [empty]

namespace Coherent

/-- Languages with one identifier stand at one place. -/
theorem place_eq_of_id (hc : c.Coherent) (hl : c.entries[i]? = some l)
    (hm : c.entries[j]? = some m) (h : l.id = m.id) : i = j := by
  have hi := (hc.byId_iff m.id i).mpr ⟨l, hl, h⟩
  have hj := (hc.byId_iff m.id j).mpr ⟨m, hm, rfl⟩
  exact Option.some.inj (hi.symm.trans hj)

/-- Languages that list one extension stand at one place. -/
theorem place_eq_of_extension (hc : c.Coherent) (hl : c.entries[i]? = some l)
    (hm : c.entries[j]? = some m) (hx : x ∈ l.extensions) (hy : x ∈ m.extensions) : i = j := by
  have hi := (hc.byExtension_iff x i).mpr ⟨l, hl, hx⟩
  have hj := (hc.byExtension_iff x j).mpr ⟨m, hm, hy⟩
  exact Option.some.inj (hi.symm.trans hj)

/-- No two languages of a coherent catalog have the same identifier. -/
theorem nodup_ids (hc : c.Coherent) : (c.entries.toList.map (·.id)).Nodup := by
  rw [List.nodup_iff_getElem?_ne_getElem?]
  intro i j hij hj e
  rw [List.length_map, Array.length_toList] at hj
  have hi : i < c.entries.size := by omega
  rw [List.getElem?_map, List.getElem?_map, Array.getElem?_toList, Array.getElem?_toList,
    Array.getElem?_eq_getElem hi, Array.getElem?_eq_getElem hj, Option.map_some, Option.map_some,
    Option.some.injEq] at e
  have := hc.place_eq_of_id (Array.getElem?_eq_getElem hi) (Array.getElem?_eq_getElem hj) e
  omega

/-- The index by identifier names places of the list only. -/
theorem lt_of_byId (hc : c.Coherent) {id : String} (h : c.byId[id]? = some i) : i < c.size := by
  obtain ⟨l, hl, -⟩ := (hc.byId_iff id i).mp h
  exact (Array.getElem?_eq_some_iff.mp hl).1

/-- The index by extension names places of the list only. -/
theorem lt_of_byExtension (hc : c.Coherent) (h : c.byExtension[x]? = some i) : i < c.size := by
  obtain ⟨l, hl, -⟩ := (hc.byExtension_iff x i).mp h
  exact (Array.getElem?_eq_some_iff.mp hl).1

/-- A file name resolves to the language that lists its extension. -/
theorem resolve_eq_some_iff (hc : c.Coherent) {fileName id : String} :
    c.resolve fileName = some id ↔ extensionOf fileName ≠ "" ∧
      ∃ l ∈ c.entries, extensionOf fileName ∈ l.extensions ∧ l.id = id := by
  simp only [resolve, String.isEmpty_iff, Option.ite_none_left_eq_some, Option.bind_eq_some_iff,
    Option.map_eq_some_iff, hc.byExtension_iff]
  refine and_congr_right fun _ => ⟨?_, ?_⟩
  · rintro ⟨i, ⟨l, hl, hx⟩, m, hm, rfl⟩
    obtain rfl := Option.some.inj (hl.symm.trans hm)
    exact ⟨l, Array.mem_of_getElem? hl, hx, rfl⟩
  · rintro ⟨l, hl, hx, rfl⟩
    obtain ⟨i, hi⟩ := Array.mem_iff_getElem?.mp hl
    exact ⟨i, ⟨l, hi, hx⟩, l, hi, rfl⟩

/-- A language is displayed under the name in the list. -/
theorem displayName_eq_some_iff (hc : c.Coherent) {id name : String} :
    c.displayName id = some name ↔ ∃ l ∈ c.entries, l.id = id ∧ l.name = name := by
  simp only [displayName, Option.bind_eq_some_iff, Option.map_eq_some_iff, hc.byId_iff]
  constructor
  · rintro ⟨i, ⟨l, hl, hid⟩, m, hm, rfl⟩
    obtain rfl := Option.some.inj (hl.symm.trans hm)
    exact ⟨l, Array.mem_of_getElem? hl, hid, rfl⟩
  · rintro ⟨l, hl, hid, rfl⟩
    obtain ⟨i, hi⟩ := Array.mem_iff_getElem?.mp hl
    exact ⟨i, ⟨l, hi, hid⟩, l, hi, rfl⟩

end Coherent

/-! ## Renaming -/

/-- A language that is known gets a new name at its place. -/
theorem rename_of_known {id : String} (name : String) (h : c.byId[id]? = some i) :
    c.rename id name =
      ({ c with entries := c.entries.modify i fun l => { l with name := name } }, i) := by
  rw [rename, h]

/-- A language that is not known is added at the end, with no extensions, and indexed. -/
theorem rename_of_new {id : String} (name : String) (h : c.byId[id]? = none) :
    c.rename id name =
      ({ c with
          entries := c.entries.push { id := id, name := name }
          byId := c.byId.insert id c.entries.size }, c.entries.size) := by
  rw [rename, h]

/-- Renaming a known language changes its name alone. -/
theorem changes_rename {id : String} (name : String) (h : c.byId[id]? = some i) :
    Changes (relabel i name) c (c.rename id name).1 := by
  intro j
  rw [rename_of_known name h, Array.getElem?_modify]
  by_cases hj : i = j
  · subst hj
    rw [if_pos rfl]
    exact congrArg (Option.map · _) (funext fun l => (if_pos rfl).symm)
  · have hrest : relabel i name j = fun l => l := funext fun l => if_neg (Ne.symm hj)
    rw [if_neg hj, hrest, Option.map_id']

theorem Coherent.rename_of_known (hc : c.Coherent) {id : String} (name : String)
    (h : c.byId[id]? = some i) : (c.rename id name).1.Coherent := by
  have hchg := changes_rename name h
  rw [Catalog.rename_of_known name h] at hchg ⊢
  refine ⟨fun id' j => ?_, fun x j => ?_, fun l hl => ?_, fun l hl => ?_⟩
  · rw [hchg.exists_id_iff fun _ _ => relabel_id]
    exact hc.byId_iff id' j
  · simp only [hchg.getElem?_eq_some]
    rw [hc.byExtension_iff]
    constructor
    · rintro ⟨m, hm, hx⟩
      exact ⟨_, ⟨m, hm, rfl⟩, by rwa [relabel_extensions]⟩
    · rintro ⟨_, ⟨m, hm, rfl⟩, hx⟩
      exact ⟨m, hm, by rwa [relabel_extensions] at hx⟩
  · obtain ⟨j, m, hm, rfl⟩ := hchg.mem_iff.mp hl
    exact relabel_extensions.symm ▸ hc.nodup_extensions m (Array.mem_of_getElem? hm)
  · obtain ⟨j, m, hm, rfl⟩ := hchg.mem_iff.mp hl
    exact relabel_extensions.symm ▸ hc.isNormal m (Array.mem_of_getElem? hm)

/-- A language that comes in stands at the end of the list and has no extensions yet. -/
theorem Coherent.rename_of_new (hc : c.Coherent) {id : String} (name : String)
    (h : c.byId[id]? = none) : (c.rename id name).1.Coherent := by
  rw [Catalog.rename_of_new name h]
  refine ⟨fun id' j => ?_, fun x j => ?_, fun l hl => ?_, fun l hl => ?_⟩
  · rw [Std.HashMap.getElem?_insert, Array.getElem?_push]
    by_cases hid : id = id'
    · subst hid
      rw [if_pos (beq_self_eq_true id), Option.some.injEq]
      by_cases hj : j = c.entries.size
      · simp [hj]
      · rw [if_neg hj, ← hc.byId_iff, h]
        simp [Ne.symm hj]
    · rw [if_neg (by simpa using hid), hc.byId_iff]
      by_cases hj : j = c.entries.size
      · simp [hj, hid]
      · rw [if_neg hj]
  · rw [hc.byExtension_iff, Array.getElem?_push]
    by_cases hj : j = c.entries.size
    · simp [hj]
    · rw [if_neg hj]
  · rcases Array.mem_push.mp hl with hl | rfl
    · exact hc.nodup_extensions l hl
    · exact List.nodup_nil
  · rcases Array.mem_push.mp hl with hl | rfl
    · exact hc.isNormal l hl
    · exact fun x hx => absurd hx List.not_mem_nil

theorem Coherent.rename (hc : c.Coherent) (id name : String) : (c.rename id name).1.Coherent := by
  cases h : c.byId[id]? with
  | some i => exact hc.rename_of_known name h
  | none => exact hc.rename_of_new name h

/-- A renaming returns the place of the language with the identifier. -/
theorem Coherent.getElem?_rename_place (hc : c.Coherent) (id name : String) :
    ∃ l, (c.rename id name).1.entries[(c.rename id name).2]? = some l ∧ l.id = id := by
  cases h : c.byId[id]? with
  | some i =>
    obtain ⟨l, hl, hid⟩ := (hc.byId_iff id i).mp h
    rw [Catalog.rename_of_known name h]
    exact ⟨{ l with name := name }, by rw [Array.getElem?_modify, if_pos rfl, hl]; rfl, hid⟩
  | none =>
    rw [Catalog.rename_of_new name h]
    exact ⟨_, Array.getElem?_push_size, rfl⟩

/-! ## Claims -/

@[simp] theorem size_claim (i : Nat) (c : Catalog) (ext : String) :
    (claim i c ext).size = c.size := by
  simp only [claim, size]
  split
  · rfl
  · split
    · split <;> simp
    · simp

/-- An extension that is empty in its normal form is passed over. -/
theorem claim_of_eq_empty {ext : String} (i : Nat) (c : Catalog)
    (h : normalizeExtension ext = "") : claim i c ext = c := by
  simp [claim, h]

/-- Claiming an extension changes no identifier. -/
theorem byId_claim (i : Nat) (c : Catalog) (ext : String) : (claim i c ext).byId = c.byId := by
  simp only [claim]
  split <;> rfl

/-- The index leads from a claimed extension to the language that claims it. -/
theorem byExtension_claim {ext : String} (i : Nat) (c : Catalog)
    (h : normalizeExtension ext ≠ "") :
    (claim i c ext).byExtension = c.byExtension.insert (normalizeExtension ext) i := by
  simp only [claim, String.isEmpty_iff, if_neg h]

/-- A language that does not own an extension has nothing to release. -/
theorem Coherent.map_release_eq (hc : c.Coherent) (h : c.byExtension[x]? ≠ some j) :
    c.entries[j]?.map (release x) = c.entries[j]? := by
  cases hl : c.entries[j]? with
  | none => rfl
  | some l =>
    rw [Option.map_some, release_eq_self]
    exact fun hx => h ((hc.byExtension_iff x j).mpr ⟨l, hl, hx⟩)

/-- After a claim the claimant has the extension, and no other language does. -/
theorem Coherent.changes_claim (hc : c.Coherent) {ext : String} (h : normalizeExtension ext ≠ "")
    (i : Nat) : Changes (handOver i (normalizeExtension ext)) c (claim i c ext) := by
  intro j
  simp only [claim, String.isEmpty_iff, if_neg h]
  generalize normalizeExtension ext = x
  rw [Array.getElem?_modify]
  by_cases hj : i = j
  · -- the claimant releases nothing, whoever owned the extension
    subst hj
    have hclaimant : handOver i x i = adopt x := funext fun l => if_pos rfl
    rw [if_pos rfl, hclaimant]
    cases howner : c.byExtension[x]? with
    | none => rfl
    | some owner =>
      by_cases ho : owner = i
      · simp only [if_pos ho]
      · simp only [if_neg ho, Array.getElem?_modify]
  · have hrest : handOver i x j = release x := funext fun l => if_neg (Ne.symm hj)
    rw [if_neg hj, hrest]
    cases howner : c.byExtension[x]? with
    | none => exact (hc.map_release_eq (by simp [howner])).symm
    | some owner =>
      by_cases ho : owner = i
      · simp only [if_pos ho]
        exact (hc.map_release_eq (by simp [howner, ho, hj])).symm
      · simp only [if_neg ho, Array.getElem?_modify]
        split
        · rfl
        · next hne => exact (hc.map_release_eq (by simp [howner, hne])).symm

/-- After a claim the index by extension has the listed extensions again. -/
theorem Coherent.byExtension_claim_iff (hc : c.Coherent) (hi : i < c.size) {ext : String}
    (h : normalizeExtension ext ≠ "") : (claim i c ext).byExtension[y]? = some j ↔
      ∃ l, (claim i c ext).entries[j]? = some l ∧ y ∈ l.extensions := by
  have hchg := hc.changes_claim h i
  rw [byExtension_claim i c h, Std.HashMap.getElem?_insert]
  by_cases hxy : normalizeExtension ext = y
  · -- the extension that is claimed belongs to the claimant alone
    subst hxy
    rw [if_pos (beq_self_eq_true _), Option.some.injEq]
    constructor
    · rintro rfl
      exact ⟨_, hchg.getElem?_eq_some.mpr ⟨c.entries[i], Array.getElem?_eq_getElem hi, rfl⟩,
        mem_extensions_handOver_self.mpr rfl⟩
    · rintro ⟨l, hl, hx⟩
      obtain ⟨m, hm, rfl⟩ := hchg.getElem?_eq_some.mp hl
      exact (mem_extensions_handOver_self.mp hx).symm
  · rw [if_neg (by simpa using hxy), hc.byExtension_iff]
    constructor
    · rintro ⟨l, hl, hy⟩
      exact ⟨_, hchg.getElem?_eq_some.mpr ⟨l, hl, rfl⟩,
        (mem_extensions_handOver_of_ne (Ne.symm hxy)).mpr hy⟩
    · rintro ⟨l, hl, hy⟩
      obtain ⟨m, hm, rfl⟩ := hchg.getElem?_eq_some.mp hl
      exact ⟨m, hm, (mem_extensions_handOver_of_ne (Ne.symm hxy)).mp hy⟩

/-- A claim keeps a catalog coherent: the old owner gives up the extension, the new one gets it,
and the index follows. -/
theorem Coherent.claim (hc : c.Coherent) (hi : i < c.size) (ext : String) :
    (claim i c ext).Coherent := by
  by_cases h : normalizeExtension ext = ""
  · rwa [claim_of_eq_empty i c h]
  have hchg := hc.changes_claim h i
  refine ⟨fun id j => ?_, fun y j => hc.byExtension_claim_iff hi h, fun l hl => ?_, fun l hl => ?_⟩
  · rw [byId_claim, hchg.exists_id_iff fun _ _ => handOver_id, hc.byId_iff]
  · obtain ⟨j, m, hm, rfl⟩ := hchg.mem_iff.mp hl
    exact nodup_extensions_handOver (hc.nodup_extensions m (Array.mem_of_getElem? hm))
  · obtain ⟨j, m, hm, rfl⟩ := hchg.mem_iff.mp hl
    intro y hy
    by_cases hxy : y = normalizeExtension ext
    · exact hxy ▸ isNormalExtension_normalizeExtension h
    · exact hc.isNormal m (Array.mem_of_getElem? hm) y
        ((mem_extensions_handOver_of_ne hxy).mp hy)

/-! ## Rows of claims -/

/-- Puts extensions at the end of a language's list, each unless the list has it. -/
def adoptAll (xs : List String) (l : Language) : Language := xs.foldl (fun l x => adopt x l) l

theorem adoptAll_cons : adoptAll (x :: xs) l = adoptAll xs (adopt x l) := rfl

@[simp] theorem adoptAll_id : (adoptAll xs l).id = l.id := by
  induction xs generalizing l with
  | nil => rfl
  | cons x rest ih => rw [adoptAll_cons, ih, adopt_id]

/-- Takes extensions out of a language. -/
def releaseAll (xs : List String) (l : Language) : Language :=
  { l with extensions := l.extensions.filter (· ∉ xs) }

@[simp] theorem releaseAll_id : (releaseAll xs l).id = l.id := rfl

@[simp] theorem releaseAll_nil : releaseAll [] l = l := by
  simp [releaseAll]

theorem releaseAll_cons : releaseAll (x :: xs) l = releaseAll xs (release x l) := by
  simp only [releaseAll, release, List.filter_filter, List.mem_cons, not_or]
  congr 1
  refine List.filter_congr fun y _ => ?_
  by_cases hy : y = x <;> simp [hy]

/-- A language that has none of the extensions gives none up. -/
theorem releaseAll_eq_self (h : ∀ x ∈ xs, x ∉ l.extensions) : releaseAll xs l = l := by
  have : l.extensions.filter (· ∉ xs) = l.extensions :=
    List.filter_eq_self.mpr fun y hy => decide_eq_true fun hmem => h y hmem hy
  rw [releaseAll, this]

theorem size_claims (i : Nat) (c : Catalog) (exts : List String) :
    (exts.foldl (Catalog.claim i) c).size = c.size := by
  induction exts generalizing c with
  | nil => rfl
  | cons ext rest ih => rw [List.foldl_cons, ih, size_claim]

/-- A catalog stays coherent while one language claims extensions, one after the other. -/
theorem Coherent.claims (hc : c.Coherent) (hi : i < c.size) (exts : List String) :
    (exts.foldl (Catalog.claim i) c).Coherent := by
  induction exts generalizing c with
  | nil => exact hc
  | cons ext rest ih => exact ih (hc.claim hi ext) (by rwa [size_claim])

/-- What becomes of the language at the place `j` when the one at `i` gets the extensions. -/
def handOverAll (i : Nat) (xs : List String) (j : Nat) (l : Language) : Language :=
  if j = i then adoptAll xs l else releaseAll xs l

theorem handOverAll_cons :
    handOverAll i (x :: xs) j l = handOverAll i xs j (handOver i x j l) := by
  by_cases hj : j = i
  · simp only [handOverAll, handOver, if_pos hj, adoptAll_cons]
  · simp only [handOverAll, handOver, if_neg hj, releaseAll_cons]

@[simp] theorem handOverAll_id : (handOverAll i xs j l).id = l.id := by
  rw [handOverAll]
  split <;> simp

/-- After a row of claims the claimant has all of the extensions, and no other language has any. -/
theorem Coherent.changes_claims (hc : c.Coherent) (hi : i < c.size) (exts : List String) :
    Changes (handOverAll i (registered exts)) c (exts.foldl (Catalog.claim i) c) := by
  induction exts generalizing c with
  | nil =>
    intro j
    have hnothing : handOverAll i (registered []) j = fun l => l := by
      funext l
      rw [handOverAll]
      split
      · rfl
      · exact releaseAll_nil
    rw [hnothing, Option.map_id', List.foldl_nil]
  | cons ext rest ih =>
    have hrest := ih (hc.claim hi ext) (by rwa [size_claim])
    rw [List.foldl_cons]
    by_cases hx : normalizeExtension ext = ""
    · rw [claim_of_eq_empty i c hx] at hrest ⊢
      rwa [registered_cons_of_eq_empty hx]
    · intro j
      rw [hrest j, hc.changes_claim hx i j, Option.map_map, registered_cons_of_ne_empty hx]
      exact congrArg (Option.map · _) (funext fun l => handOverAll_cons.symm)

end Polyglot.Catalog
