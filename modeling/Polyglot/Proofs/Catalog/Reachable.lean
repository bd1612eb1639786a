import Polyglot.Proofs.Catalog.Coherence

/-!
# Catalogs that insertions make

A history is a list of insertions, any of which may be refused; a refused one leaves the catalog as
it was. A catalog is reachable if some history makes it of the empty or of the built-in catalog.
Every reachable catalog is coherent, and so is every catalog on the way through an insertion, so an
insertion never goes to a place that is not in the list (`Reachable.indexes_agree`).
-/

namespace Polyglot.Catalog

variable {c : Catalog} {l : Language}

/-! ## Histories -/

/-- The catalog after an insertion that may be refused. -/
def attempt (c : Catalog) (l : Language) : Catalog := (c.insert l).toOption.getD c

/-- The catalog after a history of insertions. -/
def replay (c : Catalog) (history : List Language) : Catalog := history.foldl attempt c

/-- The catalogs that come from the empty or the built-in one by insertions. -/
inductive Reachable : Catalog → Prop where
  | empty : Reachable .empty
  | builtin : Reachable .builtin
  | attempt {c : Catalog} (l : Language) : Reachable c → Reachable (c.attempt l)

theorem insert_of_valid (c : Catalog) (h : isLanguageId l.id) : c.insert l = .ok (c.upsert l) := by
  rw [insert, if_pos h]

/-- A language whose identifier is not well formed is refused. -/
theorem insert_of_invalid (c : Catalog) (h : isLanguageId l.id = false) :
    c.insert l = .error (.invalidLanguageId l.id) := by
  rw [insert, h]
  rfl

theorem attempt_of_valid (c : Catalog) (h : isLanguageId l.id) : c.attempt l = c.upsert l := by
  rw [attempt, insert_of_valid c h]
  rfl

/-- An insertion that is refused leaves the catalog as it was. -/
theorem attempt_of_invalid (c : Catalog) (h : isLanguageId l.id = false) : c.attempt l = c := by
  rw [attempt, insert_of_invalid c h]
  rfl

/-- One history after another is the two in a row. -/
theorem replay_append (c : Catalog) (h₁ h₂ : List Language) :
    c.replay (h₁ ++ h₂) = (c.replay h₁).replay h₂ :=
  List.foldl_append

/-- A list of insertions that all succeed is a history. -/
theorem replay_of_insertAll {c' : Catalog} {ls : List Language} (h : c.insertAll ls = .ok c') :
    c.replay ls = c' := by
  induction ls generalizing c with
  | nil => exact Except.ok.inj h
  | cons l rest ih =>
    rw [insertAll] at h
    cases hv : isLanguageId l.id with
    | true =>
      rw [insert_of_valid c hv] at h
      rw [replay, List.foldl_cons, attempt_of_valid c hv]
      exact ih h
    | false =>
      rw [insert_of_invalid c hv] at h
      cases h

/-- A history without refusals puts in one language after the other. -/
theorem replay_of_valid {ls : List Language} (c : Catalog)
    (h : ∀ l ∈ ls, isLanguageId l.id) : c.replay ls = ls.foldl upsert c := by
  induction ls generalizing c with
  | nil => rfl
  | cons l rest ih =>
    obtain ⟨hl, hrest⟩ := List.forall_mem_cons.mp h
    rw [List.foldl_cons, ← ih _ hrest, ← attempt_of_valid c hl]
    rfl

/-- The built-in catalog has a history of its own. -/
theorem builtin_eq_replay : builtin = empty.replay builtinLanguages :=
  (replay_of_valid empty (by decide)).symm

theorem Reachable.replay (hc : c.Reachable) (history : List Language) :
    (c.replay history).Reachable := by
  induction history generalizing c with
  | nil => exact hc
  | cons l rest ih => exact ih (.attempt l hc)

/-! ## Coherence on the way -/

namespace Coherent

/-- The place of a language that has just been named is in range. -/
theorem place_lt (hc : c.Coherent) (id name : String) :
    (c.rename id name).2 < (c.rename id name).1.size := by
  obtain ⟨l, hl, -⟩ := hc.getElem?_rename_place id name
  exact (Array.getElem?_eq_some_iff.mp hl).1

/-- A catalog is coherent after the renaming and any number of claims of an insertion. -/
theorem midway (hc : c.Coherent) (id name : String) (exts : List String) :
    (exts.foldl (Catalog.claim (c.rename id name).2) (c.rename id name).1).Coherent :=
  (hc.rename id name).claims (hc.place_lt id name) exts

/-- An insertion keeps a catalog coherent: it names the language, and then claims its extensions
one by one. -/
theorem upsert (hc : c.Coherent) (l : Language) : (c.upsert l).Coherent :=
  hc.midway l.id l.name l.extensions

/-- An attempt keeps a catalog coherent, whether or not it is refused. -/
theorem attempt (hc : c.Coherent) (l : Language) : (c.attempt l).Coherent := by
  cases h : isLanguageId l.id with
  | true => exact attempt_of_valid c h ▸ hc.upsert l
  | false => exact (attempt_of_invalid c h).symm ▸ hc

theorem replay (hc : c.Coherent) (history : List Language) : (c.replay history).Coherent := by
  induction history generalizing c with
  | nil => exact hc
  | cons l rest ih => exact ih (hc.attempt l)

end Coherent

/-- What an insertion keeps holds of every catalog that can be reached. -/
theorem Reachable.coherent (hc : c.Reachable) : c.Coherent := by
  induction hc with
  | empty => exact coherent_empty
  | builtin => exact builtin_eq_replay ▸ coherent_empty.replay builtinLanguages
  | attempt l _ ih => exact ih.attempt l

/-- Whenever an insertion of `l` comes to an extension, the language that claims it and the one that
owns it so far stand in the list. -/
def StaysInRange (c : Catalog) (l : Language) : Prop :=
  ∀ done ext rest, l.extensions = done ++ ext :: rest →
    let place := (c.rename l.id l.name).2
    let now := done.foldl (claim place) (c.rename l.id l.name).1
    place < now.size ∧
      ∀ owner, now.byExtension[normalizeExtension ext]? = some owner → owner < now.size

theorem Coherent.staysInRange (hc : c.Coherent) (l : Language) : c.StaysInRange l := by
  intro done ext rest _
  refine ⟨?_, fun owner => (hc.midway l.id l.name done).lt_of_byExtension⟩
  rw [size_claims]
  exact hc.place_lt l.id l.name

/-- **The indexes of every reachable catalog agree with its list.** Identifiers are distinct, an
extension is listed once in the whole catalog, each listed extension is in the registered form, and
no place that a look-up or an insertion goes to lies outside the list. -/
theorem Reachable.indexes_agree (hc : c.Reachable) :
    (c.entries.toList.map (·.id)).Nodup ∧
    (∀ (id : String) (i : Nat), c.byId[id]? = some i ↔
      ∃ h : i < c.entries.size, c.entries[i].id = id) ∧
    (∀ (x : String) (i : Nat), c.byExtension[x]? = some i ↔
      ∃ h : i < c.entries.size, x ∈ c.entries[i].extensions) ∧
    (∀ (i j : Nat) (hi : i < c.entries.size) (hj : j < c.entries.size) (x : String),
      x ∈ c.entries[i].extensions → x ∈ c.entries[j].extensions → i = j) ∧
    (∀ l ∈ c.entries, l.extensions.Nodup ∧ ∀ x ∈ l.extensions, x ≠ "" ∧
      (∀ rest, x.toList ≠ '.' :: rest) ∧ Unicode.lowercase x.toList = x.toList) ∧
    (∀ (id : String) (i : Nat), c.byId[id]? = some i → i < c.size) ∧
    (∀ (fileName : String) (i : Nat), c.byExtension[extensionOf fileName]? = some i → i < c.size) ∧
    ∀ l, c.StaysInRange l := by
  have hco := hc.coherent
  have hat (i : Nat) (p : Language → Prop) :
      (∃ l, c.entries[i]? = some l ∧ p l) ↔ ∃ h : i < c.entries.size, p c.entries[i] := by
    simp only [Array.getElem?_eq_some_iff]
    constructor
    · rintro ⟨l, ⟨h, rfl⟩, hp⟩
      exact ⟨h, hp⟩
    · rintro ⟨h, hp⟩
      exact ⟨_, ⟨h, rfl⟩, hp⟩
  refine ⟨hco.nodup_ids, fun id i => ?_, fun x i => ?_, fun i j hi hj x hx hy => ?_,
    fun l hl => ⟨hco.nodup_extensions l hl, fun x hx => ?_⟩, fun _ _ => hco.lt_of_byId,
    fun _ _ => hco.lt_of_byExtension, hco.staysInRange⟩
  · rw [hco.byId_iff, hat i (·.id = id)]
  · rw [hco.byExtension_iff, hat i (x ∈ ·.extensions)]
  · exact hco.place_eq_of_extension (Array.getElem?_eq_getElem hi) (Array.getElem?_eq_getElem hj)
      hx hy
  · have hn := hco.isNormal l hl x hx
    exact ⟨hn.ne_empty, hn.head_ne_dot, hn.lowercase_eq⟩

/-- The built-in catalog after `cpp` has taken `h` from `c`, and after a refused insertion. -/
theorem indexes_agree_moved :
    let c := (builtin.attempt ⟨"cpp", "C++ (ISO)", ["h"]⟩).attempt ⟨"Kotlin", "Kotlin", ["kt"]⟩
    c.Reachable ∧ (c.entries.toList.map (·.id)).Nodup ∧ ∀ l, c.StaysInRange l := by
  have hc := Reachable.builtin.attempt ⟨"cpp", "C++ (ISO)", ["h"]⟩
  have hc' := hc.attempt ⟨"Kotlin", "Kotlin", ["kt"]⟩
  have h := hc'.indexes_agree
  exact ⟨hc', h.1, h.2.2.2.2.2.2.2⟩

end Polyglot.Catalog
