import Polyglot.Proofs.Catalog.History

/-!
# A catalog is rebuilt from its list

The list of languages is all that a catalog holds: the languages of any reachable catalog, inserted
one after the other into the empty one, make the same catalog again, and a language that is inserted
into the catalog that lists it changes nothing (`Reachable.rebuilt_from_entries`).

Both rest on what a row of claims does when nobody but the claimant lists the extensions
(`Coherent.entries_claims`): the claimant adopts them, and all other languages stay as they are.
-/

namespace Polyglot.Catalog

variable {c c' : Catalog} {i : Nat} {l m : Language} {x : String} {xs : List String}

/-! ## Catalogs that hold the same -/

/-- The catalogs hold the same, however their indexes are laid out. -/
structure Same (c c' : Catalog) : Prop where
  entries : c.entries = c'.entries
  byId : ∀ id : String, c.byId[id]? = c'.byId[id]?
  byExtension : ∀ x : String, c.byExtension[x]? = c'.byExtension[x]?

/-- Catalogs that are the same resolve every file alike. -/
theorem Same.resolve_eq (h : c.Same c') (fileName : String) :
    c.resolve fileName = c'.resolve fileName := by
  simp only [resolve, h.entries, h.byExtension]

/-- Catalogs that are the same show the same name for every identifier. -/
theorem Same.displayName_eq (h : c.Same c') (id : String) :
    c.displayName id = c'.displayName id := by
  simp only [displayName, h.entries, h.byId]

/-- Coherent catalogs with the same list hold the same. -/
theorem Coherent.same (hc : c.Coherent) (hc' : c'.Coherent) (h : c.entries = c'.entries) :
    c.Same c' where
  entries := h
  byId id := Option.ext fun i => by rw [hc.byId_iff, hc'.byId_iff, h]
  byExtension x := Option.ext fun i => by rw [hc.byExtension_iff, hc'.byExtension_iff, h]

/-! ## Claims that take from nobody -/

theorem adoptAll_eq_self (h : ∀ x ∈ xs, x ∈ l.extensions) : adoptAll xs l = l := by
  induction xs with
  | nil => rfl
  | cons x rest ih =>
    obtain ⟨hx, hrest⟩ := List.forall_mem_cons.mp h
    rw [adoptAll_cons, adopt_eq_self hx]
    exact ih hrest

/-- Extensions that are all new and different are added at the end, in order. -/
theorem adoptAll_of_nodup (h : (l.extensions ++ xs).Nodup) :
    adoptAll xs l = { l with extensions := l.extensions ++ xs } := by
  induction xs generalizing l with
  | nil => rw [List.append_nil]; rfl
  | cons x rest ih =>
    have hx : x ∉ l.extensions := fun hmem =>
      List.disjoint_of_nodup_append h hmem (List.mem_cons_self ..)
    have hadopt : adopt x l = { l with extensions := l.extensions ++ [x] } := by
      rw [adopt, if_neg (by simpa using hx)]
    rw [List.append_cons] at h ⊢
    rw [adoptAll_cons, hadopt]
    exact ih h

/-- If no other language has any of the extensions, only the language that claims them changes. -/
theorem Coherent.entries_claims (hc : c.Coherent) (hi : i < c.size)
    (hxs : ∀ x ∈ xs, IsNormalExtension x)
    (hothers : ∀ j m, j ≠ i → c.entries[j]? = some m → ∀ x ∈ xs, x ∉ m.extensions) :
    (xs.foldl (Catalog.claim i) c).entries = c.entries.modify i (adoptAll xs) := by
  refine Array.ext_getElem? fun j => ?_
  rw [hc.changes_claims hi xs j, registered_of_isNormal hxs, Array.getElem?_modify]
  by_cases hj : j = i
  · have hclaimant : handOverAll i xs j = adoptAll xs := funext fun m => if_pos hj
    rw [if_pos hj.symm, hclaimant]
  · rw [if_neg (Ne.symm hj)]
    cases hm : c.entries[j]? with
    | none => rfl
    | some m => rw [Option.map_some, handOverAll, if_neg hj, releaseAll_eq_self (hothers j m hj hm)]

/-! ## Insertions that take from nobody -/

/-- A language that is listed changes nothing when it is inserted. -/
theorem Coherent.entries_upsert_of_mem (hc : c.Coherent) (hl : l ∈ c.entries) :
    (c.upsert l).entries = c.entries := by
  obtain ⟨i, hi⟩ := Array.mem_iff_getElem?.mp hl
  have hplace : c.byId[l.id]? = some i := (hc.byId_iff l.id i).mpr ⟨l, hi, rfl⟩
  have hmodify (f : Language → Language) (hf : f l = l) : c.entries.modify i f = c.entries := by
    refine Array.ext_getElem? fun j => ?_
    rw [Array.getElem?_modify]
    split
    · next h => rw [← h, hi, Option.map_some, hf]
    · rfl
  have hrename : c.rename l.id l.name = (c, i) := by
    rw [Catalog.rename_of_known l.name hplace, hmodify _ rfl]
  rw [Catalog.upsert, hrename, hc.entries_claims (hc.lt_of_byId hplace) (hc.isNormal l hl), hmodify]
  · exact adoptAll_eq_self fun x hx => hx
  · exact fun j m hj hm x hx hmem => hj (hc.place_eq_of_extension hm hi hmem hx)

/-- The languages have neither their identifiers nor any extension in common. -/
structure Apart (l m : Language) : Prop where
  id : l.id ≠ m.id
  extensions : ∀ x ∈ l.extensions, x ∉ m.extensions

/-- No two languages of a coherent catalog share an identifier or an extension. -/
theorem Coherent.pairwise_apart (hc : c.Coherent) : c.entries.toList.Pairwise Apart := by
  rw [List.pairwise_iff_getElem]
  intro i j hi hj hij
  rw [Array.length_toList] at hi hj
  have hl := Array.getElem?_eq_getElem hi
  have hm := Array.getElem?_eq_getElem hj
  refine ⟨fun hid => Nat.ne_of_lt hij (hc.place_eq_of_id hl hm hid), fun x hx hy => ?_⟩
  exact Nat.ne_of_lt hij (hc.place_eq_of_extension hl hm hx hy)

/-- A language that is apart from all that are listed comes after them as it is. -/
theorem Coherent.entries_upsert_of_apart (hc : c.Coherent) (hapart : ∀ m ∈ c.entries, Apart m l)
    (hnodup : l.extensions.Nodup) (hnormal : ∀ x ∈ l.extensions, IsNormalExtension x) :
    (c.upsert l).entries = c.entries.push l := by
  have hnew : c.byId[l.id]? = none := by
    rw [Option.eq_none_iff_forall_ne_some]
    intro i hi
    obtain ⟨m, hm, hid⟩ := (hc.byId_iff l.id i).mp hi
    exact (hapart m (Array.mem_of_getElem? hm)).id hid
  have hadopted : adoptAll l.extensions { id := l.id, name := l.name } = l :=
    adoptAll_of_nodup (l := { id := l.id, name := l.name }) hnodup
  have hrename := hc.rename l.id l.name
  rw [Catalog.rename_of_new l.name hnew] at hrename
  rw [Catalog.upsert, Catalog.rename_of_new l.name hnew]
  rw [hrename.entries_claims (by simp [size]) hnormal]
  · refine Array.ext_getElem? fun j => ?_
    rw [Array.getElem?_modify, Array.getElem?_push, Array.getElem?_push]
    by_cases hj : j = c.entries.size
    · rw [if_pos hj.symm, if_pos hj, if_pos hj, Option.map_some, hadopted]
    · rw [if_neg (Ne.symm hj), if_neg hj, if_neg hj]
  · intro j m hj hm x hx hmem
    rw [Array.getElem?_push, if_neg hj] at hm
    exact (hapart m (Array.mem_of_getElem? hm)).extensions x hmem hx

/-- Languages that are apart from one another come one after the other as they are. -/
theorem Coherent.insertAll_of_apart {ls : List Language} (hc : c.Coherent)
    (hvalid : ∀ l ∈ ls, isLanguageId l.id) (hnodup : ∀ l ∈ ls, l.extensions.Nodup)
    (hnormal : ∀ l ∈ ls, ∀ x ∈ l.extensions, IsNormalExtension x)
    (hapart : (c.entries.toList ++ ls).Pairwise Apart) :
    ∃ c', c.insertAll ls = .ok c' ∧ c'.Coherent ∧ c'.entries.toList = c.entries.toList ++ ls := by
  induction ls generalizing c with
  | nil => exact ⟨c, rfl, hc, (List.append_nil _).symm⟩
  | cons l rest ih =>
    obtain ⟨hl, hvalid⟩ := List.forall_mem_cons.mp hvalid
    obtain ⟨hnodupl, hnodup⟩ := List.forall_mem_cons.mp hnodup
    obtain ⟨hnormall, hnormal⟩ := List.forall_mem_cons.mp hnormal
    have hahead : ∀ m ∈ c.entries, Apart m l := fun m hm =>
      (List.pairwise_append.mp hapart).2.2 m hm.val l (List.mem_cons_self ..)
    have hupsert : (c.upsert l).entries.toList = c.entries.toList ++ [l] := by
      rw [hc.entries_upsert_of_apart hahead hnodupl hnormall, Array.toList_push]
    rw [List.append_cons, ← hupsert] at hapart ⊢
    obtain ⟨c', hinsert, hrest⟩ := ih (hc.upsert l) hvalid hnodup hnormal hapart
    refine ⟨c', ?_, hrest⟩
    rw [insertAll, insert_of_valid c hl]
    exact hinsert

/-! ## Reachable catalogs -/

/-- A reachable catalog shows some history. -/
theorem Reachable.exists_reflects (hc : c.Reachable) :
    ∃ history, History.Reflects (History.accepted history) (History.claims history) c := by
  induction hc with
  | empty => exact ⟨[], History.reflects_empty⟩
  | builtin => exact ⟨_, builtin_eq_replay ▸ History.reflects_replay builtinLanguages⟩
  | attempt l _ ih =>
    obtain ⟨history, h⟩ := ih
    exact ⟨_, h.attempt l⟩

theorem Reachable.isLanguageId_of_mem (hc : c.Reachable) (hl : l ∈ c.entries) :
    isLanguageId l.id := by
  obtain ⟨history, h⟩ := hc.exists_reflects
  exact h.isLanguageId_of_mem hl

/-- **A catalog is rebuilt from its list.** Whatever insertions made a catalog, its languages can be
inserted in order into the empty one, each of them is accepted, and the result has the same list and
says the same of every file name and of every identifier. Inserting one of its languages into the
catalog itself is accepted too, and changes neither the list nor what an index says. -/
theorem Reachable.rebuilt_from_entries (hc : c.Reachable) :
    (∃ c', Catalog.empty.insertAll c.entries.toList = .ok c' ∧ c'.entries = c.entries ∧
      (∀ fileName, c'.resolve fileName = c.resolve fileName) ∧
      ∀ id, c'.displayName id = c.displayName id) ∧
    ∀ l ∈ c.entries, ∃ c', c.insert l = .ok c' ∧ c'.Same c ∧
      (∀ fileName, c'.resolve fileName = c.resolve fileName) ∧
      ∀ id, c'.displayName id = c.displayName id := by
  have hco := hc.coherent
  constructor
  · obtain ⟨c', hinsert, hco', hlist⟩ := coherent_empty.insertAll_of_apart
      (fun l hl => hc.isLanguageId_of_mem (Array.mem_toList_iff.mp hl))
      (fun l hl => hco.nodup_extensions l (Array.mem_toList_iff.mp hl))
      (fun l hl => hco.isNormal l (Array.mem_toList_iff.mp hl)) hco.pairwise_apart
    have hsame := hco'.same hco (Array.toList_inj.mp hlist)
    exact ⟨c', hinsert, hsame.entries, hsame.resolve_eq, hsame.displayName_eq⟩
  · intro l hl
    have hsame := (hco.upsert l).same hco (hco.entries_upsert_of_mem hl)
    exact ⟨_, insert_of_valid c (hc.isLanguageId_of_mem hl), hsame, hsame.resolve_eq,
      hsame.displayName_eq⟩

/-- The catalog in which `cpp` has taken `c` from its language, which has taken it back and so lists
it after `h`. -/
theorem rebuilt_after_return :
    let c := builtin.replay [⟨"cpp", "C++", ["c"]⟩, ⟨"c", "C", [".C", "i"]⟩]
    c.Reachable ∧
    (∃ c', Catalog.empty.insertAll c.entries.toList = .ok c' ∧ c'.entries = c.entries) ∧
    ∃ l ∈ c.entries, l.id = "c" ∧ ∃ c', c.insert l = .ok c' ∧ c'.Same c := by
  intro c
  have hc : c.Reachable := Reachable.builtin.replay _
  obtain ⟨⟨c', hinsert, hentries, -⟩, hagain⟩ := hc.rebuilt_from_entries
  obtain ⟨l, hl, hid⟩ : ∃ l ∈ c.entries, l.id = "c" :=
    (History.reflects_builtin _).exists_id_iff.mpr (by decide)
  obtain ⟨c'', hinsert', hsame, -⟩ := hagain l hl
  exact ⟨hc, ⟨c', hinsert, hentries⟩, l, hl, hid, c'', hinsert', hsame⟩

end Polyglot.Catalog
