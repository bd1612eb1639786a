import Polyglot.Proofs.Catalog.Rebuilding

/-!
# Insertions that do not meddle with each other

What a catalog holds for an identifier is `language?`, and a coherent catalog is nothing more than
that and the order of its identifiers (`Coherent.toList_entries`). In these terms an insertion does
one thing to the language with its identifier and another one to all others: the one adopts what is
claimed, and the others release it (`Coherent.language?_upsert`).

Adopting and releasing commute unless they are about the same extension. So two insertions commute
for every identifier if they claim nothing in common, and all that is left of their order is which
of two new languages comes in first (`Reachable.insertions_commute`).
-/

namespace Polyglot

namespace Catalog

variable {c c' : Catalog} {i j : Nat} {a b l m : Language} {x id : String} {xs ys : List String}

/-! ## Many extensions at once -/

/-- Two lists of extensions may be given up in either order. -/
theorem releaseAll_comm : releaseAll xs (releaseAll ys l) = releaseAll ys (releaseAll xs l) := by
  simp only [releaseAll, List.filter_filter, Bool.and_comm]

/-- An extension may be taken up before others are given up, or after. -/
theorem releaseAll_adopt (h : x ∉ ys) :
    releaseAll ys (adopt x l) = adopt x (releaseAll ys l) := by
  by_cases hx : x ∈ l.extensions
  · have hkept : x ∈ (releaseAll ys l).extensions := List.mem_filter.mpr ⟨hx, by simpa using h⟩
    rw [adopt_eq_self hx, adopt_eq_self hkept]
  · have hnot : x ∉ (releaseAll ys l).extensions := fun hmem => hx (List.mem_filter.mp hmem).1
    rw [adopt, adopt, if_neg (by simpa using hx), if_neg (by simpa using hnot)]
    simp [releaseAll, List.filter_append, h]

/-- What is adopted and what is released do not meet. -/
theorem releaseAll_adoptAll (h : ∀ x ∈ xs, x ∉ ys) :
    releaseAll ys (adoptAll xs l) = adoptAll xs (releaseAll ys l) := by
  induction xs generalizing l with
  | nil => rfl
  | cons x rest ih =>
    obtain ⟨hx, hrest⟩ := List.forall_mem_cons.mp h
    rw [adoptAll_cons, adoptAll_cons, ih hrest, releaseAll_adopt hx]

/-! ## The catalog by identifier -/

/-- What the catalog holds for an identifier. -/
def language? (c : Catalog) (id : String) : Option Language := c.entries.find? (·.id = id)

namespace Coherent

/-- The index by identifier leads to the same language as a search. -/
theorem language?_eq_bind (hc : c.Coherent) (id : String) :
    c.language? id = c.byId[id]?.bind (c.entries[·]?) := by
  cases hfound : c.language? id with
  | none =>
    have hnone := Array.find?_eq_none.mp hfound
    symm
    rw [Option.bind_eq_none_iff]
    intro i hi
    obtain ⟨l, hl, hid⟩ := (hc.byId_iff id i).mp hi
    exact absurd (decide_eq_true hid) (hnone l (Array.mem_of_getElem? hl))
  | some l =>
    have hid : l.id = id := by simpa using Array.find?_some hfound
    obtain ⟨i, hi⟩ := Array.mem_iff_getElem?.mp (Array.mem_of_find?_eq_some hfound)
    rw [(hc.byId_iff id i).mpr ⟨l, hi, hid⟩, Option.bind_some, hi]

/-- The index finds the language with an identifier. -/
theorem language?_eq_some_iff (hc : c.Coherent) :
    c.language? id = some l ↔ l ∈ c.entries ∧ l.id = id := by
  simp only [hc.language?_eq_bind, Option.bind_eq_some_iff, hc.byId_iff]
  constructor
  · rintro ⟨i, ⟨m, hm, rfl⟩, hl⟩
    obtain rfl := Option.some.inj (hm.symm.trans hl)
    exact ⟨Array.mem_of_getElem? hm, rfl⟩
  · rintro ⟨hl, rfl⟩
    obtain ⟨i, hi⟩ := Array.mem_iff_getElem?.mp hl
    exact ⟨i, ⟨l, hi, rfl⟩, hi⟩

theorem language?_eq_none_iff (hc : c.Coherent) : c.language? id = none ↔ c.byId[id]? = none := by
  rw [hc.language?_eq_bind]
  cases hplace : c.byId[id]? with
  | none => simp
  | some i =>
    obtain ⟨l, hl, -⟩ := (hc.byId_iff id i).mp hplace
    simp [hl]

/-- The name shown for an identifier is that of the language with it. -/
theorem displayName_eq_map (hc : c.Coherent) (id : String) :
    c.displayName id = (c.language? id).map (·.name) := by
  rw [displayName, hc.language?_eq_bind, Option.map_bind]
  rfl

/-- Catalogs that hold the same for every identifier resolve every file name alike. -/
theorem resolve_eq_of_language? (hc : c.Coherent) (hc' : c'.Coherent)
    (h : ∀ id, c.language? id = c'.language? id) (fileName : String) :
    c.resolve fileName = c'.resolve fileName := by
  have hmem (id : String) (x : String) : (∃ l ∈ c.entries, x ∈ l.extensions ∧ l.id = id) ↔
      ∃ l ∈ c'.entries, x ∈ l.extensions ∧ l.id = id := by
    simp only [and_left_comm, ← hc.language?_eq_some_iff, ← hc'.language?_eq_some_iff, h]
  refine Option.ext fun id => ?_
  rw [hc.resolve_eq_some_iff, hc'.resolve_eq_some_iff, hmem]

/-- A coherent catalog is the order of its identifiers and what it holds for each. -/
theorem toList_entries (hc : c.Coherent) : c.entries.toList =
    (c.entries.toList.map (·.id)).map fun id => (c.language? id).getD default := by
  rw [List.map_map]
  refine (List.map_id _).symm.trans (List.map_congr_left fun l hl => ?_)
  have hown := hc.language?_eq_some_iff.mpr ⟨Array.mem_toList_iff.mp hl, rfl⟩
  simp [hown]

/-- What becomes of the language with an identifier when the one at a place changes in one way and
all others change in another. -/
theorem language?_changes (f f' : Language → Language) (hc : c.Coherent) (hc' : c'.Coherent)
    (hl : c.entries[i]? = some l) (h : Changes (fun j m => if j = i then f m else f' m) c c')
    (hf : ∀ m, (f m).id = m.id) (hf' : ∀ m, (f' m).id = m.id) (id : String) :
    c'.language? id = if id = l.id then (c.language? id).map f else (c.language? id).map f' := by
  -- the language stands at the place exactly if it has the identifier of `l`
  have hat {j : Nat} {m : Language} (hm : c.entries[j]? = some m) : j = i ↔ m.id = l.id := by
    refine ⟨?_, hc.place_eq_of_id hm hl⟩
    rintro rfl
    rw [Option.some.inj (hm.symm.trans hl)]
  rw [← apply_ite (fun f => (c.language? id).map f)]
  refine Option.ext fun m' => ?_
  rw [hc'.language?_eq_some_iff, h.mem_iff, Option.map_eq_some_iff]
  constructor
  · rintro ⟨⟨j, m, hm, rfl⟩, rfl⟩
    refine ⟨m, hc.language?_eq_some_iff.mpr ⟨Array.mem_of_getElem? hm, ?_⟩, ?_⟩
    · split <;> simp [hf, hf']
    · by_cases hj : j = i
      · rw [if_pos hj, hf, if_pos ((hat hm).mp hj)]
      · rw [if_neg hj, hf', if_neg (mt (hat hm).mpr hj)]
  · rintro ⟨m, hm, rfl⟩
    obtain ⟨hmem, rfl⟩ := hc.language?_eq_some_iff.mp hm
    obtain ⟨j, hj⟩ := Array.mem_iff_getElem?.mp hmem
    refine ⟨⟨j, m, hj, ?_⟩, ?_⟩
    · simp only [hat hj]
      split <;> rfl
    · split <;> simp [hf, hf']

end Coherent

/-! ## What an insertion does -/

/-- A language with its new name and what it has had before. -/
def renewed (l : Language) (before : Option Language) : Language :=
  { id := l.id, name := l.name, extensions := (before.map (·.extensions)).getD [] }

theorem releaseAll_renewed {before : Option Language} :
    releaseAll ys (renewed l before) = renewed l (before.map (releaseAll ys)) := by
  cases before <;> rfl

namespace Coherent

/-- Naming a language shows at its own identifier only. -/
theorem language?_rename (hc : c.Coherent) (l : Language) (id : String) :
    (c.rename l.id l.name).1.language? id =
      if id = l.id then some (renewed l (c.language? l.id)) else c.language? id := by
  have hrename := hc.rename l.id l.name
  cases hplace : c.byId[l.id]? with
  | some i =>
    obtain ⟨m, hm, hid⟩ := (hc.byId_iff l.id i).mp hplace
    have hold := hc.language?_eq_some_iff.mpr ⟨Array.mem_of_getElem? hm, hid⟩
    rw [hc.language?_changes (fun m => { m with name := l.name }) (fun m => m) hrename hm
      (changes_rename l.name hplace) (fun _ => rfl) (fun _ => rfl), hid]
    split
    · next h => simp [h, hold, renewed, hid]
    · exact Option.map_id'
  | none =>
    have hnone := hc.language?_eq_none_iff.mpr hplace
    rw [hrename.language?_eq_bind, hnone, Catalog.rename_of_new l.name hplace,
      Std.HashMap.getElem?_insert]
    by_cases h : id = l.id
    · rw [if_pos (by simpa using h.symm), if_pos h, Option.bind_some, Array.getElem?_push_size]
      rfl
    · rw [if_neg (by simpa using Ne.symm h), if_neg h, hc.language?_eq_bind]
      refine Option.bind_congr fun i hi => ?_
      have hlt : i < c.entries.size := hc.lt_of_byId hi
      rw [Array.getElem?_push, if_neg (Nat.ne_of_lt hlt)]

/-- An insertion renews its own language, which then adopts what is claimed, and every other one
releases it. -/
theorem language?_upsert (hc : c.Coherent) (l : Language) (id : String) :
    (c.upsert l).language? id =
      if id = l.id then some (adoptAll (registered l.extensions) (renewed l (c.language? l.id)))
      else (c.language? id).map (releaseAll (registered l.extensions)) := by
  have hrename := hc.rename l.id l.name
  obtain ⟨m, hm, hid⟩ := hc.getElem?_rename_place l.id l.name
  have hchg := hrename.changes_claims (hc.place_lt l.id l.name) l.extensions
  rw [hrename.language?_changes (adoptAll _) (releaseAll _) (hc.upsert l) hm hchg
    (fun _ => adoptAll_id) (fun _ => rfl), hid, hc.language?_rename]
  split <;> rfl

/-- A new language comes in behind all others; a known one stays where it is. -/
theorem ids_upsert (hc : c.Coherent) (l : Language) :
    (c.upsert l).entries.toList.map (·.id) =
      if c.language? l.id = none then c.entries.toList.map (·.id) ++ [l.id]
      else c.entries.toList.map (·.id) := by
  have hchg := (hc.rename l.id l.name).changes_claims (hc.place_lt l.id l.name) l.extensions
  have hkept : (c.upsert l).entries.toList.map (·.id) =
      (c.rename l.id l.name).1.entries.toList.map (·.id) := hchg.ids_eq fun _ _ => handOverAll_id
  rw [hkept]
  cases hplace : c.byId[l.id]? with
  | some i =>
    have hknown : c.language? l.id ≠ none := by simp [hc.language?_eq_none_iff, hplace]
    rw [if_neg hknown, (changes_rename l.name hplace).ids_eq fun _ _ => relabel_id]
  | none =>
    rw [if_pos (hc.language?_eq_none_iff.mpr hplace), Catalog.rename_of_new l.name hplace,
      Array.toList_push, List.map_append, List.map_singleton]

end Coherent

/-! ## Two insertions -/

/-- The languages have different identifiers and claim no extension in common. -/
structure Independent (a b : Language) : Prop where
  id : a.id ≠ b.id
  extensions : ∀ x ∈ registered a.extensions, x ∉ registered b.extensions

namespace Independent

theorem symm (h : Independent a b) : Independent b a where
  id := h.id.symm
  extensions x hx hx' := h.extensions x hx' hx

/-- The first of two languages holds the same whether it is inserted first or second. -/
theorem language?_upsert_fst (h : Independent a b) (hc : c.Coherent) :
    ((c.upsert a).upsert b).language? a.id = ((c.upsert b).upsert a).language? a.id := by
  rw [(hc.upsert a).language?_upsert, if_neg h.id, hc.language?_upsert a, if_pos rfl,
    (hc.upsert b).language?_upsert, if_pos rfl, hc.language?_upsert b, if_neg h.id, Option.map_some,
    releaseAll_adoptAll h.extensions, releaseAll_renewed]

/-- Two independent insertions give every language the same name and extensions in either order. -/
theorem language?_upsert_comm (h : Independent a b) (hc : c.Coherent) (id : String) :
    ((c.upsert a).upsert b).language? id = ((c.upsert b).upsert a).language? id := by
  by_cases ha : id = a.id
  · exact ha ▸ h.language?_upsert_fst hc
  by_cases hb : id = b.id
  · exact hb ▸ (h.symm.language?_upsert_fst hc).symm
  -- a third language only loses extensions, to the one or to the other
  rw [(hc.upsert a).language?_upsert, if_neg hb, hc.language?_upsert a, if_neg ha,
    (hc.upsert b).language?_upsert, if_neg ha, hc.language?_upsert b, if_neg hb, Option.map_map,
    Option.map_map]
  exact congrArg (Option.map · _) (funext fun l => releaseAll_comm)

/-- The second of two insertions brings in the languages that it brings in as the first. -/
theorem language?_upsert_eq_none_iff (h : Independent a b) (hc : c.Coherent) :
    (c.upsert a).language? b.id = none ↔ c.language? b.id = none := by
  rw [hc.language?_upsert, if_neg h.id.symm, Option.map_eq_none_iff]

/-- Two insertions add those of the two identifiers that are new, in order. -/
theorem ids_upsert_upsert (h : Independent a b) (hc : c.Coherent) :
    ((c.upsert a).upsert b).entries.toList.map (·.id) = c.entries.toList.map (·.id) ++
      (if c.language? a.id = none then [a.id] else []) ++
        if c.language? b.id = none then [b.id] else [] := by
  rw [(hc.upsert a).ids_upsert, hc.ids_upsert]
  simp only [h.language?_upsert_eq_none_iff hc]
  split <;> split <;> simp

/-- Unless both languages are new, there is nothing to say about which of them came first. -/
theorem ids_upsert_comm (h : Independent a b) (hc : c.Coherent)
    (hknown : ¬(c.language? a.id = none ∧ c.language? b.id = none)) :
    ((c.upsert a).upsert b).entries.toList.map (·.id) =
      ((c.upsert b).upsert a).entries.toList.map (·.id) := by
  rw [h.ids_upsert_upsert hc, h.symm.ids_upsert_upsert hc]
  by_cases ha : c.language? a.id = none
  · rw [if_neg fun hb => hknown ⟨ha, hb⟩, List.append_nil, List.append_nil]
  · rw [if_neg ha, List.append_nil, List.append_nil]

/-- Two new languages come in behind all others, and each one is the same first or second. -/
theorem toList_upsert_upsert (h : Independent a b) (hc : c.Coherent)
    (ha : c.language? a.id = none) (hb : c.language? b.id = none) :
    ∃ before la lb, la.id = a.id ∧ lb.id = b.id ∧
      before.map (·.id) = c.entries.toList.map (·.id) ∧
      ((c.upsert a).upsert b).entries.toList = before ++ [la, lb] ∧
      ((c.upsert b).upsert a).entries.toList = before ++ [lb, la] := by
  have hids := h.ids_upsert_upsert hc
  have hlist := ((hc.upsert a).upsert b).toList_entries
  have hlist' := ((hc.upsert b).upsert a).toList_entries
  simp only [h.symm.ids_upsert_upsert hc, ← h.language?_upsert_comm hc] at hlist'
  simp only [if_pos ha, if_pos hb, List.append_assoc, List.singleton_append] at hids hlist'
  rw [hids, List.map_append] at hlist
  rw [List.map_append] at hlist'
  -- who stands where can be read off the identifiers again
  obtain ⟨before, la, lb, hlength, hab, hba⟩ : ∃ before la lb,
      before.length = (c.entries.toList.map (·.id)).length ∧
      ((c.upsert a).upsert b).entries.toList = before ++ [la, lb] ∧
      ((c.upsert b).upsert a).entries.toList = before ++ [lb, la] :=
    ⟨_, _, _, List.length_map _, hlist, hlist'⟩
  rw [hab, List.map_append] at hids
  obtain ⟨hbefore, hnew⟩ := List.append_inj hids (by rw [List.length_map, hlength])
  obtain ⟨hla, hlb⟩ : la.id = a.id ∧ lb.id = b.id := by simpa using hnew
  exact ⟨before, la, lb, hla, hlb, hbefore, hab, hba⟩

end Independent

theorem insertAll_pair (c : Catalog) (ha : isLanguageId a.id) (hb : isLanguageId b.id) :
    c.insertAll [a, b] = .ok ((c.upsert a).upsert b) := by
  rw [insertAll, insert_of_valid c ha]
  change Catalog.insertAll (c.upsert a) [b] = _
  rw [insertAll, insert_of_valid _ hb]
  rfl

/-- **Insertions that do not meddle with each other commute.** Of two languages with different valid
identifiers and without a common extension, each may be inserted first: both orders are accepted,
and the results agree on every name for display, on every file name and on the language of every
identifier with its list of extensions. The lists of languages are even equal, unless both languages
are new; then they come last, in the order of their insertions. -/
theorem Reachable.insertions_commute (hc : c.Reachable) (ha : isLanguageId a.id)
    (hb : isLanguageId b.id) (hid : a.id ≠ b.id)
    (hext : ∀ x ∈ a.extensions, ∀ y ∈ b.extensions,
      normalizeExtension x = normalizeExtension y → normalizeExtension x = "") :
    ∃ ab ba, c.insertAll [a, b] = .ok ab ∧ c.insertAll [b, a] = .ok ba ∧
      (∀ id, ab.displayName id = ba.displayName id) ∧
      (∀ fileName, ab.resolve fileName = ba.resolve fileName) ∧
      (∀ id, (ab.language? id).map (·.extensions) = (ba.language? id).map (·.extensions)) ∧
      (c.language? a.id = none ∧ c.language? b.id = none →
        ∃ before la lb, la.id = a.id ∧ lb.id = b.id ∧
          before.map (·.id) = c.entries.toList.map (·.id) ∧
          ab.entries.toList = before ++ [la, lb] ∧ ba.entries.toList = before ++ [lb, la]) ∧
      (¬(c.language? a.id = none ∧ c.language? b.id = none) →
        ab.entries = ba.entries) := by
  have hco := hc.coherent
  have hind : Independent a b := by
    refine ⟨hid, fun x hx hy => ?_⟩
    obtain ⟨hne, y, hya, rfl⟩ := mem_registered.mp hx
    obtain ⟨-, z, hzb, hz⟩ := mem_registered.mp hy
    exact hne (hext y hya z hzb hz.symm)
  have hab := (hco.upsert a).upsert b
  have hba := (hco.upsert b).upsert a
  have hsame := hind.language?_upsert_comm hco
  refine ⟨_, _, insertAll_pair c ha hb, insertAll_pair c hb ha, fun id => ?_,
    hab.resolve_eq_of_language? hba hsame, fun id => by rw [hsame], ?_, fun hknown => ?_⟩
  · rw [hab.displayName_eq_map, hba.displayName_eq_map, hsame]
  · rintro ⟨hnewa, hnewb⟩
    exact hind.toList_upsert_upsert hco hnewa hnewb
  · rw [← Array.toList_inj, hab.toList_entries, hba.toList_entries, hind.ids_upsert_comm hco hknown]
    exact List.map_congr_left fun id _ => by rw [hsame]

/-- A language that takes `h` from C. -/
def zig : Language := ⟨"zig", "Zig", ["zig", ".H"]⟩

/-- A language that takes `py` from Python, with one extension of which nothing is left. -/
def nim : Language := ⟨"nim", "Nim", ["NIM", "py", "."]⟩

/-- Both languages are new to the built-in catalog, so they come last in either order. -/
theorem insertions_commute_builtin :
    isLanguageId zig.id ∧ isLanguageId nim.id ∧ zig.id ≠ nim.id ∧
      (∀ x ∈ zig.extensions, ∀ y ∈ nim.extensions,
        normalizeExtension x = normalizeExtension y → normalizeExtension x = "") ∧
      ∃ ab ba, builtin.insertAll [zig, nim] = .ok ab ∧ builtin.insertAll [nim, zig] = .ok ba ∧
        (∀ fileName, ab.resolve fileName = ba.resolve fileName) ∧
        ∃ before la lb, la.id = zig.id ∧ lb.id = nim.id ∧
          ab.entries.toList = before ++ [la, lb] ∧ ba.entries.toList = before ++ [lb, la] := by
  have hzig : isLanguageId zig.id := by decide
  have hnim : isLanguageId nim.id := by decide
  have hid : zig.id ≠ nim.id := by decide
  have hext : ∀ x ∈ zig.extensions, ∀ y ∈ nim.extensions,
      normalizeExtension x = normalizeExtension y → normalizeExtension x = "" := by decide +kernel
  have hnew {id : String} (h : ∀ l ∈ History.accepted builtinLanguages, l.id ≠ id) :
      builtin.language? id = none := by
    rw [builtin_eq_replay]
    have hreflects := History.reflects_replay builtinLanguages
    refine Option.eq_none_iff_forall_ne_some.mpr fun l hl => ?_
    have hmem := hreflects.coherent.language?_eq_some_iff.mp hl
    obtain ⟨m, hm, hmid⟩ := hreflects.exists_id_iff.mp ⟨l, hmem⟩
    exact h m hm hmid
  obtain ⟨ab, ba, hab, hba, -, hresolve, -, hswap, -⟩ :=
    Reachable.builtin.insertions_commute hzig hnim hid hext
  obtain ⟨before, la, lb, hla, hlb, -, hlist, hlist'⟩ :=
    hswap ⟨hnew (by decide), hnew (by decide)⟩
  exact ⟨hzig, hnim, hid, hext, ab, ba, hab, hba, hresolve, before, la, lb, hla, hlb, hlist, hlist'⟩

end Catalog

end Polyglot
