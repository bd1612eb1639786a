import Mathlib.Data.List.Induction
import Polyglot.Proofs.Catalog.Reachable

/-!
# A catalog is a function of its history

What a catalog holds can be read off the list of insertions that made it, without looking at any
catalog in between. The accepted insertions give the identifiers and the names. Written out as
claims in one row, they also give the extensions: the last claim of an extension decides who owns
it, and an owner has held it since the first claim that nobody else's claim follows.

`Reflects` relates a catalog to the accepted insertions and to the claims so far. It is kept by a
renaming and by a claim, hence by a whole history (`reflects_replay`).
-/

namespace Polyglot

/-! ## Reading a history -/

/-- A language asks for an extension. -/
structure Claim where
  id : String
  extension : String
deriving DecidableEq

/-- The claims of an insertion, in the order of its list. An extension of which nothing is left
without its dots is not claimed. -/
def Language.claims (l : Language) : List Claim :=
  ((l.extensions.map normalizeExtension).filter (· ≠ "")).map fun x => ⟨l.id, x⟩

namespace History

/-- The insertions that are not refused. -/
def accepted (history : List Language) : List Language := history.filter (isLanguageId ·.id)

/-- All claims of a history, in order. -/
def claims (history : List Language) : List Claim := (accepted history).flatMap Language.claims

/-- The name that an identifier was given last. -/
def lastName? (ls : List Language) (id : String) : Option String :=
  (ls.findRev? (·.id = id)).map (·.name)

/-- Who claimed an extension last. -/
def owner? (ks : List Claim) (x : String) : Option String :=
  (ks.findRev? (·.extension = x)).map (·.id)

/-- The number of claims before the one with which the present ownership of an extension began: the
first claim of it after which only the same language claims it. -/
def ownedSince (x : String) : List Claim → Nat
  | [] => 0
  | k :: later =>
    if k.extension = x ∧ ∀ k' ∈ later, k'.extension = x → k'.id = k.id then 0
    else ownedSince x later + 1

variable {ks : List Claim} {k : Claim} {x y id : String}

theorem accepted_append (h₁ h₂ : List Language) :
    accepted (h₁ ++ h₂) = accepted h₁ ++ accepted h₂ :=
  List.filter_append ..

theorem claims_append (h₁ h₂ : List Language) : claims (h₁ ++ h₂) = claims h₁ ++ claims h₂ := by
  rw [claims, accepted_append, List.flatMap_append]
  rfl

/-- The last name given to an identifier is that of the latest language with it. -/
theorem lastName?_append (ls : List Language) (l : Language) (id : String) :
    lastName? (ls ++ [l]) id = if l.id = id then some l.name else lastName? ls id := by
  simp only [lastName?, List.findRev?_eq_find?_reverse, List.reverse_append, List.reverse_singleton,
    List.singleton_append, List.find?_cons]
  by_cases h : l.id = id <;> simp [h]

/-- The latest claim of an extension decides who owns it. -/
theorem owner?_append (ks : List Claim) (k : Claim) (x : String) :
    owner? (ks ++ [k]) x = if k.extension = x then some k.id else owner? ks x := by
  simp only [owner?, List.findRev?_eq_find?_reverse, List.reverse_append, List.reverse_singleton,
    List.singleton_append, List.find?_cons]
  by_cases h : k.extension = x <;> simp [h]

theorem owner?_cons (k : Claim) (ks : List Claim) (x : String) :
    owner? (k :: ks) x = (owner? ks x).or (if k.extension = x then some k.id else none) := by
  simp only [owner?, List.findRev?_eq_find?_reverse, List.reverse_cons, List.find?_append,
    List.find?_singleton, Option.map_or]
  by_cases h : k.extension = x <;> simp [h]

/-- An owner has claimed what it owns. -/
theorem mem_of_owner? (h : owner? ks x = some id) : ⟨id, x⟩ ∈ ks := by
  obtain ⟨k, hk, rfl⟩ := Option.map_eq_some_iff.mp h
  rw [List.findRev?_eq_find?_reverse] at hk
  have hx : k.extension = x := by simpa using List.find?_some hk
  exact hx ▸ List.mem_reverse.mp (List.mem_of_find?_eq_some hk)

/-- An extension that nobody has claimed has no owner, and no other. -/
theorem owner?_eq_none_iff : owner? ks x = none ↔ ∀ k ∈ ks, k.extension ≠ x := by
  simp [owner?, List.findRev?_eq_find?_reverse]

/-- The claimant of a claim after which only it claims the extension is the owner. -/
theorem owner?_of_kept (hx : k.extension = x) (h : ∀ k' ∈ ks, k'.extension = x → k'.id = k.id) :
    owner? (k :: ks) x = some k.id := by
  rw [owner?_cons, if_pos hx]
  cases hown : owner? ks x with
  | none => rfl
  | some id => exact congrArg some (h _ (mem_of_owner? hown) rfl)

/-- After any other claim the extension is claimed once more, and who owns it is seen from there. -/
theorem owner?_of_not_kept (hown : owner? (k :: ks) x = some id)
    (h : ¬(k.extension = x ∧ ∀ k' ∈ ks, k'.extension = x → k'.id = k.id)) :
    owner? ks x = some id := by
  rw [owner?_cons] at hown
  cases hlater : owner? ks x with
  | some id' => rwa [hlater, Option.some_or] at hown
  | none =>
    rw [hlater, Option.none_or, Option.ite_none_right_eq_some] at hown
    exact absurd ⟨hown.1, fun k' hk' hx => absurd hx (owner?_eq_none_iff.mp hlater k' hk')⟩ h

/-- An owner has owned an extension since one of the claims. -/
theorem ownedSince_lt (h : owner? ks x = some id) : ownedSince x ks < ks.length := by
  induction ks with
  | nil => cases h
  | cons k later ih =>
    rw [ownedSince, List.length_cons]
    split
    · omega
    · next hnot =>
      have := ih (owner?_of_not_kept h hnot)
      omega

/-- A claim by the owner itself, or of another extension, leaves the beginning where it was. -/
theorem ownedSince_append_of_kept (hown : owner? ks x = some id)
    (h : k.extension = x → k.id = id) : ownedSince x (ks ++ [k]) = ownedSince x ks := by
  induction ks with
  | nil => cases hown
  | cons k₀ later ih =>
    rw [List.cons_append, ownedSince, ownedSince]
    by_cases hkept : k₀.extension = x ∧ ∀ k' ∈ later, k'.extension = x → k'.id = k₀.id
    · have hid : k₀.id = id :=
        Option.some.inj ((owner?_of_kept hkept.1 hkept.2).symm.trans hown)
      rw [if_pos hkept, if_pos]
      refine ⟨hkept.1, fun k' hk' hx => ?_⟩
      rcases List.mem_append.mp hk' with hk' | hk'
      · exact hkept.2 k' hk' hx
      · obtain rfl := List.mem_singleton.mp hk'
        rw [h hx, hid]
    · rw [if_neg hkept, if_neg, ih (owner?_of_not_kept hown hkept)]
      exact fun hkept' => hkept
        ⟨hkept'.1, fun k' hk' => hkept'.2 k' (List.mem_append_left _ hk')⟩

/-- A claim of what the claimant does not own is the beginning of its ownership. -/
theorem ownedSince_append_of_taken (h : owner? ks k.extension ≠ some k.id) :
    ownedSince k.extension (ks ++ [k]) = ks.length := by
  induction ks with
  | nil => simp [ownedSince]
  | cons k₀ later ih =>
    rw [List.cons_append, ownedSince, if_neg, ih, List.length_cons]
    · intro hlater
      rw [owner?_cons, hlater] at h
      exact h rfl
    · rintro ⟨hx, hall⟩
      have hid : k.id = k₀.id := hall k (List.mem_append_right _ (List.mem_singleton_self k)) rfl
      rw [owner?_of_kept hx fun k' hk' => hall k' (List.mem_append_left _ hk'), hid] at h
      exact h rfl

/-! ## What a catalog shows of a history -/

/-- A new item goes to the end of a list without repetitions, unless it is there already. -/
theorem eraseDups_append_singleton {α : Type} [BEq α] [LawfulBEq α] (as : List α) (a : α) :
    (as ++ [a]).eraseDups = if a ∈ as then as.eraseDups else as.eraseDups ++ [a] := by
  rw [List.eraseDups_append, List.removeAll]
  by_cases h : a ∈ as <;> simp [h, List.eraseDups_cons]

/-- The catalog shows the insertions `ls`, all accepted, and the claims `ks`. -/
structure Reflects (ls : List Language) (ks : List Claim) (c : Catalog) : Prop where
  coherent : c.Coherent
  /-- The identifiers stand in the order in which they came first. -/
  ids : c.entries.toList.map (·.id) = (ls.map (·.id)).eraseDups
  /-- A language has the name that was given to it last. -/
  names : ∀ l ∈ c.entries, lastName? ls l.id = some l.name
  /-- Whoever claims an extension is in the list. -/
  claimants : ∀ k ∈ ks, ∃ l ∈ c.entries, l.id = k.id
  /-- A language lists what it owns. -/
  owners : ∀ l ∈ c.entries, ∀ x, x ∈ l.extensions ↔ owner? ks x = some l.id
  /-- What has been owned for longer is listed first. -/
  sorted : ∀ l ∈ c.entries,
    l.extensions.Pairwise fun x y => ownedSince x ks < ownedSince y ks

theorem reflects_empty : Reflects [] [] .empty := by
  refine ⟨Catalog.coherent_empty, ?_, ?_, ?_, ?_, ?_⟩ <;> simp [Catalog.empty]

namespace Reflects

variable {ls : List Language} {c : Catalog}

/-- The catalog has the identifiers of its history. -/
theorem exists_id_iff (h : Reflects ls ks c) :
    (∃ m ∈ c.entries, m.id = id) ↔ ∃ l ∈ ls, l.id = id := by
  have hids := congrArg (id ∈ ·) h.ids
  simpa [List.mem_eraseDups] using hids

/-- A new name for a known language. -/
theorem rename_of_known (h : Reflects ls ks c) {l : Language} {i : Nat}
    (hi : c.byId[l.id]? = some i) : Reflects (ls ++ [l]) ks (c.rename l.id l.name).1 := by
  have hchg := Catalog.changes_rename l.name hi
  obtain ⟨l₀, hl₀, hid₀⟩ := (h.coherent.byId_iff l.id i).mp hi
  refine ⟨h.coherent.rename l.id l.name, ?_, fun m' hm' => ?_, fun k hk => ?_, fun m' hm' x => ?_,
    fun m' hm' => ?_⟩
  · have hknown : l.id ∈ ls.map (·.id) := by
      obtain ⟨m, hm, hid⟩ := h.exists_id_iff.mp ⟨l₀, Array.mem_of_getElem? hl₀, hid₀⟩
      exact List.mem_map.mpr ⟨m, hm, hid⟩
    rw [hchg.ids_eq fun _ _ => Catalog.relabel_id, h.ids, List.map_append, List.map_singleton,
      eraseDups_append_singleton, if_pos hknown]
  · obtain ⟨j, m, hm, rfl⟩ := hchg.mem_iff.mp hm'
    rw [lastName?_append, Catalog.relabel_id, Catalog.relabel]
    by_cases hj : j = i
    · subst hj
      obtain rfl : l₀ = m := Option.some.inj (hl₀.symm.trans hm)
      rw [if_pos rfl, if_pos hid₀.symm]
    · have hid : l.id ≠ m.id := fun e =>
        hj (h.coherent.place_eq_of_id hm hl₀ (e.symm.trans hid₀.symm))
      rw [if_neg hj, if_neg hid, h.names m (Array.mem_of_getElem? hm)]
  · exact hchg.exists_mem_id (fun _ _ => Catalog.relabel_id) (h.claimants k hk)
  · obtain ⟨j, m, hm, rfl⟩ := hchg.mem_iff.mp hm'
    rw [Catalog.relabel_extensions, Catalog.relabel_id, h.owners m (Array.mem_of_getElem? hm)]
  · obtain ⟨j, m, hm, rfl⟩ := hchg.mem_iff.mp hm'
    exact Catalog.relabel_extensions.symm ▸ h.sorted m (Array.mem_of_getElem? hm)

/-- A language that comes in has claimed nothing yet. -/
theorem rename_of_new (h : Reflects ls ks c) {l : Language} (hi : c.byId[l.id]? = none) :
    Reflects (ls ++ [l]) ks (c.rename l.id l.name).1 := by
  have hnew : ∀ m ∈ c.entries, m.id ≠ l.id := by
    intro m hm hid
    obtain ⟨j, hj⟩ := Array.mem_iff_getElem?.mp hm
    have := (h.coherent.byId_iff l.id j).mpr ⟨m, hj, hid⟩
    rw [hi] at this
    cases this
  have hc := h.coherent.rename l.id l.name
  rw [Catalog.rename_of_new l.name hi] at hc ⊢
  refine ⟨hc, ?_, fun m hm => ?_, fun k hk => ?_, fun m hm x => ?_, fun m hm => ?_⟩
  · have hfresh : l.id ∉ ls.map (·.id) := by
      intro hid
      obtain ⟨m, hm, hid⟩ := h.exists_id_iff.mpr (List.mem_map.mp hid)
      exact hnew m hm hid
    rw [Array.toList_push, List.map_append, List.map_singleton, h.ids, List.map_append,
      List.map_singleton, eraseDups_append_singleton, if_neg hfresh]
  · rw [lastName?_append]
    rcases Array.mem_push.mp hm with hm | rfl
    · rw [if_neg (Ne.symm (hnew m hm)), h.names m hm]
    · rw [if_pos rfl]
  · obtain ⟨m, hm, hid⟩ := h.claimants k hk
    exact ⟨m, Array.mem_push_of_mem _ hm, hid⟩
  · rcases Array.mem_push.mp hm with hm | rfl
    · exact h.owners m hm x
    · refine ⟨fun hx => absurd hx List.not_mem_nil, fun hx => ?_⟩
      obtain ⟨m, hm, hid⟩ := h.claimants _ (mem_of_owner? hx)
      exact absurd hid (hnew m hm)
  · rcases Array.mem_push.mp hm with hm | rfl
    · exact h.sorted m hm
    · exact List.Pairwise.nil

/-- Naming a language adds its name to what the catalog reflects. -/
theorem rename (h : Reflects ls ks c) (l : Language) :
    Reflects (ls ++ [l]) ks (c.rename l.id l.name).1 := by
  cases hi : c.byId[l.id]? with
  | some i => exact h.rename_of_known hi
  | none => exact h.rename_of_new hi

/-- The claimant lists the extension last, unless it had it, and then at its old place; everybody
else is left with what it had. -/
theorem sorted_handOver (h : Reflects ls ks c) {i j : Nat} {l m : Language}
    (hl : c.entries[i]? = some l) (hm : c.entries[j]? = some m) (x : String) :
    (Catalog.handOver i x j m).extensions.Pairwise fun y z =>
      ownedSince y (ks ++ [⟨l.id, x⟩]) < ownedSince z (ks ++ [⟨l.id, x⟩]) := by
  have hmem := Array.mem_of_getElem? hm
  -- what `m` keeps it has owned without a break, so its beginnings stay where they were
  have hkept {y : String} (hy : y ∈ m.extensions) (hxy : x = y → l.id = m.id) :
      ownedSince y (ks ++ [⟨l.id, x⟩]) = ownedSince y ks :=
    ownedSince_append_of_kept ((h.owners m hmem y).mp hy) hxy
  rw [Catalog.handOver]
  by_cases hj : j = i
  · subst hj
    obtain rfl : l = m := Option.some.inj (hl.symm.trans hm)
    have hold : l.extensions.Pairwise fun y z =>
        ownedSince y (ks ++ [⟨l.id, x⟩]) < ownedSince z (ks ++ [⟨l.id, x⟩]) := by
      refine (h.sorted l hmem).imp_of_mem fun hy hz hlt => ?_
      rwa [hkept hy fun _ => rfl, hkept hz fun _ => rfl]
    rw [if_pos rfl]
    by_cases hx : x ∈ l.extensions
    · rwa [Catalog.adopt_eq_self hx]
    · rw [Catalog.extensions_adopt hx]
      refine List.pairwise_append.mpr ⟨hold, List.pairwise_singleton _ _, fun y hy z hz => ?_⟩
      obtain rfl := List.mem_singleton.mp hz
      have htaken : ownedSince z (ks ++ [⟨l.id, z⟩]) = ks.length :=
        ownedSince_append_of_taken (k := ⟨l.id, z⟩) (mt (h.owners l hmem z).mpr hx)
      rw [hkept hy fun _ => rfl, htaken]
      exact ownedSince_lt ((h.owners l hmem y).mp hy)
  · rw [if_neg hj]
    refine ((h.sorted m hmem).filter _).imp_of_mem fun hy hz hlt => ?_
    obtain ⟨hy, hxy⟩ := Catalog.mem_extensions_release.mp hy
    obtain ⟨hz, hxz⟩ := Catalog.mem_extensions_release.mp hz
    rwa [hkept hy fun e => absurd e.symm hxy, hkept hz fun e => absurd e.symm hxz]

/-- A claim is added to the claims that the catalog reflects. -/
theorem claim (h : Reflects ls ks c) {i : Nat} {l : Language} (hl : c.entries[i]? = some l)
    {ext : String} (hx : normalizeExtension ext ≠ "") :
    Reflects ls (ks ++ [⟨l.id, normalizeExtension ext⟩]) (Catalog.claim i c ext) := by
  have hi : i < c.size := (Array.getElem?_eq_some_iff.mp hl).1
  have hchg := h.coherent.changes_claim hx i
  refine ⟨h.coherent.claim hi ext, ?_, fun m' hm' => ?_, fun k hk => ?_, fun m' hm' y => ?_,
    fun m' hm' => ?_⟩
  · rw [hchg.ids_eq fun _ _ => Catalog.handOver_id, h.ids]
  · obtain ⟨j, m, hm, rfl⟩ := hchg.mem_iff.mp hm'
    rw [Catalog.handOver_id, Catalog.handOver_name, h.names m (Array.mem_of_getElem? hm)]
  · refine hchg.exists_mem_id (fun _ _ => Catalog.handOver_id) ?_
    rcases List.mem_append.mp hk with hk | hk
    · exact h.claimants k hk
    · exact ⟨l, Array.mem_of_getElem? hl, by rw [List.mem_singleton.mp hk]⟩
  · obtain ⟨j, m, hm, rfl⟩ := hchg.mem_iff.mp hm'
    rw [owner?_append, Catalog.handOver_id]
    by_cases hxy : normalizeExtension ext = y
    · subst hxy
      rw [Catalog.mem_extensions_handOver_self, if_pos rfl, Option.some.injEq]
      constructor
      · rintro rfl
        exact congrArg Language.id (Option.some.inj (hl.symm.trans hm))
      · exact fun hid => h.coherent.place_eq_of_id hm hl hid.symm
    · rw [Catalog.mem_extensions_handOver_of_ne (Ne.symm hxy), if_neg hxy,
        h.owners m (Array.mem_of_getElem? hm)]
  · obtain ⟨j, m, hm, rfl⟩ := hchg.mem_iff.mp hm'
    exact h.sorted_handOver hl hm _

/-- The claims of one insertion, whatever they are. -/
theorem claims (h : Reflects ls ks c) {i : Nat}
    (hl : ∃ l, c.entries[i]? = some l ∧ l.id = id) (exts : List String) :
    Reflects ls
      (ks ++ ((exts.map normalizeExtension).filter (· ≠ "")).map fun x => ⟨id, x⟩)
      (exts.foldl (Catalog.claim i) c) := by
  induction exts generalizing ks c with
  | nil => simpa using h
  | cons ext rest ih =>
    rw [List.foldl_cons, List.map_cons]
    by_cases hx : normalizeExtension ext = ""
    · rw [Catalog.claim_of_eq_empty i c hx, List.filter_cons_of_neg (by simpa using hx)]
      exact ih h hl
    · obtain ⟨l, hl, rfl⟩ := hl
      have hl' := (h.coherent.changes_claim hx i).getElem?_eq_some.mpr ⟨l, hl, rfl⟩
      have hrest := ih (h.claim hl hx) ⟨_, hl', Catalog.handOver_id⟩
      rw [List.filter_cons_of_pos (by simpa using hx), List.map_cons]
      rwa [List.append_assoc, List.singleton_append] at hrest

/-- An insertion adds the name of the language and then its claims, in order. -/
theorem upsert (h : Reflects ls ks c) (l : Language) :
    Reflects (ls ++ [l]) (ks ++ l.claims) (c.upsert l) :=
  (h.rename l).claims (h.coherent.getElem?_rename_place l.id l.name) l.extensions

/-- A catalog that reflects a history goes on to reflect it with one more insertion, be it refused
or not. -/
theorem attempt {h₀ : List Language} (h : Reflects (accepted h₀) (History.claims h₀) c)
    (l : Language) :
    Reflects (accepted (h₀ ++ [l])) (History.claims (h₀ ++ [l])) (c.attempt l) := by
  rw [accepted_append, claims_append]
  cases hv : isLanguageId l.id with
  | true =>
    have hacc : accepted [l] = [l] := List.filter_cons_of_pos hv
    have hks : History.claims [l] = l.claims := by
      rw [History.claims, hacc, List.flatMap_singleton]
    rw [Catalog.attempt_of_valid c hv, hacc, hks]
    exact h.upsert l
  | false =>
    have hacc : accepted [l] = [] := List.filter_cons_of_neg (by simp [hv])
    have hks : History.claims [l] = [] := by rw [History.claims, hacc, List.flatMap_nil]
    rw [Catalog.attempt_of_invalid c hv, hacc, hks, List.append_nil, List.append_nil]
    exact h

theorem replay {h₀ : List Language} (h : Reflects (accepted h₀) (History.claims h₀) c)
    (history : List Language) :
    Reflects (accepted (h₀ ++ history)) (History.claims (h₀ ++ history)) (c.replay history) := by
  induction history generalizing h₀ c with
  | nil => rwa [List.append_nil]
  | cons l rest ih =>
    have hrest := ih (h.attempt l)
    rwa [List.append_assoc, List.singleton_append] at hrest

/-- Only valid identifiers come into the list. -/
theorem isLanguageId_of_mem {history : List Language} (h : Reflects (accepted history) ks c)
    {l : Language} (hl : l ∈ c.entries) : isLanguageId l.id := by
  obtain ⟨m, hm, hid⟩ := h.exists_id_iff.mp ⟨l, hl, rfl⟩
  exact hid ▸ (List.mem_filter.mp hm).2

/-- A file resolves to the owner of its extension. -/
theorem resolve_eq_some_iff (h : Reflects ls ks c) {fileName : String} :
    c.resolve fileName = some id ↔
      extensionOf fileName ≠ "" ∧ owner? ks (extensionOf fileName) = some id := by
  rw [h.coherent.resolve_eq_some_iff]
  refine and_congr_right fun _ => ⟨?_, fun hown => ?_⟩
  · rintro ⟨l, hl, hx, rfl⟩
    exact (h.owners l hl _).mp hx
  · obtain ⟨l, hl, hid⟩ := h.claimants _ (mem_of_owner? hown)
    subst hid
    exact ⟨l, hl, (h.owners l hl _).mpr hown, rfl⟩

/-- The name shown for an identifier is the last one given to it. -/
theorem displayName_eq (h : Reflects ls ks c) (id : String) :
    c.displayName id = lastName? ls id := by
  refine Option.ext fun name => ?_
  rw [h.coherent.displayName_eq_some_iff]
  constructor
  · rintro ⟨l, hl, rfl, rfl⟩
    exact h.names l hl
  · intro hname
    obtain ⟨l, hl, -⟩ := Option.map_eq_some_iff.mp hname
    rw [List.findRev?_eq_find?_reverse] at hl
    have hid : l.id = id := by simpa using List.find?_some hl
    obtain ⟨m, hm, hmid⟩ :=
      h.exists_id_iff.mpr ⟨l, List.mem_reverse.mp (List.mem_of_find?_eq_some hl), hid⟩
    have := h.names m hm
    rw [hmid, hname, Option.some.injEq] at this
    exact ⟨m, hm, hmid, this.symm⟩

end Reflects

/-- A history of insertions into the empty catalog can be read off its result. -/
theorem reflects_replay (history : List Language) :
    Reflects (accepted history) (claims history) (Catalog.empty.replay history) := by
  have hstart : Reflects (accepted []) (claims []) .empty := reflects_empty
  exact hstart.replay history

/-- The same for insertions into the built-in catalog, whose own history comes first. -/
theorem reflects_builtin (later : List Language) :
    Reflects (accepted (builtinLanguages ++ later)) (claims (builtinLanguages ++ later))
      (Catalog.builtin.replay later) := by
  have h := reflects_replay (builtinLanguages ++ later)
  rwa [Catalog.replay_append, ← Catalog.builtin_eq_replay] at h

/-- **A catalog is a function of its history.** An insertion is refused exactly for its identifier,
and then counts for nothing. Identifiers stand in the order in which they came first, under the name
that they were given last. An extension belongs to the language that claimed it last, and a language
lists what it owns, in the order in which its present ownership began. -/
theorem replay_reads_history (history : List Language) :
    (∀ (c : Catalog) (l : Language),
      (isLanguageId l.id → c.insert l = .ok (c.attempt l)) ∧
      (isLanguageId l.id = false →
        c.insert l = .error (.invalidLanguageId l.id) ∧ c.attempt l = c)) ∧
    (Catalog.empty.replay history).entries.toList.map (·.id) =
      ((accepted history).map (·.id)).eraseDups ∧
    (∀ l ∈ (Catalog.empty.replay history).entries,
      lastName? (accepted history) l.id = some l.name) ∧
    (∀ id, (Catalog.empty.replay history).displayName id = lastName? (accepted history) id) ∧
    (∀ fileName id, (Catalog.empty.replay history).resolve fileName = some id ↔
      extensionOf fileName ≠ "" ∧
        owner? (claims history) (extensionOf fileName) = some id) ∧
    ∀ l ∈ (Catalog.empty.replay history).entries,
      (∀ x, x ∈ l.extensions ↔ owner? (claims history) x = some l.id) ∧
      l.extensions.Pairwise fun x y =>
        ownedSince x (claims history) < ownedSince y (claims history) := by
  have h := reflects_replay history
  refine ⟨fun c l => ⟨fun hv => ?_, fun hv => ?_⟩, h.ids, h.names, h.displayName_eq,
    fun _ _ => h.resolve_eq_some_iff, fun l hl => ⟨h.owners l hl, h.sorted l hl⟩⟩
  · rw [Catalog.insert_of_valid c hv, Catalog.attempt_of_valid c hv]
  · exact ⟨Catalog.insert_of_invalid c hv, Catalog.attempt_of_invalid c hv⟩

end History

end Polyglot
