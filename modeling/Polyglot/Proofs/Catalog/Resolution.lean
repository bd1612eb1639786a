import Polyglot.Proofs.Catalog.History

/-!
# Which listed extensions take effect

A file name shows the part after its last dot and nothing before it. So an extension takes effect
for the language that lists it exactly if that language lists the extension's last part as well,
and an extension without a dot inside is its own last part (`resolve_listed_iff`). With a dot inside
it may be listed in vain (`listed_in_vain`).
-/

namespace Polyglot.Catalog

variable {c : Catalog} {l : Language} {x : String}

theorem reachable_of_insertAll {ls : List Language} (h : builtin.insertAll ls = .ok c) :
    c.Reachable :=
  replay_of_insertAll h ▸ Reachable.builtin.replay ls

namespace Coherent

/-- A file name that ends in a listed extension resolves by the last part of it. -/
theorem resolve_append_dot (hc : c.Coherent) (hl : l ∈ c.entries) (hx : x ∈ l.extensions)
    (stem : String) :
    c.resolve (stem ++ "." ++ x) = some l.id ↔ lastPart x ∈ l.extensions := by
  rw [hc.resolve_eq_some_iff, extensionOf_append_dot (hc.isNormal l hl x hx).lowercase_eq]
  constructor
  · rintro ⟨-, m, hm, hlast, hid⟩
    obtain ⟨i, hi⟩ := Array.mem_iff_getElem?.mp hl
    obtain ⟨j, hj⟩ := Array.mem_iff_getElem?.mp hm
    obtain rfl := hc.place_eq_of_id hj hi hid
    obtain rfl := Option.some.inj (hi.symm.trans hj)
    exact hlast
  · exact fun hlast => ⟨(hc.isNormal l hl _ hlast).ne_empty, l, hl, hlast, rfl⟩

end Coherent

/-- **A listed extension takes effect if its last part is listed beside it.** That is so for every
extension without a dot inside, after any stem. -/
theorem resolve_listed_iff {ls : List Language} (h : builtin.insertAll ls = .ok c)
    (hl : l ∈ c.entries) (hx : x ∈ l.extensions) (stem : String) :
    (c.resolve (stem ++ "." ++ x) = some l.id ↔ lastPart x ∈ l.extensions) ∧
      ('.' ∉ x.toList → c.resolve (stem ++ "." ++ x) = some l.id) := by
  have hiff := (reachable_of_insertAll h).coherent.resolve_append_dot hl hx stem
  refine ⟨hiff, fun hdot => hiff.mpr ?_⟩
  rwa [lastPart_eq_self hdot]

/-- A language with one extension that has a dot inside and one that has none. -/
def archive : Language := ⟨"archive", "Archive", ["tar.gz", "tgz"]⟩

theorem insertAll_archive : builtin.insertAll [archive] = .ok (builtin.attempt archive) := by
  rw [insertAll, insert_of_valid builtin (by decide), attempt_of_valid builtin (by decide)]
  rfl

/-- The built-in catalog with `archive`, seen through its history. -/
theorem reflects_archive :
    History.Reflects (History.accepted (builtinLanguages ++ [archive]))
      (History.claims (builtinLanguages ++ [archive])) (builtin.attempt archive) :=
  History.reflects_builtin [archive]

/-- Both extensions of `archive` are listed. -/
theorem exists_archive : ∃ l ∈ (builtin.attempt archive).entries,
    l.id = "archive" ∧ "tar.gz" ∈ l.extensions ∧ "tgz" ∈ l.extensions := by
  obtain ⟨l, hl, hid⟩ := reflects_archive.claimants ⟨"archive", "tgz"⟩ (by decide +kernel)
  refine ⟨l, hl, hid, (reflects_archive.owners l hl _).mpr ?_,
    (reflects_archive.owners l hl _).mpr ?_⟩
  · rw [hid]
    decide +kernel
  · rw [hid]
    decide +kernel

/-- The theorem at `tgz`, which takes effect. -/
theorem resolve_listed_tgz :
    builtin.insertAll [archive] = .ok (builtin.attempt archive) ∧
    ∃ l ∈ (builtin.attempt archive).entries, "tgz" ∈ l.extensions ∧ '.' ∉ "tgz".toList ∧
      (builtin.attempt archive).resolve ("src" ++ "." ++ "tgz") = some l.id := by
  obtain ⟨l, hl, -, -, hx⟩ := exists_archive
  have hdot : '.' ∉ "tgz".toList := by decide
  have htakes := (resolve_listed_iff insertAll_archive hl hx "src").2 hdot
  exact ⟨insertAll_archive, l, hl, hx, hdot, htakes⟩

/-- `tar.gz` is listed in vain: nobody owns `gz`, which is all that a file name shows of it. -/
theorem listed_in_vain :
    builtin.insertAll [archive] = .ok (builtin.attempt archive) ∧
    (∃ l ∈ (builtin.attempt archive).entries, l.id = "archive" ∧ "tar.gz" ∈ l.extensions) ∧
    (builtin.attempt archive).resolve ("src" ++ "." ++ "tar.gz") = none := by
  obtain ⟨l, hl, hid, hx, -⟩ := exists_archive
  refine ⟨insertAll_archive, ⟨l, hl, hid, hx⟩, ?_⟩
  rw [Option.eq_none_iff_forall_ne_some]
  intro id hres
  have hown := (reflects_archive.resolve_eq_some_iff.mp hres).2
  have hnone : History.owner? (History.claims (builtinLanguages ++ [archive]))
      (extensionOf ("src" ++ "." ++ "tar.gz")) = none := by
    decide +kernel
  rw [hnone] at hown
  cases hown

end Polyglot.Catalog
