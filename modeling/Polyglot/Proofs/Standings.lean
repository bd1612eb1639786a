import Mathlib.Data.List.Induction
import Mathlib.Data.List.Nodup
import Polyglot.Standings

/-!
# Standings as a view

The standings are seen through two things: the languages in the order in which they came in, and
for every language its points, which are none for a language that is not there. Adding points
changes the view in the obvious way (`points_add`, `languages_add`). The leader has more points than
everybody before it, and nobody after it has more (`leader_eq_some`).
-/

namespace Polyglot

@[simp] theorem capped_capped_add (a b : Nat) : capped (capped a + b) = capped (a + b) := by
  simp only [capped]
  omega

@[simp] theorem capped_add_capped (a b : Nat) : capped (a + capped b) = capped (a + b) := by
  simp only [capped]
  omega

theorem capped_of_le {a : Nat} (h : a ≤ maxPoints) : capped a = a := Nat.min_eq_left h

theorem capped_le (a : Nat) : capped a ≤ maxPoints := Nat.min_le_right ..

namespace Standings

variable {s : Standings} {language other : String} {p q : Nat}

/-- The languages, in the order in which they came in. -/
def languages (s : Standings) : List String := s.map (·.1)

@[simp] theorem languages_nil : languages [] = [] := rfl

@[simp] theorem languages_cons (entry : String × Nat) (s : Standings) :
    languages (entry :: s) = entry.1 :: s.languages := rfl

/-- The points of a language. -/
def points (s : Standings) (language : String) : Nat := (s.lookup language).getD 0

@[simp] theorem points_nil : points [] language = 0 := rfl

/-- The points of a language are those of its first entry. -/
theorem points_cons (entry : String × Nat) (s : Standings) (other : String) :
    points (entry :: s) other = if other = entry.1 then entry.2 else s.points other := by
  rw [points, List.lookup_cons]
  by_cases h : other = entry.1
  · simp [h]
  · have : (other == entry.1) = false := beq_false_of_ne h
    simp [h, this, points]

/-! ## Adding points -/

/-- Points are added to those of the language, up to the most, and to no other. -/
theorem points_add (hp : p ≤ maxPoints) (s : Standings) : (s.add language p).points other =
    if other = language then capped (s.points language + p) else s.points other := by
  induction s with
  | nil => simp [add, points_cons, capped_of_le hp]
  | cons entry rest ih =>
    rw [add]
    by_cases h : entry.1 = language
    · rw [if_pos h, points_cons, points_cons, points_cons, if_pos h.symm]
      by_cases ho : other = entry.1
      · rw [if_pos ho, if_pos (ho.trans h)]
      · rw [if_neg ho, if_neg fun e => ho (e.trans h.symm), if_neg ho]
    · rw [if_neg h, points_cons, points_cons, points_cons, ih, if_neg (Ne.symm h)]
      by_cases ho : other = entry.1
      · rw [if_pos ho, if_neg fun e => h (ho.symm.trans e), if_pos ho]
      · rw [if_neg ho, if_neg ho]

/-- A language that gets points for the first time comes last. -/
theorem languages_add (s : Standings) : (s.add language p).languages =
    if language ∈ s.languages then s.languages else s.languages ++ [language] := by
  induction s with
  | nil => simp [add]
  | cons entry rest ih =>
    rw [add]
    by_cases h : entry.1 = language
    · simp [h]
    · rw [if_neg h, languages_cons, languages_cons, ih]
      by_cases hm : language ∈ languages rest
      · simp [hm]
      · simp [hm, Ne.symm h]

/-- Adding points lists no language twice. -/
theorem nodup_languages_add (h : s.languages.Nodup) (language : String) (p : Nat) :
    (s.add language p).languages.Nodup := by
  rw [languages_add]
  split
  · exact h
  · next hnew => simpa [List.nodup_append] using ⟨h, fun l hl heq => hnew (heq ▸ hl)⟩

/-- Nobody is left without points when some are added. -/
theorem forall_pos_add (h : ∀ entry ∈ s, 0 < entry.2) (language : String) (hp : 0 < p) :
    ∀ entry ∈ s.add language p, 0 < entry.2 := by
  induction s with
  | nil => simpa [add] using hp
  | cons entry rest ih =>
    obtain ⟨hentry, hrest⟩ := List.forall_mem_cons.mp h
    rw [add]
    split
    · have hsum : 0 < capped (entry.2 + p) := by
        simp only [capped, maxPoints, UInt64.size]
        omega
      exact List.forall_mem_cons.mpr ⟨hsum, hrest⟩
    · exact List.forall_mem_cons.mpr ⟨hentry, ih hrest⟩

/-- A language that is not listed has no points. -/
theorem points_eq_zero (h : language ∉ s.languages) : s.points language = 0 := by
  have hnone : s.lookup language = none := by
    rw [List.lookup_eq_none_iff]
    intro entry hentry
    refine bne_iff_ne.mpr fun heq => h ?_
    exact heq ▸ List.mem_map.mpr ⟨entry, hentry, rfl⟩
  rw [points, hnone, Option.getD_none]

/-- If no language is listed twice, the points of a language are those of its entry. -/
theorem points_of_mem (hs : s.languages.Nodup) (h : (language, p) ∈ s) : s.points language = p := by
  induction s with
  | nil => cases h
  | cons entry rest ih =>
    obtain ⟨hnot, hrest⟩ := List.nodup_cons.mp hs
    rw [points_cons]
    rcases List.mem_cons.mp h with rfl | h
    · exact if_pos rfl
    · have hne : language ≠ entry.1 := by
        rintro rfl
        exact hnot (List.mem_map.mpr ⟨_, h, rfl⟩)
      rw [if_neg hne, ih hrest h]

theorem mem_of_languages (hs : s.languages.Nodup) (h : language ∈ s.languages) :
    (language, s.points language) ∈ s := by
  obtain ⟨⟨l, p⟩, hmem, rfl⟩ := List.mem_map.mp h
  rwa [points_of_mem hs hmem]

/-! ## The leader -/

@[simp] theorem lead_none (entry : String × Nat) : lead none entry = some entry := rfl

@[simp] theorem lead_some (top entry : String × Nat) :
    lead (some top) entry = if entry.2 ≤ top.2 then some top else some entry := rfl

theorem lead_ne_none (best : Option (String × Nat)) (entry : String × Nat) :
    lead best entry ≠ none := by
  cases best with
  | none => simp
  | some top =>
    rw [lead_some]
    split <;> simp

/-- A later entry takes the lead only if it has more points. -/
theorem leader_append (s : Standings) (entry : String × Nat) :
    leader (s ++ [entry]) = lead s.leader entry := by
  rw [leader, List.foldl_append]
  rfl

/-- There is a leader unless the standings are empty. -/
theorem leader_eq_none_iff : s.leader = none ↔ s = [] := by
  rcases List.eq_nil_or_concat s with rfl | ⟨rest, last, rfl⟩
  · exact iff_of_true rfl rfl
  · rw [List.concat_eq_append, leader_append]
    exact iff_of_false (lead_ne_none _ _) (by simp)

/-- The leader has more points than all languages before it and no fewer than those after it. -/
theorem leader_eq_some {entry : String × Nat} (h : s.leader = some entry) :
    ∃ before after, s = before ++ entry :: after ∧
      (∀ e ∈ before, e.2 < entry.2) ∧ ∀ e ∈ after, e.2 ≤ entry.2 := by
  -- the last language of the standings is the last one that meets the leader
  induction s using List.reverseRecOn generalizing entry with
  | nil => cases h
  | append_singleton rest last ih =>
    rw [leader_append] at h
    cases htop : leader rest with
    | none =>
      rw [htop, lead_none, Option.some.injEq] at h
      obtain rfl := leader_eq_none_iff.mp htop
      exact ⟨[], [], by rw [h, List.nil_append], by simp, by simp⟩
    | some top =>
      obtain ⟨before, after, rfl, hbefore, hafter⟩ := ih htop
      rw [htop, lead_some] at h
      split at h
      · next hle =>
        obtain rfl := Option.some.inj h
        refine ⟨before, after ++ [last], by simp, hbefore, ?_⟩
        exact List.forall_mem_append.mpr ⟨hafter, by simpa using hle⟩
      · next hlt =>
        obtain rfl := Option.some.inj h
        refine ⟨before ++ top :: after, [], rfl, fun e he => ?_, by simp⟩
        rcases List.mem_append.mp he with he | he
        · have := hbefore e he
          omega
        · rcases List.mem_cons.mp he with rfl | he
          · omega
          · have := hafter e he
            omega

/-- Nobody has more points than the leader. -/
theorem points_le_leader (hs : s.languages.Nodup) (h : s.leader = some (language, p)) :
    s.points language = p ∧ ∀ other, s.points other ≤ p := by
  obtain ⟨before, after, hsplit, hbefore, hafter⟩ := leader_eq_some h
  have hmem : (language, p) ∈ s := hsplit ▸ List.mem_append_right _ (List.mem_cons_self ..)
  refine ⟨points_of_mem hs hmem, fun other => ?_⟩
  by_cases hother : other ∈ s.languages
  · have hentry := mem_of_languages hs hother
    generalize s.points other = q at hentry ⊢
    rw [hsplit] at hentry
    rcases List.mem_append.mp hentry with hentry | hentry
    · exact Nat.le_of_lt (hbefore _ hentry)
    · rcases List.mem_cons.mp hentry with heq | hentry
      · exact Nat.le_of_eq (congrArg Prod.snd heq)
      · exact hafter _ hentry
  · exact points_eq_zero hother ▸ Nat.zero_le p

end Standings

end Polyglot
