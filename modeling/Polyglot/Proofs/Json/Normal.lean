import Mathlib.Data.String.Basic
import Polyglot.Json.Value

/-!
# Normal values

A value that has been read is normal: it nests no deeper than it was allowed to, and each of its
objects has its members in the order of their keys, no key twice (`isNormal_of_value`).
-/

namespace Polyglot.Json

variable {key : String} {v : Value} {m : String × Value} {found ms : List (String × Value)}
  {depth : Nat} {input rest : Input}

/-! ## Members in order -/

/-- The keys of the members are in order, and no two of them are the same. -/
def InOrder (members : List (String × Value)) : Prop := members.Pairwise (·.1 < ·.1)

/-- A member of the result is the one that was put in, or was there before. -/
theorem mem_insertMember (h : m ∈ insertMember key v found) : m = (key, v) ∨ m ∈ found := by
  induction found with
  | nil => exact .inl (List.mem_singleton.mp h)
  | cons other found ih =>
    rw [insertMember] at h
    split at h
    · exact (List.mem_cons.mp h).imp_right (List.mem_cons_of_mem _)
    · split at h
      · exact List.mem_cons.mp h
      · rcases List.mem_cons.mp h with rfl | h
        · exact .inr List.mem_cons_self
        · exact (ih h).imp_right (List.mem_cons_of_mem _)

theorem forall_insertMember {P : Value → Prop} (hv : P v) (h : ∀ m ∈ found, P m.2) :
    ∀ m ∈ insertMember key v found, P m.2 := by
  intro m hm
  rcases mem_insertMember hm with rfl | hm
  · exact hv
  · exact h m hm

/-- Putting in a member keeps the keys in order, and no key twice. -/
theorem inOrder_insertMember (h : InOrder found) : InOrder (insertMember key v found) := by
  induction found with
  | nil => exact List.pairwise_singleton _ _
  | cons other found ih =>
    obtain ⟨hother, hfound⟩ := List.pairwise_cons.mp h
    rw [insertMember]
    split
    · next heq =>
      subst heq
      exact List.pairwise_cons.mpr ⟨hother, hfound⟩
    · next hne =>
      split
      · next hlt =>
        refine List.pairwise_cons.mpr ⟨fun m hm => ?_, h⟩
        rcases List.mem_cons.mp hm with rfl | hm
        · exact hlt
        · exact lt_trans hlt (hother m hm)
      · next hge =>
        refine List.pairwise_cons.mpr ⟨fun m hm => ?_, ih hfound⟩
        rcases mem_insertMember hm with rfl | hm
        · exact lt_of_le_of_ne (not_lt.mp hge) (Ne.symm hne)
        · exact hother m hm

/-- A member that comes after all others is put behind them. -/
theorem insertMember_of_forall_lt (h : ∀ m ∈ found, m.1 < key) :
    insertMember key v found = found ++ [(key, v)] := by
  induction found with
  | nil => rfl
  | cons other found ih =>
    have hother := h other List.mem_cons_self
    rw [insertMember, if_neg hother.ne', if_neg hother.asymm,
      ih fun m hm => h m (List.mem_cons_of_mem _ hm)]
    rfl

theorem lookup_cons (k key : String) (v : Value) (found : List (String × Value)) :
    List.lookup k ((key, v) :: found) = if k = key then some v else found.lookup k := by
  by_cases hk : k = key
  · rw [if_pos hk, hk, List.lookup_cons_self]
  · rw [if_neg hk, List.lookup_cons, beq_eq_false_iff_ne.mpr hk]

/-- The member that is put in is found under its key, and the others are found as before. -/
theorem lookup_insertMember (k key : String) (v : Value) (found : List (String × Value)) :
    (insertMember key v found).lookup k = if k = key then some v else found.lookup k := by
  induction found with
  | nil => exact lookup_cons k key v []
  | cons other found ih =>
    obtain ⟨k', w⟩ := other
    rw [insertMember]
    split
    · next heq =>
      subst heq
      rw [lookup_cons, lookup_cons]
      split <;> rfl
    · next hne =>
      split
      · exact lookup_cons k key v _
      · rw [lookup_cons, lookup_cons, ih]
        split
        · next heq => rw [if_neg (heq ▸ Ne.symm hne)]
        · rfl

/-- The members that are read where these stand, one after the other. -/
def readMembers (found members : List (String × Value)) : List (String × Value) :=
  members.foldl (fun found m => insertMember m.1 m.2 found) found

/-- Members in order are read as they stand. -/
theorem readMembers_of_inOrder (h : InOrder (found ++ ms)) :
    readMembers found ms = found ++ ms := by
  induction ms generalizing found with
  | nil => exact (List.append_nil found).symm
  | cons m ms ih =>
    have hlt : ∀ m' ∈ found, m'.1 < m.1 :=
      fun m' hm' => (List.pairwise_append.mp h).2.2 m' hm' m List.mem_cons_self
    rw [List.append_cons] at h ⊢
    rw [readMembers, List.foldl_cons, insertMember_of_forall_lt hlt]
    exact ih h

theorem readMembers_nil (h : InOrder ms) : readMembers [] ms = ms := readMembers_of_inOrder h

/-! ## What is read -/

/-- At most `depth` brackets are inside of one another, and the members of every object are in
order. -/
inductive Value.IsNormal : Nat → Value → Prop where
  | null {depth : Nat} : IsNormal depth .null
  | bool {depth : Nat} (b : Bool) : IsNormal depth (.bool b)
  | number {depth : Nat} (n : Number) : IsNormal depth (.number n)
  | string {depth : Nat} (s : String) : IsNormal depth (.string s)
  | array {depth : Nat} {vs : List Value} : (∀ v ∈ vs, IsNormal depth v) →
      IsNormal (depth + 1) (.array vs)
  | object {depth : Nat} {ms : List (String × Value)} : (∀ m ∈ ms, IsNormal depth m.2) →
      InOrder ms → IsNormal (depth + 1) (.object ms)

theorem of_map_ok {α β ε : Type} {f : α → β} {x : Except ε α} {y : β} (h : f <$> x = .ok y) :
    ∃ a, x = .ok a ∧ f a = y := by
  cases x with
  | error e => cases h
  | ok a => exact ⟨a, rfl, Except.ok.inj h⟩

theorem of_bind_ok {α β ε : Type} {f : α → Except ε β} {x : Except ε α} {y : β}
    (h : x >>= f = .ok y) : ∃ a, x = .ok a ∧ f a = .ok y := by
  cases x with
  | error e => cases h
  | ok a => exact ⟨a, rfl, h⟩

/-- What all values have that a reader gives, all items of an array have. -/
theorem forall_of_items {α : Type} {P : α → Prop} {read : Reader α}
    (hread : ∀ {input x rest}, read input = .ok (x, rest) → P x) {bound input rest : Input}
    {found xs : List α} (hfound : ∀ x ∈ found, P x)
    (h : items read bound found input = .ok (xs, rest)) : ∀ x ∈ xs, P x := by
  induction bound generalizing found input with
  | nil => cases h
  | cons g bound ih =>
    rw [items] at h
    split at h
    · cases h
    · obtain ⟨after, -, heq⟩ := of_map_ok h
      cases heq
      exact fun x hx => hfound x (List.mem_reverse.mp hx)
    · split at h
      · cases h
      · next hx => exact ih (List.forall_mem_cons.mpr ⟨hread hx, hfound⟩) h

/-- What the members have that have been read, they keep if it does not get lost with a member that
is put in. -/
theorem of_valueMembers {P : List (String × Value) → Prop} {read : Reader Value}
    (hread : ∀ {key input v rest found}, read input = .ok (v, rest) → P found →
      P (insertMember key v found))
    {bound input rest : Input} {first : Bool} (hfound : P found)
    (h : valueMembers read bound first found input = .ok (ms, rest)) : P ms := by
  induction bound generalizing found first input with
  | nil => cases h
  | cons g bound ih =>
    rw [valueMembers] at h
    split at h
    · cases h
    · obtain ⟨after, -, heq⟩ := of_map_ok h
      cases heq
      exact hfound
    · split at h
      · cases h
      · split at h
        · cases h
        · next hv =>
          obtain ⟨after, -, hv⟩ := of_bind_ok hv
          exact ih (hread hv hfound) h

/-- **A value that is read is normal.** -/
theorem isNormal_of_value (h : value depth input = .ok (v, rest)) : v.IsNormal depth := by
  induction depth using Nat.strongRecOn generalizing input v rest with
  | ind depth ih =>
    rw [value] at h
    split at h
    · cases h
    · cases h
    · split at h
      · cases depth with
        | zero => cases h
        | succ depth =>
          obtain ⟨_, hvs, heq⟩ := of_bind_ok h
          cases heq
          exact .array (forall_of_items (ih depth (Nat.lt_succ_self depth)) (by simp) hvs)
      split at h
      · cases depth with
        | zero => cases h
        | succ depth =>
          obtain ⟨_, hms, heq⟩ := of_bind_ok h
          cases heq
          refine (fun ⟨hms, hsorted⟩ => .object hms hsorted) (of_valueMembers
            (P := fun ms => (∀ m ∈ ms, m.2.IsNormal depth) ∧ InOrder ms) ?_
            ⟨by simp, List.Pairwise.nil⟩ hms)
          intro key _ _ _ _ hv hfound
          exact ⟨forall_insertMember (ih depth (Nat.lt_succ_self depth) hv) hfound.1,
            inOrder_insertMember hfound.2⟩
      split at h
      · obtain ⟨_, -, heq⟩ := of_bind_ok h
        cases heq
        exact .string _
      split at h
      · obtain ⟨_, -, heq⟩ := of_bind_ok h
        cases heq
        exact .number _
      split at h
      · obtain ⟨_, -, heq⟩ := of_map_ok h
        cases heq
        exact .null
      split at h
      · obtain ⟨_, -, heq⟩ := of_map_ok h
        cases heq
        exact .bool true
      split at h
      · obtain ⟨_, -, heq⟩ := of_map_ok h
        cases heq
        exact .bool false
      · cases h

/-- Every value that is read is in normal form, and no deeper than the limit. -/
theorem isNormal_of_read (h : Value.read input = .ok v) : v.IsNormal depthLimit := by
  obtain ⟨⟨w, rest⟩, hw, h⟩ := of_bind_ok h
  simp only at h
  split at h
  · cases h
    exact isNormal_of_value hw
  · cases h

end Polyglot.Json
