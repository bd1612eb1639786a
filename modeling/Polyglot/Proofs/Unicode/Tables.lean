import Polyglot.Proofs.Unicode.Sets
import Polyglot.Unicode.BinaryProperty
import Polyglot.Unicode.WhiteSpace

/-!
# Written tables, row by row

No block of a written table goes over the end of a row, so the blocks of a table are those of its
rows (`CharSet.blocks_ofTable`). What is to be known of a whole table is found out from one row
after the other, such as that no letter is white space (`not_isWhiteSpace_of_alphabetic`).
-/

namespace Polyglot.Unicode

namespace CharSet

variable {c : Char} {row : List Char} {lines : List String} {t : CharSet}

/-- The set of one row of a written table. -/
def ofRow (row : List Char) : CharSet := ⟨(row.foldl Reading.step {}).close.done.reverse⟩

/-! ## Reading -/

/-- A reading that has other blocks finished before. -/
def Reading.behind (r : Reading) (done : List Block) : Reading := { r with done := r.done ++ done }

/-- A step of the reading does not look at the finished blocks. -/
theorem Reading.step_behind (r : Reading) (done : List Block) (c : Char) :
    (r.behind done).step c = (r.step c).behind done := by
  obtain ⟨_, first, _⟩ := r
  unfold step
  split
  · cases first <;> rfl
  · split <;> rfl

theorem Reading.foldl_step_behind (row : List Char) (r : Reading) (done : List Block) :
    row.foldl step (r.behind done) = (row.foldl step r).behind done := by
  induction row generalizing r with
  | nil => rfl
  | cons c row ih => rw [List.foldl_cons, step_behind, ih, List.foldl_cons]

/-- When a row is closed, nothing is at hand any more. -/
theorem Reading.close_behind (r : Reading) (done : List Block) :
    (r.behind done).close = ⟨r.close.done ++ done, none, 0⟩ := by
  obtain ⟨_, first, _⟩ := r
  cases first <;> rfl

/-- A table has the blocks of its rows. -/
theorem blocks_ofTable (lines : List String) :
    (ofTable lines).blocks = lines.flatMap fun line => (ofRow line.toList).blocks := by
  let read (r : Reading) (line : String) := (line.toList.foldl Reading.step r).close
  have hread (done : List Block) : (lines.foldl read ⟨done, none, 0⟩).done.reverse =
      done.reverse ++ lines.flatMap fun line => (ofRow line.toList).blocks := by
    induction lines generalizing done with
    | nil => simp
    | cons line lines ih =>
      -- after a row nothing is at hand, so the next one is read as if it were the first
      have hrow : read ⟨done, none, 0⟩ line =
          ⟨(line.toList.foldl Reading.step {}).close.done ++ done, none, 0⟩ := by
        rw [← Reading.close_behind, ← Reading.foldl_step_behind]
        rfl
      rw [List.foldl_cons, hrow, ih, List.reverse_append, List.append_assoc, List.flatMap_cons, ofRow]
  exact (hread []).trans (List.nil_append _)

/-! ## Rows -/

/-- A table lies apart from a set if each of its rows does. -/
theorem isApart_ofTable (h : ∀ line ∈ lines, (ofRow line.toList).isApart t) :
    (ofTable lines).isApart t := by
  rw [isApart, blocks_ofTable, List.all_flatMap, List.all_eq_true]
  exact h

theorem forall_row_cons {p : List Char → Prop} (hrow : p row)
    (hlines : ∀ line ∈ lines, p line.toList) :
    ∀ line ∈ String.ofList row :: lines, p line.toList :=
  List.forall_mem_cons.mpr ⟨(String.toList_ofList (l := row)).symm ▸ hrow, hlines⟩

/-- The first row of a table is looked at first. -/
theorem contains_ofTable_cons (h : (ofRow row).contains c) :
    (ofTable (String.ofList row :: lines)).contains c := by
  rw [contains, blocks_ofTable, List.flatMap_cons, String.toList_ofList]
  exact Block.holds_append h _

/-- The first row of a table is enough for a character before the beginning of its last block. -/
theorem contains_ofTable_cons_of_lt (h : ∃ b ∈ (ofRow row).blocks, c.toNat < b.first) :
    (ofTable (String.ofList row :: lines)).contains c = (ofRow row).contains c := by
  rw [contains, blocks_ofTable, List.flatMap_cons, String.toList_ofList, Block.holds_append_of_lt h,
    contains]

end CharSet

/-! ## Letters -/

open CharSet in
/-- The table of letters lies apart from white space, row by row. -/
theorem isApart_alphabetic : Property.alphabetic.isApart whiteSpace := by
  refine isApart_ofTable ?_
  -- the rows are written out to characters, which are quick to read
  repeat refine forall_row_cons (p := fun row => (ofRow row).isApart whiteSpace) (by decide +kernel) ?_
  exact List.forall_mem_nil _

/-- No letter is white space. -/
theorem not_isWhiteSpace_of_alphabetic {c : Char} (h : Property.alphabetic.contains c) :
    ¬isWhiteSpace c :=
  CharSet.not_contains_of_isApart isApart_alphabetic h

end Polyglot.Unicode
