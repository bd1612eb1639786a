import Mathlib.Data.Bool.AllAny
import Polyglot.Proofs.Pattern.Backbone
import Polyglot.Proofs.Signal.Silence
import Polyglot.Proofs.Unicode.Tables

/-!
# Names in foreign letters

Names are matched in ASCII, so a declaration of something with a name in foreign letters says
nothing. This holds with one exception: the two signals for SQL do not look at the case of letters,
and so they count the long `ſ` and the Kelvin sign among the letters of ASCII, as two ways to write
`s` and `k`. A table is declared by a name that begins with one of these, and a selection is made by
names that have nothing else (`Detector.standard_reads_foreign_names`).

What the other signals see of such a text is the same whatever the name is: the characters of ASCII
and white space. There are no matches if the backbone does not run through these.
-/

namespace Polyglot

open Pattern (Automaton Regex RunsThrough Side asciiWordSet placesFrom)
open Text (IsAscii)
open Unicode (Block CharSet isWhiteSpace whiteSpace not_isWhiteSpace_of_alphabetic)

variable {c : Char} {text rest name : List Char} {set : CharSet} {r : Regex} {spared : List Nat}

/-- A name of letters that are not in ASCII. -/
structure IsForeign (name : List Char) : Prop where
  nonempty : name ≠ []
  letters : ∀ c ∈ name, Unicode.Property.alphabetic.contains c
  foreign : ∀ c ∈ name, ¬IsAscii c

theorem IsForeign.not_isWhiteSpace (h : IsForeign name) : ∀ c ∈ name, ¬whiteSpace.contains c :=
  fun c hc => not_isWhiteSpace_of_alphabetic (h.letters c hc)

theorem IsForeign.inkAhead_append (h : IsForeign name) (more : List Char) :
    Regex.inkAhead (name ++ more) := by
  obtain ⟨c, rest, rfl⟩ := List.exists_cons_of_ne_nil h.nonempty
  simpa [Regex.inkAhead] using h.not_isWhiteSpace c (List.mem_cons_self ..)

/-! ## Plain characters -/

/-- The characters of ASCII and white space. -/
def isPlain (c : Char) : Bool := decide (IsAscii c) || isWhiteSpace c

/-- A set that is known to have plain characters only. -/
def isPlainSet (set : CharSet) : Bool := set.isAscii || set == whiteSpace

theorem isPlain_of_contains (hset : isPlainSet set) (hc : set.contains c) : isPlain c := by
  rcases Bool.or_eq_true_iff.mp hset with hset | hset
  · exact Bool.or_eq_true_iff.mpr (.inl (decide_eq_true (CharSet.lt_of_contains_isAscii hset hc)))
  · obtain rfl := eq_of_beq hset
    exact Bool.or_eq_true_iff.mpr (.inr hc)

/-- There is nothing plain in a foreign name. -/
theorem IsForeign.filter_isPlain (h : IsForeign name) : name.filter isPlain = [] := by
  refine List.filter_eq_nil_iff.mpr fun c hc hplain => ?_
  rcases Bool.or_eq_true_iff.mp hplain with hplain | hplain
  · exact h.foreign c hc (of_decide_eq_true hplain)
  · exact h.not_isWhiteSpace c hc hplain

/-- The backbone does not run through the text, as its plain characters show. -/
def IsBarred (r : Regex) (plain : List Char) : Prop :=
  ¬RunsThrough (r.backbone.filter isPlainSet) plain

instance (r : Regex) (plain : List Char) : Decidable (IsBarred r plain) :=
  inferInstanceAs (Decidable ¬_)

/-- A signal whose backbone asks for a plain character that is not there is barred, whatever other
characters there are. -/
theorem IsBarred.not_runsThrough (h : IsBarred r (text.filter isPlain)) :
    ¬RunsThrough r.backbone text :=
  mt (RunsThrough.filter fun _ _ => isPlain_of_contains) h

/-- A signal that is barred matches nowhere. -/
theorem IsBarred.ways_eq_nil (h : IsBarred r (text.filter isPlain)) {x : Side} :
    ∀ p ∈ placesFrom x text, r.ways p = [] := by
  intro p hp
  refine Regex.ways_eq_nil_of_not_runsThrough fun hruns => h.not_runsThrough ?_
  exact hruns.mono (Pattern.suffix_of_mem_placesFrom hp).sublist

/-! ## Texts that say nothing, but for some signals -/

/-- The plain characters of a text show that it says nothing, but for the signals at some places. -/
@[mk_iff]
structure IsMute (spared : List Nat) (plain : List Char) : Prop where
  ink : ¬isBlank plain
  wordless : ¬"React".toList ⊆ plain
  tagless : '<' ∉ plain
  barred : ∀ (i : Nat) (h : i < builtinRegexes.length), i ∉ spared → IsBarred builtinRegexes[i] plain

instance (spared : List Nat) (plain : List Char) : Decidable (IsMute spared plain) :=
  decidable_of_iff _ (isMute_iff spared plain).symm

namespace IsMute

variable (h : IsMute spared (text.filter isPlain))
include h

theorem not_blank : ¬∀ c ∈ text, isWhiteSpace c := by
  intro hblank
  exact h.ink (isBlank_iff.mpr fun c hc => hblank c (List.mem_of_mem_filter hc))

/-- What shows a component is in ASCII. -/
theorem override?_eq_none : Component.override? text = none := by
  have hplain {c : Char} (hc : c ∈ text) (hascii : IsAscii c) : c ∈ text.filter isPlain :=
    List.mem_filter.mpr ⟨hc, Bool.or_eq_true_iff.mpr (.inl (decide_eq_true hascii))⟩
  refine Component.override?_eq_none fun hcomponent => ?_
  rcases Component.subset_or_mem_of_isComponent hcomponent with hword | htag
  · have hascii : ∀ c ∈ "React".toList, IsAscii c := List.all_iff_forall_prop.mp (by decide)
    exact h.wordless fun c hc => hplain (hword hc) (hascii c hc)
  · exact h.tagless (hplain htag (by decide))

/-- Only the signals that are spared can find anything. -/
theorem exists_spared {s : Signal} (hs : s ∈ builtinSignals) (hpos : 0 < s.count text) :
    ∃ i ∈ spared, builtinSignals[i]? = some s := by
  obtain ⟨i, hi⟩ := List.getElem?_of_mem hs
  refine ⟨i, by_contra fun hother => ?_, hi⟩
  obtain ⟨spec, r, hr, rfl⟩ := exists_of_getElem?_builtinSignals hi
  obtain ⟨hlt, rfl⟩ := List.getElem?_eq_some_iff.mp hr
  have hsteady := isSteady_of_mem_builtinRegexes _ (List.getElem_mem hlt)
  exact Nat.ne_of_gt hpos
    (Automaton.count_eq_zero_of_not_runsThrough hsteady (h.barred i hlt hother).not_runsThrough)

end IsMute

/-- The answer for a text that is in SQL if anything. -/
def sqlOrText (fires : Bool) : Detection := if fires then ⟨"sql", "SQL"⟩ else ⟨"text", "Text"⟩

/-- **If the signals that are spared stand for SQL, the answer is left to them.** -/
theorem Detector.classify_of_isMute {code : String} {fires : Bool}
    (h : IsMute spared (code.toList.filter isPlain))
    (hlanguage : ∀ i ∈ spared, ∀ s, builtinSignals[i]? = some s → s.language = "sql")
    (hfires : fires ↔ ∃ i ∈ spared, ∃ s, builtinSignals[i]? = some s ∧ 0 < s.count code.toList) :
    standard.classify code = sqlOrText fires := by
  have hclassified := classified_classify standard.catalog
    (fun s hs => (isOrderly_standard.signals s hs).2) code
  have hsole : ∀ language, IsCandidate builtinSignals code.toList language →
      language = "sql" ∧ fires := by
    rintro language (⟨s, hs, rfl, hpos⟩ | ⟨points, hmarked⟩)
    · obtain ⟨i, hi, hsignal⟩ := h.exists_spared hs hpos
      exact ⟨hlanguage i hi s hsignal, hfires.mpr ⟨i, hi, s, hsignal, hpos⟩⟩
    · cases h.override?_eq_none.symm.trans hmarked
  rw [classify]
  rw [standard_eq] at hclassified ⊢
  refine hclassified.unique ?_
  cases fires with
  | false =>
    refine .unmatched h.not_blank fun language hcandidate => ?_
    cases (hsole language hcandidate).2
  | true =>
    obtain ⟨i, hi, s, hsignal, hpos⟩ := hfires.mp rfl
    have hcandidate : IsCandidate builtinSignals code.toList "sql" :=
      .inl ⟨s, List.mem_of_getElem? hsignal, hlanguage i hi s hsignal, hpos⟩
    have hname : Catalog.builtin.displayName "sql" = some "SQL" := by
      have hreflects := History.reflects_builtin []
      rw [Catalog.replay, List.foldl_nil] at hreflects
      rw [hreflects.displayName_eq]
      decide +kernel
    have hwins : Wins builtinSignals code.toList "sql" :=
      .of_sole hcandidate fun language hother => (hsole language hother).1
    have hwon : Classified Catalog.builtin builtinSignals code
        ⟨"sql", (Catalog.builtin.displayName "sql").getD "sql"⟩ := .won h.not_blank hwins
    rwa [hname] at hwon

/-! ## Letters that are not told from letters of ASCII -/

/-- The long `ſ` and the Kelvin sign, which are `s` and `k` if the case is left out of account. -/
def isFolded (c : Char) : Bool := c == 'ſ' || c == '\u212a'

/-- A set of ASCII characters with two folded letters has no other characters beyond ASCII than
these. -/
theorem contains_iff_isFolded (hset : ∀ b ∈ set.blocks, b.last < 128 ∨ b = ⟨0x17f, 0x17f⟩ ∨
    b = ⟨0x212a, 0x212a⟩) (hfolded : set.contains 'ſ' ∧ set.contains '\u212a') (hc : ¬IsAscii c) :
    set.contains c = isFolded c := by
  rw [Bool.eq_iff_iff, isFolded, Bool.or_eq_true, beq_iff_eq, beq_iff_eq]
  constructor
  · intro h
    obtain ⟨b, hb, hfirst, hlast⟩ := Block.exists_of_holds h
    rcases hset b hb with hascii | rfl | rfl
    · exact absurd (Nat.lt_of_le_of_lt hlast hascii) hc
    · exact .inl (Char.toNat_inj.mp (Nat.le_antisymm hlast hfirst))
    · exact .inr (Char.toNat_inj.mp (Nat.le_antisymm hlast hfirst))
  · rintro (rfl | rfl)
    · exact hfolded.1
    · exact hfolded.2

section

open Pattern.Regex

/-- The characters of a table's name. -/
def tableNameSet : CharSet := asciiWordSet.union (.ofList ['ſ', '\u212a'])

/-- The characters of what is selected. -/
def columnNameSet : CharSet := asciiWordSet.union (.ofList ['ſ', '\u212a', '*'])

theorem contains_tableNameSet (hc : ¬IsAscii c) : tableNameSet.contains c = isFolded c :=
  contains_iff_isFolded (by decide) (by decide) hc

theorem contains_columnNameSet (hc : ¬IsAscii c) : columnNameSet.contains c = isFolded c :=
  contains_iff_isFolded (by decide) (by decide) hc

/-- The expression of the signal for tables. -/
def tableRegex : Regex := series (caselessLetters "CREATE" ++ (space ++ (caselessLetters "TABLE" ++
  (space ++ several tableNameSet))))

/-- The expression of the signal for selections. -/
def selectionRegex : Regex := series (caselessLetters "SELECT" ++ (space ++ (several columnNameSet ++
  (space ++ (caselessLetters "FROM" ++ (space ++ several tableNameSet))))))

/-- A word of SQL and the blank behind it. -/
theorem ways_keyword (word : String) (l : List Regex) {x : Side} (hrest : inkAhead rest)
    (hword : word.toList.all fun c =>
      (CharSet.ofList ([c, c.toLower] ++ if c = 'S' then ['ſ'] else [])).contains c) :
    (series (caselessLetters word ++ (space ++ l))).ways ⟨x, word.toList ++ ' ' :: rest⟩ =
      (series l).ways ⟨.ofChar ' ', rest⟩ := by
  obtain ⟨y, hy⟩ := ways_row_append (List.all_eq_true.mp hword) (space ++ l) x (' ' :: rest)
  exact hy.trans (ways_space_append hrest)

/-- A foreign name begins the name of a table exactly if its first letter folds to ASCII. -/
theorem IsForeign.ways_tableName (h : IsForeign name) {x : Side} :
    (series (several tableNameSet)).ways ⟨x, name⟩ ≠ [] ↔ name.head?.any isFolded := by
  obtain ⟨c, rest, rfl⟩ := List.exists_cons_of_ne_nil h.nonempty
  rw [ways_several_ne_nil_iff, contains_tableNameSet (h.foreign c (List.mem_cons_self ..))]
  rfl

theorem IsForeign.ways_tableRegex (h : IsForeign name) {x : Side} :
    tableRegex.ways ⟨x, "CREATE TABLE ".toList ++ name⟩ ≠ [] ↔ name.head?.any isFolded := by
  have htext : "CREATE TABLE ".toList ++ name =
      "CREATE".toList ++ ' ' :: ("TABLE".toList ++ ' ' :: name) := rfl
  have hname : inkAhead name := by simpa using h.inkAhead_append []
  rw [htext, tableRegex, ways_keyword "CREATE" _ rfl (by decide),
    ways_keyword "TABLE" _ hname (by decide), h.ways_tableName]

/-- The signal for a selection takes a foreign name for columns only as a whole. -/
theorem IsForeign.ways_selectionRegex (h : IsForeign name) {x : Side} :
    selectionRegex.ways ⟨x, "SELECT ".toList ++ (name ++ (" FROM ".toList ++ name))⟩ ≠ [] ↔
      name.all isFolded := by
  have htext : "SELECT ".toList ++ (name ++ (" FROM ".toList ++ name)) =
      "SELECT".toList ++ ' ' :: (name ++ ' ' :: ("FROM".toList ++ ' ' :: name)) := rfl
  have hname : inkAhead name := by simpa using h.inkAhead_append []
  have hall : name.all columnNameSet.contains = name.all isFolded := by
    rw [Bool.eq_iff_iff, List.all_eq_true, List.all_eq_true]
    exact forall₂_congr fun c hc => by rw [contains_columnNameSet (h.foreign c hc)]
  rw [htext, selectionRegex, ways_keyword "SELECT" _ (h.inkAhead_append _) (by decide),
    ways_several_space_append (by decide) h.nonempty h.not_isWhiteSpace rfl, hall,
    ways_keyword "FROM" _ hname (by decide)]
  split
  · next hfolded =>
    obtain ⟨c, rest, rfl⟩ := List.exists_cons_of_ne_nil h.nonempty
    rw [h.ways_tableName]
    exact iff_of_true (List.all_eq_true.mp hfolded c (List.mem_cons_self ..)) hfolded
  · next hother => simpa using hother

end

/-! ## Declarations -/

/-- What stands before and after a name where it is declared, in other languages than SQL. -/
def frames : List (String × String) := [
  ("let mut ", ""), ("package ", ""), ("namespace ", ""), ("import ", ""), ("public class ", ""),
  ("$", " ="), ("function ", "() \x7b"), ("def ", "():")]

/-- No signal finds anything in the plain characters of a frame. -/
theorem isMute_frames : ∀ frame ∈ frames,
    IsMute [] ((frame.1.toList ++ frame.2.toList).filter isPlain) := by
  decide +kernel

theorem isMute_sql : IsMute [19] ("CREATE TABLE ".toList.filter isPlain) ∧
    IsMute [18] ("SELECT  FROM ".toList.filter isPlain) := by
  decide +kernel

/-- Behind the first characters there is no match for the signals of SQL either. -/
theorem isBarred_sql : IsBarred tableRegex ("REATE TABLE ".toList.filter isPlain) ∧
    IsBarred selectionRegex ("LECT  FROM ".toList.filter isPlain) := by
  decide +kernel

namespace IsForeign

variable (h : IsForeign name)
include h

/-- The signal for a table finds something exactly if the name begins with a folded letter. -/
theorem count_table_pos_iff :
    0 < (Automaton.ofRegex tableRegex).count ("CREATE TABLE ".toList ++ name) ↔
      name.head?.any isFolded := by
  have hsteady : tableRegex.isSteady := by decide
  have hrest : IsBarred tableRegex (("REATE TABLE ".toList ++ name).filter isPlain) := by
    rw [List.filter_append, h.filter_isPlain, List.append_nil]
    exact isBarred_sql.1
  rw [← h.ways_tableRegex (x := .edge)]
  exact Automaton.count_cons_pos_iff hsteady hrest.ways_eq_nil

/-- The signal for a selection finds something exactly if all letters of the name fold to ASCII. -/
theorem count_selection_pos_iff :
    0 < (Automaton.ofRegex selectionRegex).count
      ("SELECT ".toList ++ (name ++ (" FROM ".toList ++ name))) ↔ name.all isFolded := by
  have hsteady : selectionRegex.isSteady := by decide
  have hrest : IsBarred selectionRegex
      (("LECT ".toList ++ (name ++ (" FROM ".toList ++ name))).filter isPlain) := by
    simp only [List.filter_append, h.filter_isPlain, List.nil_append, List.append_nil]
    exact isBarred_sql.2
  -- a match cannot begin with the `E` of the word, and behind it too much of the word is missing
  have hsecond : ∀ p ∈ placesFrom (.ofChar 'S')
      ("ELECT ".toList ++ (name ++ (" FROM ".toList ++ name))), selectionRegex.ways p = [] :=
    List.forall_mem_cons.mpr ⟨rfl, hrest.ways_eq_nil⟩
  rw [← h.ways_selectionRegex (x := .edge)]
  exact Automaton.count_cons_pos_iff hsteady hsecond

end IsForeign

namespace Detector

/-- A text that is in SQL if the signal at one place fires. -/
theorem classify_of_isMute_singleton {code : String} {i : Nat} {s : Signal} {fires : Bool}
    (h : IsMute [i] (code.toList.filter isPlain)) (hs : builtinSignals[i]? = some s)
    (hlanguage : s.language = "sql") (hfires : 0 < s.count code.toList ↔ fires) :
    standard.classify code = sqlOrText fires := by
  refine classify_of_isMute h ?_ ?_
  · simpa [hs] using hlanguage
  · simpa [hs] using hfires.symm

/-- A frame with a foreign name is plain text. -/
theorem classify_frame {name : String} (h : IsForeign name.toList) {frame : String × String}
    (hframe : frame ∈ frames) :
    standard.classify (frame.1 ++ name ++ frame.2) = ⟨"text", "Text"⟩ := by
  have hmute : IsMute [] ((frame.1 ++ name ++ frame.2).toList.filter isPlain) := by
    simpa [h.filter_isPlain] using isMute_frames frame hframe
  change _ = sqlOrText false
  exact classify_of_isMute hmute (by simp) (by simp)

/-- A table with a foreign name is of the query language or plain text, by the first letter of the
name. -/
theorem classify_table {name : String} (h : IsForeign name.toList) :
    standard.classify ("CREATE TABLE " ++ name) = sqlOrText (name.toList.head?.any isFolded) := by
  have hmute : IsMute [19] (("CREATE TABLE " ++ name).toList.filter isPlain) := by
    rw [String.toList_append, List.filter_append, h.filter_isPlain, List.append_nil]
    exact isMute_sql.1
  have hsignal : builtinSignals[19]? = some (builtinSpecs[19].signalOf tableRegex) :=
    getElem?_builtinSignals (by decide) (by decide)
  refine classify_of_isMute_singleton hmute hsignal rfl ?_
  rw [String.toList_append]
  exact h.count_table_pos_iff

/-- A selection with a foreign name is of the query language or plain text, by all letters of the
name. -/
theorem classify_selection {name : String} (h : IsForeign name.toList) :
    standard.classify ("SELECT " ++ name ++ " FROM " ++ name) =
      sqlOrText (name.toList.all isFolded) := by
  have hmute : IsMute [18] (("SELECT " ++ name ++ " FROM " ++ name).toList.filter isPlain) := by
    simp only [String.toList_append, List.filter_append, h.filter_isPlain, List.append_nil]
    exact isMute_sql.2
  have hsignal : builtinSignals[18]? = some (builtinSpecs[18].signalOf selectionRegex) :=
    getElem?_builtinSignals (by decide) (by decide)
  refine classify_of_isMute_singleton hmute hsignal rfl ?_
  simp only [String.toList_append, List.append_assoc]
  exact h.count_selection_pos_iff

/-- **What is declared by a name in foreign letters.** It is in no language that shows, but for SQL:
a table shows if its name begins with the long `ſ` or the Kelvin sign, and a selection from a table
of the same name does if the name has no other letters. -/
theorem standard_reads_foreign_names {name : String} (h : IsForeign name.toList) :
    standard? = .ok standard ∧
    (∀ frame ∈ frames, standard.classify (frame.1 ++ name ++ frame.2) = ⟨"text", "Text"⟩) ∧
    standard.classify ("CREATE TABLE " ++ name) = sqlOrText (name.toList.head?.any isFolded) ∧
    standard.classify ("SELECT " ++ name ++ " FROM " ++ name) =
      sqlOrText (name.toList.all isFolded) :=
  ⟨by rw [standard?_eq, standard_eq], fun _ hframe => classify_frame h hframe, classify_table h,
    classify_selection h⟩

/-- Two letters from the first row of the table. -/
theorem alphabetic_long_s : ∀ c ∈ ['ſ', 'é'], Unicode.Property.alphabetic.contains c := by
  rw [Unicode.Property.alphabetic]
  intro c hc
  refine CharSet.contains_ofTable_cons ?_
  revert c
  exact List.all_eq_true.mp (by decide +kernel)

/-- A name that begins with the long `ſ` and goes on with another letter. -/
theorem standard_reads_foreign_names_mixed :
    IsForeign "ſé".toList ∧
      standard.classify ("def " ++ "ſé" ++ "():") = ⟨"text", "Text"⟩ ∧
      standard.classify ("CREATE TABLE " ++ "ſé") = ⟨"sql", "SQL"⟩ ∧
      standard.classify ("SELECT " ++ "ſé" ++ " FROM " ++ "ſé") = ⟨"text", "Text"⟩ := by
  have h : IsForeign "ſé".toList :=
    ⟨by decide, alphabetic_long_s, List.all_iff_forall_prop.mp (by decide)⟩
  obtain ⟨-, hframes, htable, hselection⟩ := standard_reads_foreign_names h
  exact ⟨h, hframes ("def ", "():") (by decide), htable, hselection⟩

/-- The long `ſ` is a foreign letter, and alone it names a table. -/
theorem foreign_name_shows :
    IsForeign "ſ".toList ∧ standard.classify ("CREATE TABLE " ++ "ſ") = ⟨"sql", "SQL"⟩ := by
  have h : IsForeign "ſ".toList :=
    ⟨by decide, fun c hc => alphabetic_long_s c (List.mem_append_left ['é'] hc),
      List.all_iff_forall_prop.mp (by decide)⟩
  exact ⟨h, classify_table h⟩

end Detector

end Polyglot
