import Polyglot.Detector

/-!
# The built-in signals as expressions

What the patterns of the built-in signals are read as (`regexOf_builtinSpecs`), part by part. The
signals are readied from these expressions (`Detector.standard?_eq`), so that what is said about
their matches can be said about the expressions.
-/

namespace Polyglot

open Unicode (CharSet whiteSpace)

/-! ## Parts of expressions -/

namespace Pattern.Regex

/-- Several expressions, one after the other. -/
def series : List Regex → Regex
  | [] => empty
  | [x] => x
  | x :: rest => cat x (series rest)

/-- One character of a set. -/
def oneOf (set : CharSet) : List Regex := [one set]

/-- Any number of characters of a set. -/
def many (set : CharSet) : List Regex := [star true (one set)]

/-- One character of a set, or more. -/
def several (set : CharSet) : List Regex := [plus true (one set)]

/-- The characters of a word. -/
def letters (word : String) : List Regex := word.toList.map fun c => one (.single c)

/-- The characters of a word in capital letters, in either case. The long `ſ` counts as an `S`. -/
def caselessLetters (word : String) : List Regex := word.toList.map fun c =>
  one (.ofList ([c, c.toLower] ++ if c = 'S' then ['ſ'] else []))

def blanks : List Regex := many whiteSpace

def space : List Regex := several whiteSpace

/-- A name in ASCII. -/
def name : List Regex := several asciiWordSet

/-- A name in which the letters may be in either case, so that the long `ſ` and the Kelvin sign
count as letters. -/
def caselessName : List Regex := several (asciiWordSet.union (.ofList ['ſ', '\u212a']))

def quote : List Regex := oneOf (.ofList ['\'', '"'])

/-- Anything but a character. -/
def allBut (c : Char) : CharSet := (CharSet.single c).complement

/-- A pair of parentheses, with no closing one inside. -/
def arguments : List Regex := letters "(" ++ many (allBut ')') ++ letters ")"

end Pattern.Regex

open Pattern (Regex asciiWordSet regexOf)

/-! ## The built-in signals -/

section

open Pattern.Regex

/-- The expressions of the built-in signals, in order. -/
def builtinRegexes : List Regex := [
  series (letters "import" ++ space ++ [opt true (one (.single '{'))] ++
    many ((asciiWordSet.union whiteSpace).union (.single ',')) ++ [opt true (one (.single '}'))] ++
    space ++ letters "from" ++ space ++ quote ++
    several (asciiWordSet.union (.ofList ['/', '@', '-'])) ++ quote),
  series (letters "function" ++ space ++ name ++ blanks ++ arguments ++ blanks ++ letters "\x7b"),
  series (letters "const" ++ space ++ name ++ blanks ++ letters "=" ++ blanks ++ arguments ++
    blanks ++ letters "=>"),
  series (letters "import" ++ space ++ letters "React"),
  series (letters "<" ++ oneOf (.range 'A' 'Z') ++
    many ((CharSet.range 'A' 'Z').union (.range 'a' 'z')) ++ space ++ many (allBut '>') ++
    letters ">"),
  series (letters "interface" ++ space ++ name ++ blanks ++ letters "\x7b"),
  series (letters ":" ++ blanks ++ name ++ letters "[]"),
  series (letters "<" ++ name ++ many (allBut '>') ++ letters ">" ++ many .all ++ letters "</" ++
    name ++ letters ">"),
  series (letters "class=\"" ++ many (allBut '"') ++ letters "\""),
  series (letters "def" ++ space ++ name ++ blanks ++ arguments ++ letters ":"),
  series (letters "import" ++ space ++ several (asciiWordSet.union (.single '.'))),
  series (letters "public" ++ space ++ letters "class" ++ space ++ name),
  series (letters "public" ++ space ++ letters "static" ++ space ++ letters "void" ++ space ++
    letters "main"),
  series (letters "#include" ++ space ++ letters "<" ++
    several (asciiWordSet.union (.single '.')) ++ letters ">"),
  series (letters "int" ++ space ++ letters "main" ++ blanks ++ letters "(" ++ blanks ++
    letters ")"),
  series (letters "namespace" ++ space ++ name),
  series (letters "func" ++ space ++ name ++ blanks ++ arguments ++ blanks ++ letters "\x7b"),
  series (letters "package" ++ space ++ name),
  series (caselessLetters "SELECT" ++ space ++
    several (asciiWordSet.union (.ofList ['ſ', '\u212a', '*'])) ++ space ++
    caselessLetters "FROM" ++ space ++ caselessName),
  series (caselessLetters "CREATE" ++ space ++ caselessLetters "TABLE" ++ space ++ caselessName),
  series (letters "$" ++ name ++ blanks ++ letters "="),
  series (letters "<?php"),
  series ([assert .textStart] ++ blanks ++ letters "\x7b" ++ many .all ++ letters "\x7d" ++ blanks ++
    [assert .textEnd]),
  series (letters "fn" ++ space ++ name ++ blanks ++ arguments ++ blanks ++ letters "->"),
  series (letters "let" ++ space ++ letters "mut" ++ space ++ name),
  series (letters "require " ++ quote ++ several (asciiWordSet.union (.ofList ['/', '.', '-'])) ++
    quote),
  series (letters "def" ++ space ++ name ++
    [opt true (series (letters "(" ++ several (allBut '\n') ++ letters ")"))] ++ space ++
    letters "do")]

end

/-- What a pattern is read as, by its characters. -/
def regexOfChars (pattern : List Char) (caseInsensitive : Bool) : Except Pattern.Fault Regex :=
  match (Pattern.Expr.read? pattern).bind fun e =>
      e.meaning? { caseInsensitive := caseInsensitive } with
  | none => .error .malformed
  | some (x, _) => x.checked

theorem regexOf_ofList (pattern : List Char) (caseInsensitive : Bool) :
    regexOf (.ofList pattern) caseInsensitive = regexOfChars pattern caseInsensitive := by
  rw [regexOf, String.toList_ofList]
  rfl

/-- The patterns are read one by one. -/
theorem map_regexOf_cons {pattern : List Char} {language : String} {weight : UInt32}
    {caseInsensitive : Bool} {r : Regex} {specs : List SignalSpec} {rs : List Regex}
    (h : (regexOfChars pattern caseInsensitive).toOption = some r)
    (hrest : (specs.map fun s => (regexOf s.pattern s.caseInsensitive).toOption) = rs.map some) :
    ((⟨.ofList pattern, language, weight, caseInsensitive⟩ :: specs).map
      fun s => (regexOf s.pattern s.caseInsensitive).toOption) = (r :: rs).map some := by
  rw [List.map_cons, List.map_cons, hrest, regexOf_ofList, h]

/-- The patterns are read as the expressions. -/
theorem regexOf_builtinSpecs :
    (builtinSpecs.map fun s => (regexOf s.pattern s.caseInsensitive).toOption) =
      builtinRegexes.map some := by
  -- each pattern is written out to its characters, which are quick to read
  repeat refine map_regexOf_cons (by decide +kernel) ?_
  rfl

/-! ## The built-in signals -/

namespace SignalSpec

/-- The signal of a declaration whose pattern is read as the expression. -/
def signalOf (s : SignalSpec) (r : Regex) : Signal := ⟨s.pattern, s.language, s.weight, .ofRegex r⟩

variable {s : SignalSpec} {ss : List SignalSpec} {r : Regex} {rs : List Regex}

/-- A declaration that is in order gives the signal with the expression of its pattern. -/
theorem compile_of_regexOf (hid : isLanguageId s.language) (hweight : s.weight ≠ 0)
    (hr : (regexOf s.pattern s.caseInsensitive).toOption = some r) :
    s.compile = .ok (s.signalOf r) := by
  cases hread : regexOf s.pattern s.caseInsensitive with
  | error fault =>
    rw [hread] at hr
    cases hr
  | ok r' =>
    rw [hread] at hr
    obtain rfl := Option.some.inj hr
    simp only [compile, hid, hweight, Pattern.compile, hread, Except.map, Bool.not_true,
      Bool.false_eq_true, if_false]
    rfl

/-- Declarations that are in order give signals with the expressions that their patterns are read
as. -/
theorem compileAll_of_regexOf (h : ∀ s ∈ ss, isLanguageId s.language ∧ s.weight ≠ 0)
    (hrs : (ss.map fun s => (regexOf s.pattern s.caseInsensitive).toOption) = rs.map some) :
    compileAll ss = .ok (List.zipWith signalOf ss rs) := by
  induction ss generalizing rs with
  | nil => rfl
  | cons s rest ih =>
    cases rs with
    | nil => cases hrs
    | cons r rs =>
      obtain ⟨hs, hrest⟩ := List.forall_mem_cons.mp h
      rw [List.map_cons, List.map_cons] at hrs
      obtain ⟨hr, hrs⟩ := List.cons.inj hrs
      rw [compileAll, compile_of_regexOf hs.1 hs.2 hr, ih hrest hrs]
      rfl

end SignalSpec

/-- The signals that are readied from the built-in declarations. -/
def builtinSignals : List Signal := List.zipWith SignalSpec.signalOf builtinSpecs builtinRegexes

/-- The built-in declarations are in order. -/
theorem builtinSpecs_checked : ∀ s ∈ builtinSpecs, isLanguageId s.language ∧ s.weight ≠ 0 := by
  decide +kernel

/-- The built-in declarations give the built-in signals. -/
theorem compileAll_builtinSpecs : SignalSpec.compileAll builtinSpecs = .ok builtinSignals :=
  SignalSpec.compileAll_of_regexOf builtinSpecs_checked regexOf_builtinSpecs

theorem length_builtinSignals : builtinSignals.length = 27 := rfl

theorem getElem?_builtinSignals {i : Nat} (h : i < builtinSpecs.length)
    (h' : i < builtinRegexes.length) :
    builtinSignals[i]? = some (builtinSpecs[i].signalOf builtinRegexes[i]) := by
  rw [builtinSignals, List.getElem?_zipWith, List.getElem?_eq_getElem h,
    List.getElem?_eq_getElem h']
  rfl

theorem exists_of_getElem?_builtinSignals {i : Nat} {s : Signal}
    (h : builtinSignals[i]? = some s) :
    ∃ (spec : SignalSpec) (r : Regex), builtinRegexes[i]? = some r ∧ s = spec.signalOf r := by
  obtain ⟨spec, r, -, hr, rfl⟩ := List.getElem?_zipWith_eq_some.mp h
  exact ⟨spec, r, hr, rfl⟩

/-- A built-in signal comes of a built-in declaration and has one of the expressions. -/
theorem exists_of_mem_builtinSignals {s : Signal} (h : s ∈ builtinSignals) :
    ∃ spec ∈ builtinSpecs, ∃ r ∈ builtinRegexes, s = spec.signalOf r := by
  obtain ⟨i, hi, rfl⟩ := List.getElem_of_mem h
  exact ⟨_, List.getElem_mem _, _, List.getElem_mem _, List.getElem_zipWith⟩

namespace Detector

/-- The standard detector can be built. -/
theorem standard?_eq : standard? = .ok ⟨.builtin, builtinSignals⟩ := by
  rw [standard?, compileAll_builtinSpecs]
  rfl

/-- The standard detector has the built-in languages and signals. -/
theorem standard_eq : standard = ⟨.builtin, builtinSignals⟩ := by
  rw [standard, standard?_eq]
  rfl

theorem getElem?_standard {i : Nat} (h : i < builtinSpecs.length) (h' : i < builtinRegexes.length) :
    standard.signals[i]? = some (builtinSpecs[i].signalOf builtinRegexes[i]) := by
  rw [standard_eq]
  exact getElem?_builtinSignals h h'

end Detector

end Polyglot
