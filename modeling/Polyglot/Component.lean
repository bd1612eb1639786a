import Polyglot.Text.Utf8

/-!
# Component markup

A coarse test for scripts that contain markup of components. A component shows by a React import or
reference, or by a tag that begins with a capital letter. Marks of typing anywhere in the text
decide between the typed and the untyped dialect.
-/

namespace Polyglot.Component

/-- The text contains the word. -/
def hasWord (word : List Char) : List Char → Bool
  | [] => word.isEmpty
  | c :: rest => word.isPrefixOf (c :: rest) || hasWord word rest

/-- The byte of a capital ASCII letter. -/
def isCapital (b : UInt8) : Bool := 'A'.toUInt8 ≤ b && b ≤ 'Z'.toUInt8

/-- The bytes of the text have a `<` with a capital letter after it. -/
def hasTag (text : List Char) : Bool :=
  let bytes := Text.bytesOf (.ofList text)
  (bytes.zip bytes.tail).any fun pair => pair.1 == '<'.toUInt8 && isCapital pair.2

/-- The text looks like a component. -/
def isComponent (code : List Char) : Bool :=
  hasWord "import React".toList code || hasWord "React.".toList code || hasTag code

/-- The text has marks of typing. -/
def isTyped (code : List Char) : Bool :=
  hasWord ": ".toList code || hasWord "interface ".toList code || hasWord "type ".toList code

/-- The dialect that a component is written in, with the points that this gives to it. -/
def override? (code : List Char) : Option (String × Nat) :=
  if !isComponent code then none
  else if isTyped code then some ("tsx", 10)
  else some ("jsx", 8)

/-- Markup is for one of two dialects, each with its points. -/
theorem override?_eq_some {code : List Char} {language : String} {points : Nat}
    (h : override? code = some (language, points)) :
    language = "tsx" ∧ points = 10 ∨ language = "jsx" ∧ points = 8 := by
  rw [override?] at h
  split at h
  · cases h
  · split at h <;> cases h
    · exact .inl ⟨rfl, rfl⟩
    · exact .inr ⟨rfl, rfl⟩

end Polyglot.Component
