import Polyglot.Unicode.CharSet

/-!
# White space

The characters with the property White_Space. They decide whether a text is blank, what the class
`\s` of a pattern accepts, and what a pattern in verbose mode skips.
-/

namespace Polyglot.Unicode

def whiteSpace : CharSet := ⟨[
  ⟨0x9, 0xd⟩, ⟨0x20, 0x20⟩, ⟨0x85, 0x85⟩, ⟨0xa0, 0xa0⟩, ⟨0x1680, 0x1680⟩, ⟨0x2000, 0x200a⟩,
  ⟨0x2028, 0x2029⟩, ⟨0x202f, 0x202f⟩, ⟨0x205f, 0x205f⟩, ⟨0x3000, 0x3000⟩]⟩

def isWhiteSpace (c : Char) : Bool := whiteSpace.contains c

end Polyglot.Unicode
