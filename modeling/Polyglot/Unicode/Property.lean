import Polyglot.Unicode.WhiteSpace
import Polyglot.Unicode.GeneralCategory
import Polyglot.Unicode.Script
import Polyglot.Unicode.ScriptExtension
import Polyglot.Unicode.BinaryProperty

/-!
# Character properties by name

Patterns name sets of characters as `Lu`, `Greek` or `Script=Greek`. Names are compared loosely:
case, blanks, hyphens, underscores and a leading `is` make no difference.
-/

namespace Polyglot.Unicode

/-- The form in which property names are compared. A name that would come out as `c` keeps its
`is`, so that it does not turn into the general category of that letter. -/
def looseName (name : String) : String :=
  let keep := fun (cs : List Char) =>
    (cs.filter fun c => c.toNat < 128 && c != ' ' && c != '_' && c != '-').map Char.toLower
  let cs := name.toList
  match cs.map Char.toLower with
  | 'i' :: 's' :: _ =>
    let rest := keep (cs.drop 2)
    if rest == ['c'] then "isc" else String.ofList rest
  | _ => String.ofList (keep cs)

/-- The set that a table has under a name. -/
def findSet (table : List (List String × CharSet)) (name : String) : Option CharSet :=
  (table.find? fun row => row.1.contains name).map Prod.snd

/-- Every character that has been assigned. -/
def assigned : CharSet := unassigned.complement

def asciiSet : CharSet := .range (Char.ofNat 0) (Char.ofNat 127)

/-- The general categories and the three sets that go by the same property. -/
def generalCategory? (name : String) : Option CharSet :=
  match name with
  | "any" => some .all
  | "assigned" => some assigned
  | "ascii" => some asciiSet
  | _ => findSet generalCategories name

/-- A property with two values. -/
def binaryProperty? (name : String) : Option CharSet :=
  match name with
  | "wspace" | "whitespace" | "space" => some whiteSpace
  | _ => findSet Property.all name

/-- The set of a lone name: a property with two values, a general category or a script, whichever
has the name first. The names `cf`, `sc` and `lc` belong to general categories. -/
def setOfName (name : String) : Option CharSet :=
  let name := looseName name
  let binary := if name == "cf" || name == "sc" || name == "lc" then none else binaryProperty? name
  binary <|> generalCategory? name <|> findSet Script.all name

/-- The set of the characters whose property has the value. -/
def setOfValue (property value : String) : Option CharSet :=
  let value := looseName value
  match looseName property with
  | "gc" | "generalcategory" => generalCategory? value
  | "sc" | "script" => findSet Script.all value
  | "scx" | "scriptextensions" => findSet ScriptExtension.all value
  | _ => none

/-! ### Sets built from several properties -/

/-- The characters of words: letters and their marks, decimal digits, connectors such as the
underscore, and the joiners. -/
def wordSet : CharSet :=
  .unions [Property.alphabetic, mark, decimalNumber, connectorPunctuation, Property.joinControl]

/-- The characters that leave no mark of their own on paper: controls, formats, private and
unassigned ones, and every separator but the plain blank. -/
def unprintable : CharSet := (CharSet.unions [other, separator]).diff (.single ' ')

end Polyglot.Unicode
