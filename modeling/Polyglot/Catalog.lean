import Polyglot.BuildError
import Polyglot.Language
import Std.Data.HashMap

/-!
# The catalog of languages

The languages that a detector knows, in the order in which they first came, with an index by
identifier and one by extension. An extension belongs to one language at a time: the last one that
claimed it.
-/

namespace Polyglot

/-- The known languages. `byId` and `byExtension` give the places of languages in `entries`. -/
structure Catalog where
  entries : Array Language := #[]
  byId : Std.HashMap String Nat := {}
  byExtension : Std.HashMap String Nat := {}
deriving Inhabited

namespace Catalog

def empty : Catalog := {}

def size (c : Catalog) : Nat := c.entries.size

def isEmpty (c : Catalog) : Bool := c.entries.isEmpty

/-- Gives the language with the identifier a new name, or adds it without extensions if it is new.
Returns its place as well. -/
def rename (c : Catalog) (id name : String) : Catalog × Nat :=
  match c.byId[id]? with
  | some i => ({ c with entries := c.entries.modify i fun l => { l with name := name } }, i)
  | none =>
    ({ c with
        entries := c.entries.push { id := id, name := name }
        byId := c.byId.insert id c.entries.size },
      c.entries.size)

/-- Takes an extension out of a language. -/
def release (ext : String) (l : Language) : Language :=
  { l with extensions := l.extensions.filter (· != ext) }

/-- Puts an extension at the end of a language's list, unless the list has it. -/
def adopt (ext : String) (l : Language) : Language :=
  if l.extensions.contains ext then l else { l with extensions := l.extensions ++ [ext] }

/-- Gives an extension to the language at the place `i`. A former owner loses it. An extension of
which nothing is left without its dots is passed over. -/
def claim (i : Nat) (c : Catalog) (ext : String) : Catalog :=
  let ext := normalizeExtension ext
  if ext.isEmpty then c
  else
    let entries := match c.byExtension[ext]? with
      | some owner => if owner = i then c.entries else c.entries.modify owner (release ext)
      | none => c.entries
    { c with
      entries := entries.modify i (adopt ext)
      byExtension := c.byExtension.insert ext i }

/-- Adds a language whose identifier is known to be valid. If the identifier is known, the language
takes the new name and gains the extensions. -/
def upsert (c : Catalog) (l : Language) : Catalog :=
  let (c, i) := c.rename l.id l.name
  l.extensions.foldl (claim i) c

/-- Adds a language, or updates it if its identifier is known. -/
def insert (c : Catalog) (l : Language) : Except BuildError Catalog :=
  if isLanguageId l.id then .ok (c.upsert l) else .error (.invalidLanguageId l.id)

/-- Adds several languages in order, up to the first that is refused. -/
def insertAll (c : Catalog) : List Language → Except BuildError Catalog
  | [] => .ok c
  | l :: rest => (c.insert l).bind (insertAll · rest)

/-- The language to which the extension of a file name belongs. -/
def resolve (c : Catalog) (fileName : String) : Option String :=
  let ext := extensionOf fileName
  if ext.isEmpty then none
  else c.byExtension[ext]?.bind fun i => c.entries[i]?.map (·.id)

def displayName (c : Catalog) (id : String) : Option String :=
  c.byId[id]?.bind fun i => c.entries[i]?.map (·.name)

/-- The name for display, or the identifier itself if it is not known. -/
def nameOrId (c : Catalog) (id : String) : String := (c.displayName id).getD id

end Catalog

end Polyglot
