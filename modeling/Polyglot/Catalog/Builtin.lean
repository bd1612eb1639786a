import Polyglot.Catalog

/-!
# The built-in languages
-/

namespace Polyglot

def builtinLanguages : List Language := [
  ⟨"javascript", "JavaScript", ["js", "mjs", "cjs"]⟩,
  ⟨"jsx", "JSX", ["jsx"]⟩,
  ⟨"typescript", "TypeScript", ["ts", "mts", "cts"]⟩,
  ⟨"tsx", "TSX", ["tsx"]⟩,
  ⟨"python", "Python", ["py", "pyi"]⟩,
  ⟨"java", "Java", ["java"]⟩,
  ⟨"c", "C", ["c", "h"]⟩,
  ⟨"cpp", "C++", ["cpp", "cc", "cxx", "hpp"]⟩,
  ⟨"csharp", "C#", ["cs"]⟩,
  ⟨"ruby", "Ruby", ["rb"]⟩,
  ⟨"rust", "Rust", ["rs"]⟩,
  ⟨"go", "Go", ["go"]⟩,
  ⟨"php", "PHP", ["php"]⟩,
  ⟨"html", "HTML", ["html", "htm"]⟩,
  ⟨"css", "CSS", ["css"]⟩,
  ⟨"json", "JSON", ["json"]⟩,
  ⟨"markdown", "Markdown", ["md", "markdown"]⟩,
  ⟨"sql", "SQL", ["sql"]⟩,
  ⟨textId, "Plain Text", []⟩]

/-- The catalog of the built-in languages. -/
def Catalog.builtin : Catalog := builtinLanguages.foldl Catalog.upsert .empty

end Polyglot
