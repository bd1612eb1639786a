import Polyglot.Signal

/-!
# The built-in signals

Word characters are spelled out as `[0-9A-Za-z_]`, so that identifiers are taken in ASCII only.
-/

namespace Polyglot

def builtinSpecs : List SignalSpec := [
  ⟨"import\\s+[\x7b]?[0-9A-Za-z_\\s,]*[\x7d]?\\s+from\\s+['\"][0-9A-Za-z_/@-]+['\"]",
    "javascript", 5, false⟩,
  ⟨"function\\s+[0-9A-Za-z_]+\\s*\\([^)]*\\)\\s*\\\x7b", "javascript", 3, false⟩,
  ⟨"const\\s+[0-9A-Za-z_]+\\s*=\\s*\\([^)]*\\)\\s*=>", "javascript", 4, false⟩,
  ⟨"import\\s+React", "jsx", 6, false⟩,
  ⟨"<[A-Z][A-Za-z]*\\s+[^>]*>", "jsx", 5, false⟩,
  ⟨"interface\\s+[0-9A-Za-z_]+\\s*\\\x7b", "typescript", 6, false⟩,
  ⟨":\\s*[0-9A-Za-z_]+\\[\\]", "typescript", 5, false⟩,
  ⟨"<[0-9A-Za-z_]+[^>]*>[\\s\\S]*</[0-9A-Za-z_]+>", "html", 3, false⟩,
  ⟨"class=\"[^\"]*\"", "html", 3, false⟩,
  ⟨"def\\s+[0-9A-Za-z_]+\\s*\\([^)]*\\):", "python", 6, false⟩,
  ⟨"import\\s+[0-9A-Za-z_.]+", "python", 4, false⟩,
  ⟨"public\\s+class\\s+[0-9A-Za-z_]+", "java", 6, false⟩,
  ⟨"public\\s+static\\s+void\\s+main", "java", 7, false⟩,
  ⟨"#include\\s+<[0-9A-Za-z_.]+>", "cpp", 6, false⟩,
  ⟨"int\\s+main\\s*\\(\\s*\\)", "c", 6, false⟩,
  ⟨"namespace\\s+[0-9A-Za-z_]+", "csharp", 5, false⟩,
  ⟨"func\\s+[0-9A-Za-z_]+\\s*\\([^)]*\\)\\s*\\\x7b", "go", 6, false⟩,
  ⟨"package\\s+[0-9A-Za-z_]+", "go", 5, false⟩,
  ⟨"SELECT\\s+[0-9A-Za-z_*]+\\s+FROM\\s+[0-9A-Za-z_]+", "sql", 6, true⟩,
  ⟨"CREATE\\s+TABLE\\s+[0-9A-Za-z_]+", "sql", 6, true⟩,
  ⟨"\\$[0-9A-Za-z_]+\\s*=", "php", 5, false⟩,
  ⟨"<\\?php", "php", 7, false⟩,
  ⟨"^\\s*\\\x7b[\\s\\S]*\\\x7d\\s*$", "json", 5, false⟩,
  ⟨"fn\\s+[0-9A-Za-z_]+\\s*\\([^)]*\\)\\s*->", "rust", 6, false⟩,
  ⟨"let\\s+mut\\s+[0-9A-Za-z_]+", "rust", 5, false⟩,
  ⟨"require ['\"][0-9A-Za-z_/.-]+['\"]", "ruby", 5, false⟩,
  ⟨"def\\s+[0-9A-Za-z_]+(\\(.+\\))?\\s+do", "ruby", 6, false⟩]

end Polyglot
