import SyntaxInspector.Text.CharClass

/-!
# Languages

The languages that can be inspected, with the names and the file extensions they go by. Both are
compared without regard to the case of the letters A to Z.
-/

namespace SyntaxInspector

/-- A language and what it goes by. -/
structure Language where
  /-- The language's own name. -/
  name : String
  /-- All names it is known by, its own first. -/
  aliases : List String
  /-- File extensions, without the dot. -/
  extensions : List String
  deriving DecidableEq, Inhabited

namespace Language

/-- All languages, by name. -/
def all : List Language :=
  [⟨"bash", ["bash", "sh", "shell"], ["sh", "bash", "zsh"]⟩,
   ⟨"c", ["c"], ["c", "h"]⟩,
   ⟨"cpp", ["cpp", "c++", "cxx", "cc"],
     ["cpp", "cc", "cxx", "hpp", "hh", "hxx", "h++", "c++"]⟩,
   ⟨"css", ["css"], ["css"]⟩,
   ⟨"go", ["go", "golang"], ["go"]⟩,
   ⟨"html", ["html", "htm"], ["html", "htm"]⟩,
   ⟨"java", ["java"], ["java"]⟩,
   ⟨"javascript", ["javascript", "js", "jsx", "ecmascript", "es"], ["js", "mjs", "cjs", "jsx"]⟩,
   ⟨"json", ["json"], ["json"]⟩,
   ⟨"python", ["python", "py"], ["py", "pyi", "pyw"]⟩,
   ⟨"query", ["query", "scm", "tsq"], ["scm"]⟩,
   ⟨"rust", ["rust", "rs"], ["rs"]⟩,
   ⟨"toml", ["toml"], ["toml"]⟩,
   ⟨"tsx", ["tsx"], ["tsx"]⟩,
   ⟨"typescript", ["typescript", "ts"], ["ts", "mts", "cts"]⟩,
   ⟨"yaml", ["yaml", "yml"], ["yaml", "yml"]⟩]

/-- The language with a given name or alias. -/
def ofName? (name : String) : Option Language :=
  all.find? (·.aliases.contains (asciiLowercase name))

/-- The language of files with a given extension. -/
def ofExtension? (extension : String) : Option Language :=
  all.find? (·.extensions.contains (asciiLowercase extension))

/-- The names other than the language's own. -/
def otherNames (l : Language) : List String := l.aliases.filter (· != l.name)

end Language

end SyntaxInspector
