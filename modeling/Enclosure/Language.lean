import Enclosure.Analyzer
import Enclosure.PathText
import Enclosure.Text.Letters

/-!
# The built-in languages

A language has a name and aliases, by which people call it, and file
extensions, by which files show it; both are compared without regard to letter
case. No name, alias or extension belongs to two languages, so a lookup does not
depend on the order of the list.
-/

set_option autoImplicit false

namespace Enclosure

/-- A built-in language. -/
inductive Language where
  | python
  | javascript
  | typescript
  | tsx
  | rust
  | go
  | java
deriving DecidableEq

namespace Language

/-- The built-in languages, in the order in which they are looked through. -/
def all : List Language := [python, javascript, typescript, tsx, rust, go, java]

/-- The name of a language. -/
def name : Language → String
  | python => "python"
  | javascript => "javascript"
  | typescript => "typescript"
  | tsx => "tsx"
  | rust => "rust"
  | go => "go"
  | java => "java"

/-- The name of a language as its makers write it. -/
def title : Language → String
  | python => "Python"
  | javascript => "JavaScript"
  | typescript => "TypeScript"
  | tsx => "Tsx"
  | rust => "Rust"
  | go => "Go"
  | java => "Java"

/-- Other names of a language. -/
def aliases : Language → List String
  | python => ["py"]
  | javascript => ["js", "jsx", "mjs", "cjs"]
  | typescript => ["ts", "mts", "cts"]
  | tsx => []
  | rust => ["rs"]
  | go => ["golang"]
  | java => []

/-- The extensions of the files of a language, without the dot. -/
def extensions : Language → List String
  | python => ["py", "pyw", "pyi"]
  | javascript => ["js", "mjs", "cjs", "jsx"]
  | typescript => ["ts", "mts", "cts"]
  | tsx => ["tsx"]
  | rust => ["rs"]
  | go => ["go"]
  | java => ["java"]

/-- The kinds that are structural in a language unless settings say otherwise. -/
def kindList : Language → List String
  | python => ["function_definition", "class_definition", "async_function_definition"]
  | javascript =>
    ["function_declaration", "generator_function_declaration", "class_declaration",
      "method_definition"]
  | typescript | tsx =>
    ["function_declaration", "generator_function_declaration", "class_declaration",
      "abstract_class_declaration", "interface_declaration", "method_definition"]
  | rust => ["function_item", "impl_item", "trait_item", "mod_item"]
  | go => ["function_declaration", "method_declaration"]
  | java =>
    ["class_declaration", "interface_declaration", "method_declaration",
      "constructor_declaration"]

/-- The set of those kinds. -/
def kinds (language : Language) : KindSet := .ofList language.kindList

/-- The grammar of a language, given its parser. -/
def grammar (language : Language) (parse : String → Except Fault Tree) : Grammar where
  language := language.name
  kinds := language.kinds
  parse := parse

/-- The text is the name or an alias of the language. -/
def answersTo (language : Language) (text : String) : Bool :=
  (language.name :: language.aliases).any (Text.sameLetters · text)

/-- The language called by a name or alias. -/
def named? (text : String) : Option Language := all.find? (·.answersTo text)

/-- The language called by a name or alias, or the complaint that there is none. -/
def named (text : String) : Except Fault Language :=
  match named? text with
  | some language => .ok language
  | none => .error (.unsupportedLanguage text)

/-- The text calls a built-in language. -/
def isKnown (text : String) : Bool := (named? text).isSome

/-- The language of the files with an extension, which may be written with
leading dots. -/
def ofExtension? (extension : String) : Option Language :=
  let bare := String.ofList (extension.toList.dropWhile (· == '.'))
  all.find? fun language => language.extensions.any (Text.sameLetters · bare)

/-- The language of a file, by its extension. -/
def ofPath? (path : String) : Option Language :=
  (PathText.extension? path).bind ofExtension?

end Language

end Enclosure
