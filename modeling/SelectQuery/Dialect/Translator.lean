import SelectQuery.Error

/-!
# Translating to a dialect

A text is translated by a library that reads it as a tree, changes the nodes of the tree and
writes it again. What the library does is a parameter (`Translator`). What is decided here is
which nodes are changed, and what becomes of a text that the library fails to translate.
-/

namespace SelectQuery

/-- How the library fails. -/
inductive TranslationFailure
  /-- It does not understand the text, or it cannot write it in the dialect. -/
  | untranslated
  /-- An error of another kind, such as that of a dialect which it does not know. -/
  | foreign (kind message : String)

/-- A library that translates between dialects. -/
structure Translator where
  Node : Type
  /-- Reads a text that is written in a dialect. -/
  parse (dialect text : String) : Except TranslationFailure Node
  /-- The name of a placeholder, empty if it has none. Other nodes are no placeholders. -/
  placeholder? : Node → Option String
  /-- The node that is written as a given text in every dialect. -/
  verbatim : String → Node
  /-- Changes the nodes of a tree. -/
  transform : (Node → Node) → Node → Node
  /-- Writes a tree in a dialect, laid out on several lines. -/
  write (dialect : String) (tree : Node) : Except TranslationFailure String

/-- The dialect that statements are written in. -/
def previewDialect : String := "postgres"

namespace Translator

variable (lib : Translator)

/-- Keeps a placeholder with a name as it is. Dialects spell it differently, and values are bound
to the one spelling. -/
def keepNamed (node : lib.Node) : lib.Node :=
  match lib.placeholder? node with
  | some name => if name == "" then node else lib.verbatim (":" ++ name)
  | none => node

/-- A statement as the library writes it in a dialect. -/
def rewritten (dialect text : String) : Except TranslationFailure String := do
  lib.write dialect (lib.transform lib.keepNamed (← lib.parse previewDialect text))

/-- A statement in a dialect. Text that the library fails to translate stays as it is. -/
def translate (dialect text : String) : Except Error String :=
  match lib.rewritten dialect text with
  | .ok adapted => .ok adapted
  | .error .untranslated => .ok text
  | .error (.foreign kind message) => .error (.foreign kind message)

end Translator
end SelectQuery
