import SelectQuery.Dialect.Translator
import SelectQuery.Statement.Fault
import SelectQuery.Text.Word

/-!
# Adapting to a dialect

The text of a statement can be adapted to the database it is meant for, by a library that
translates it. With placeholders in the text, none may get lost on the way.
-/

namespace SelectQuery

open Text

/-- The dialect that a statement has to be adapted to. -/
def targetDialect? (dialect : Option String) : Option String :=
  dialect.filter fun d => d != "" && d != previewDialect

/-- A text adapted to a dialect, if there is one to adapt to. -/
def adapt (lib : Translator) (dialect : Option String) (s : String) : Except Error String :=
  match targetDialect? dialect with
  | some d => lib.translate d s
  | none => .ok s

/-- The name of a placeholder that a text begins with behind the colon. -/
def placeholderName? (cs : List Char) : Option String :=
  match cs with
  | 'p' :: rest =>
    let digits := rest.takeWhile isDigit
    let ends := !((rest.dropWhile isDigit).head?.map isWord).getD false
    if !digits.isEmpty && ends then some (String.ofList ('p' :: digits)) else none
  | _ => none

/-- The names of the placeholders in a text, in order. -/
def placeholderNames : List Char → List String
  | [] => []
  | c :: rest =>
    if c == ':' then (placeholderName? rest).toList ++ placeholderNames rest
    else placeholderNames rest

/-- A statement as it is handed to the database. -/
structure Prepared where
  text : String
  params : List (String × Literal)
  kinds : List ClauseKind

namespace Configuration

variable {ν : Type} [Entry ν]

/-- The query of a configuration as it is shown. -/
def preview (lib : Translator) (c : Configuration ν) (dialect : Option String) :
    Except Error String := do
  adapt lib dialect (← (← c.build .preview).render)

/-- Refuses a text in which placeholders got lost. -/
def checkPlaceholders (dialect : String) (s : Statement ν) (adapted : String) :
    Except Error Unit :=
  let found := placeholderNames adapted.toList
  let lost := (s.params.map Prod.fst).filter (!found.contains ·)
  if lost.isEmpty then .ok ()
  else
    .error (.configuration
      (.parametersLost dialect (lost.mergeSort fun a b => !decide (b < a))) "dialect")

/-- The query of a configuration with its values beside it. -/
def prepare (lib : Translator) (c : Configuration ν) (dialect : Option String) :
    Except Error Prepared := do
  let s ← c.build .bound
  let text ← s.render
  match targetDialect? dialect with
  | none => return ⟨text, s.params, s.kinds⟩
  | some d =>
    let adapted ← lib.translate d text
    checkPlaceholders d s adapted
    return ⟨adapted, s.params, s.kinds⟩

end Configuration
end SelectQuery
