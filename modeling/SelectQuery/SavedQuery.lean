import SelectQuery.Configuration.Loader
import SelectQuery.Configuration.Wire
import SelectQuery.Statement.Fault
import SelectQuery.Text.Blank

/-!
# Saved queries

A configuration can be saved under a name, together with the text of its query. Saved
queries are numbered from 1, and no number is used twice: a number is taken as soon as the
name is accepted, also if the configuration then turns out not to have a text.

Times are in universal time and written in full, so that they are in order as texts.
-/

namespace SelectQuery

/-- A saved query. -/
structure SavedQuery where
  id : Nat
  name : String
  description : Option Value
  document : String
  text : String
  createdAt : String

namespace SavedQuery

def toValue (q : SavedQuery) : Value :=
  .object [("id", .int q.id), ("name", .text q.name),
    ("description", q.description.getD .null), ("queryConfig", .text q.document),
    ("generatedSql", .text q.text), ("createdAt", .text q.createdAt)]

def configuration (q : SavedQuery) : Build (Configuration Value) :=
  Configuration.ofJson q.document

/-- A query was saved no later than another one; numbers decide where the times are
equal. -/
def isBefore (p q : SavedQuery) : Bool :=
  p.createdAt < q.createdAt || (p.createdAt == q.createdAt && p.id ≤ q.id)

def hasId (id : Value) (q : SavedQuery) : Bool := id.same (.int q.id)

@[simp] theorem hasId_int (n : Int) (q : SavedQuery) : hasId (.int n) q = (n == q.id) := by
  simp [hasId, Value.same, Value.number?, Value.Number.same]

end SavedQuery

/-- The saved queries, and the last number taken. -/
structure Store where
  queries : List SavedQuery := []
  lastId : Nat := 0

namespace Store

def size (s : Store) : Nat := s.queries.length

/-- The saved queries, oldest first. -/
def list (s : Store) : List SavedQuery := s.queries.mergeSort SavedQuery.isBefore

/-- A name without blanks around it, if there is anything left. -/
def name? (name : Value) : Except Error String :=
  if name.isPresent then
    match name with
    | .text s =>
      if Text.trimmed s == "" then .error (.badValue .nameBlank) else .ok (Text.trimmed s)
    | _ => .error (.misuse .notText)
  else .error (.badValue .nameBlank)

variable {ν : Type} [Entry ν]

/-- The document of a configuration and its query. -/
def snapshot (c : Configuration ν) : Except Error (String × String) := do
  return (← c.document, ← (← c.build .preview).render)

/-- Saves a configuration. The name is looked at first. -/
def create (s : Store) (now : String) (name : Value) (description : Value)
    (c : Configuration ν) : Store × Except Error SavedQuery :=
  match name? name with
  | .error e => (s, .error e)
  | .ok name =>
    let id := s.lastId + 1
    match snapshot c with
    | .error e => ({ s with lastId := id }, .error e)
    | .ok (document, text) =>
      let description := if description.isPresent then some description else none
      let q : SavedQuery := ⟨id, name, description, document, text, now⟩
      (⟨s.queries ++ [q], id⟩, .ok q)

def get (s : Store) (id : Value) : Except Error SavedQuery :=
  if id.isAtomic then
    match s.queries.find? (SavedQuery.hasId id) with
    | some q => .ok q
    | none => .error (.notFound (.savedQuery id))
  else .error (.misuse .notAtomic)

/-- Deletes the saved query with a number, and says whether there was one. -/
def delete (s : Store) (id : Value) : Except Error (Bool × Store) :=
  if id.isAtomic then
    .ok (s.queries.any (SavedQuery.hasId id),
      { s with queries := s.queries.filter (!SavedQuery.hasId id ·) })
  else .error (.misuse .notAtomic)

end Store
end SelectQuery
