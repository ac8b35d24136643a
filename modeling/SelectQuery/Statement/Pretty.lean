import SelectQuery.Statement.Basic

/-!
# Statements spread over lines

For reading, a statement can be laid out with the selected columns under each other and
every further condition on a line of its own.
-/

namespace SelectQuery

def conditionBreak : String := "\n  "

/-- What separates the items behind a keyword, so that they stand under each other. -/
def alignedBreak (keyword : String) : String :=
  ",\n" ++ String.ofList (List.replicate (keyword.length + 1) ' ')

variable {ν : Type} [Entry ν]

def Clause.pretty (c : Clause ν) : String :=
  let separator :=
    match c.kind with
    | .select => alignedBreak c.keyword
    | .where => conditionBreak
    | _ => c.separator
  c.keyword ++ " " ++ separator.intercalate (c.items.map Item.text)

def Statement.pretty (s : Statement ν) : String :=
  "\n".intercalate (s.clauses.map Clause.pretty)

end SelectQuery
