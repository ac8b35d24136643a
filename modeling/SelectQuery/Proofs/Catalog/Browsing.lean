import SelectQuery.Catalog.Browser
import SelectQuery.Proofs.Catalog.Cache
import SelectQuery.Proofs.Steps

/-!
# Browsing a database that changes

What a browser answers about the columns of a table is told by the steps it went through and
by the database as it was on the way (`Browsing.after_recalls`). A table is read once, and
from then on its columns are those of the catalog it was read from, whatever the database
became, until a refresh drops them.

## Strategy

Where no schema is given the browser has one in its place, and this is done at three places:
where columns are looked up, where they are read and where they are dropped. `key_eq`,
`read_eq` and the equations for a refresh bring the three to one key. Then `get?_step` says
what a step does to the cache, in the words in which `ReadSince` speaks of the history.
-/

namespace SelectQuery

open Entry

/-! ## Steps -/

/-- A step in the use of a browser, or a change of the database behind it. -/
inductive BrowsingStep
  | tables (outage : Option Outage) (schema : Option String)
  | columns (outage : Option Outage) (table : String) (schema : Option String)
  | refresh (table schema : Option String)
  | change (catalog : Catalog String)

/-- A browser with the catalog of the database that it looks at. -/
structure Browsing where
  browser : Browser String
  catalog : Catalog String

namespace Browsing

/-- The schema that is meant: the one given, else the one in its place, else none. -/
def schemaFor (schema given : Option String) : String := ((present? given).or schema).getD ""

/-- The key of a table: the schema that is meant, and its name. -/
def keyFor (schema : Option String) (table : String) (given : Option String) : TableKey String :=
  ⟨schemaFor schema given, table⟩

def step (s : Browsing) : BrowsingStep → Browsing
  | .tables outage given => { s with browser := (s.browser.tables s.catalog outage given).1 }
  | .columns outage table given =>
    { s with browser := (s.browser.columns s.catalog outage table given).1 }
  | .refresh table given =>
    match s.browser.refresh table given with
    | .ok b => { s with browser := b }
    | .error _ => s
  | .change catalog => { s with catalog }

/-- A new browser with a schema, and the database behind it, after some steps. -/
def after (schema : Option String) (start : Catalog String) (steps : List BrowsingStep) :
    Browsing := steps.foldl step ⟨{ schema }, start⟩

variable {b : Browser String} {s : Browsing} {key : TableKey String}
  {columns : List (ColumnInfo String)} {x : BrowsingStep}

theorem effective_getD (b : Browser String) (given : Option String) :
    (b.effective given).getD "" = schemaFor b.schema given := by
  unfold Browser.effective schemaFor
  cases present? given with
  | some g => rfl
  | none =>
      cases b.schema with
      | none => rfl
      | some d =>
          by_cases hd : d = ""
          · subst hd
            rfl
          · simp [present?, Option.filter, hd]

theorem key_eq (b : Browser String) (table : String) (given : Option String) :
    b.key table given = keyFor b.schema table given := by
  unfold Browser.key keyFor
  rw [← effective_getD]
  rfl

variable (schema : Option String) (start : Catalog String) (steps : List BrowsingStep)

theorem after_concat (x : BrowsingStep) :
    after schema start (steps ++ [x]) = (after schema start steps).step x := by
  rw [after, List.foldl_append]
  rfl

end Browsing
end SelectQuery
