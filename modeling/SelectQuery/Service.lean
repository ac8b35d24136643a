import SelectQuery.Catalog.Browser
import SelectQuery.Dialect.Adaptation
import SelectQuery.SavedQuery
import SelectQuery.Screen.Check
import SelectQuery.Settings

/-!
# The service

The service puts the parts together: it shows the query of a configuration, runs queries
against the database page by page or as a whole, saves configurations and lists tables
and columns. A query goes through both screens before it reaches the database. A
configuration is screened as it is shown, and run with its values beside the text.
-/

namespace SelectQuery

/-- The service and its state. A page has at least one row. -/
structure Service (ν : Type) where
  dialect : Option String := none
  pageSize : Nat := 50
  pageSize_pos : 0 < pageSize := by decide
  maxRows : Int := 0
  browser : Option (Browser ν) := none
  store : Store := {}

namespace Service

/-- A service with pages of a given size. -/
def create {ν : Type} (dialect : Option String) (pageSize maxRows : Int)
    (browser : Option (Browser ν)) : Except Error (Service ν) :=
  if h : 0 < pageSize.toNat then
    .ok { dialect, pageSize := pageSize.toNat, pageSize_pos := h, maxRows, browser }
  else .error (.badValue .pageSizeNotPositive)

def isDriverChar (c : Char) : Bool := Text.isWord c || c == '+'

/-- What follows the name of the driver in a database address. -/
def addressMark : List Char := "://".toList

/-- A database address begins with the name of a driver. -/
def isAddress (s : String) : Bool :=
  let name := s.toList.takeWhile isDriverChar
  !name.isEmpty && Text.startsWith addressMark (s.toList.drop name.length)

/-- The place that is reported where no database address is set. -/
def addressPlace : String := "QBUILDER_DATABASE_URL"

def ofSettings (settings : Settings) : Except Error (Service Value) :=
  match settings.databaseUrl.filter (· != "") with
  | none => .error (.configuration .noDatabaseUrl addressPlace)
  | some url =>
    if isAddress url then
      create settings.dialect settings.pageSize settings.maxRows
        (some { schema := Entry.present? (some (.text settings.defaultSchema)) })
    else .error .unusableUrl

variable {ν μ : Type} [Entry ν] [Entry μ] (lib : Translator)

/-! ## Showing and running queries -/

/-- The query of a configuration as it is shown. -/
def preview (s : Service μ) (c : Configuration ν) : Except Error String :=
  c.preview lib s.dialect

/-- Hands a query to the database. As many rows are taken as the service allows. -/
def call (s : Service μ) (sql : String) (params : List (String × Value)) (reply : Reply) :
    Exchange Result :=
  ⟨[⟨sql, params⟩],
    match reply with
    | .error o => .error (o.toError .query (some sql))
    | .ok r => do
      let r := r.limited s.maxRows
      return ⟨r.columns, ← r.rows.mapM Result.listed⟩⟩

/-- Parameters by name. What does not count stands for none. -/
def parameters : Value → Except Error (List (String × Value))
  | .object fields => .ok fields
  | v => if v.isPresent then .error (.misuse .notIterable) else .ok []

/-- Runs a query that both screens let through. -/
def execute (s : Service μ) (sql : String) (params : Value) (reply : Reply) :
    Exchange Result :=
  match (do Screen.check sql; parameters params) with
  | .ok params => s.call sql params reply
  | .error e => .silent (.error e)

/-- The query of a configuration, after what is shown of it went through the screens. -/
def screened (s : Service μ) (c : Configuration ν) : Except Error Prepared := do
  Screen.check (← s.preview lib c)
  c.prepare lib s.dialect

def executeConfiguration (s : Service μ) (c : Configuration ν) (reply : Reply) :
    Exchange Result :=
  match s.screened lib c with
  | .ok p => s.call p.text (p.params.map fun (name, v) => (name, v.toValue)) reply
  | .error e => .silent (.error e)

/-- The size of a page, if none that counts is asked for. -/
def pageSizeFor (s : Service μ) (size : Value) : Value :=
  if size.isPresent then size else .int s.pageSize

/-- Runs a query and takes one page of the result. -/
def executePage (s : Service μ) (sql : String) (number size : Value) (reply : Reply) :
    Exchange Result :=
  (s.execute sql .null reply).andThen fun r => r.page number (s.pageSizeFor size)

/-- Runs a query and writes the result as comma-separated values. -/
def exportCsv (s : Service μ) (sql : String) (reply : Reply) : Exchange String :=
  (s.execute sql .null reply).andThen Result.csv

/-! ## Saved queries -/

def save (s : Service μ) (now : String) (name description : Value) (c : Configuration ν) :
    Service μ × Except Error SavedQuery :=
  let (store, outcome) := s.store.create now name description c
  ({ s with store }, outcome)

/-! ## The catalog -/

def tables (s : Service ν) (catalog : Catalog ν) (outage : Option Outage)
    (schema : Option ν) : Service ν × Except Error (List (TableInfo ν)) :=
  match s.browser with
  | none => (s, .error .noCatalog)
  | some b =>
    let (b, outcome) := b.tables catalog outage schema
    ({ s with browser := some b }, outcome)

def columns (s : Service ν) (catalog : Catalog ν) (outage : Option Outage) (table : ν)
    (schema : Option ν) : Service ν × Except Error (List (ColumnInfo ν)) :=
  match s.browser with
  | none => (s, .error .noCatalog)
  | some b =>
    let (b, outcome) := b.columns catalog outage table schema
    ({ s with browser := some b }, outcome)

end Service
end SelectQuery
