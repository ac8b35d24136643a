import SelectQuery.Error
import SelectQuery.Text.Case

/-!
# Log levels

Messages have a level, and those below a threshold are not written. The threshold is given
by a word, in any case. A word that names no level stands for the default. The drivers of
the database are noisy, so their threshold is at least that of warnings.
-/

namespace SelectQuery

def levelNames : List (String × Nat) :=
  [("NOTSET", 0), ("DEBUG", 10), ("INFO", 20), ("WARN", 30), ("WARNING", 30), ("ERROR", 40),
    ("CRITICAL", 50), ("FATAL", 50)]

/-- The level of a word that names none. -/
def defaultLevel : Nat := 20

def warningLevel : Nat := 30

/-- The words that name something else about the log, with what they name: the layout of a
message and the table of layouts. -/
def otherNames : List (String × Value) :=
  [("BASIC_FORMAT", .text "%(levelname)s:%(name)s:%(message)s"), ("_STYLES", .object [])]

/-- The thresholds of the log. -/
structure LogThresholds where
  general : Nat
  drivers : Nat
  deriving DecidableEq, Repr

def logLevel (word : String) : Except Error Nat :=
  match otherNames.lookup (Text.upper word) with
  | some (.text layout) => .error (.badValue (.unknownLevel layout))
  | some _ => .error (.misuse .notNumber)
  | none => .ok ((levelNames.lookup (Text.upper word)).getD defaultLevel)

def logThresholds (word : String) : Except Error LogThresholds := do
  let level ← logLevel word
  return ⟨level, max level warningLevel⟩

end SelectQuery
