import SelectQuery.Number.Shortest
import SelectQuery.Text.Printable
import SelectQuery.Text.Surrogate
import SelectQuery.Value.Basic

/-!
# Values as text

A value that ends up inside a query or a message is written in one fixed notation:
`None`, `True` and `False`, numbers in shortest form, texts plain at the top and quoted
inside lists and objects.
-/

namespace SelectQuery

/-- The names of the constants in displayed values. -/
structure ConstantNames where
  null : String
  yes : String
  no : String

def displayNames : ConstantNames := ⟨"None", "True", "False"⟩

namespace Text

def quotedChar (quote c : Char) : List Char :=
  if c == quote || c == '\\' then ['\\', c]
  else if c == '\n' then ['\\', 'n']
  else if c == '\r' then ['\\', 'r']
  else if c == '\t' then ['\\', 't']
  else if isPrintable c then [c]
  else if c.toNat < 0x100 then '\\' :: 'x' :: hexDigits 2 c.toNat
  else if c.toNat < 0x10000 then escape c.toNat
  else '\\' :: 'U' :: hexDigits 8 c.toNat

def quotedPoint (quote : Char) : Point → List Char
  | .char c => quotedChar quote c
  | .half n => escape n

/-- The quote around a text: a double one where that avoids an escape. -/
def quoteFor (cs : List Char) : Char :=
  if cs.contains '\'' && !cs.contains '"' then '"' else '\''

def quotedChars (cs : List Char) : List Char :=
  let quote := quoteFor cs
  quote :: (points cs).flatMap (quotedPoint quote) ++ [quote]

/-- A text in quotes, with everything unprintable escaped. -/
def quoted (s : String) : String := String.ofList (quotedChars s.toList)

end Text

namespace Value

mutual

def shown : Value → String
  | .null => displayNames.null
  | .bool b => if b then displayNames.yes else displayNames.no
  | .int n => toString n
  | .float x => x.text
  | .text s => Text.quoted s
  | .list items => "[" ++ ", ".intercalate (shownItems items) ++ "]"
  | .object fields => "\x7b" ++ ", ".intercalate (shownFields fields) ++ "\x7d"

def shownItems : List Value → List String
  | [] => []
  | x :: rest => shown x :: shownItems rest

def shownFields : List (String × Value) → List String
  | [] => []
  | (key, x) :: rest => (Text.quoted key ++ ": " ++ shown x) :: shownFields rest

end

/-- A value as text: a text is itself. -/
def display : Value → String
  | .text s => s
  | x => x.shown

end Value
end SelectQuery
