import SelectQuery.Number.Integer
import SelectQuery.Value.Display

/-!
# Writing JSON

A document has one space after each comma and colon. Texts are written as they are but
for quotes, backslashes and the controls below the space; numbers are in shortest form.
An integer is only written if it has no more than `digitLimit` digits (`isWritable`).
-/

namespace SelectQuery
namespace Json

def escapedChar (c : Char) : List Char :=
  if c == '"' then ['\\', '"']
  else if c == '\\' then ['\\', '\\']
  else if c == '\n' then ['\\', 'n']
  else if c == '\r' then ['\\', 'r']
  else if c == '\t' then ['\\', 't']
  else if c == '\x08' then ['\\', 'b']
  else if c == '\x0c' then ['\\', 'f']
  else if c.toNat < 0x20 then '\\' :: 'u' :: Text.hexDigits 4 c.toNat
  else [c]

def textChars (cs : List Char) : List Char := '"' :: cs.flatMap escapedChar ++ ['"']

def separated (separator : List Char) : List (List Char) → List Char
  | [] => []
  | [part] => part
  | part :: rest => part ++ separator ++ separated separator rest

def floatChars (x : Binary64) : List Char := (x.textWith "Infinity" "NaN").toList

mutual

def chars : Value → List Char
  | .null => "null".toList
  | .bool b => (if b then "true" else "false").toList
  | .int n => (toString n).toList
  | .float x => floatChars x
  | .text s => textChars s.toList
  | .list items => '[' :: separated [',', ' '] (itemChars items) ++ [']']
  | .object fields => '\x7b' :: separated [',', ' '] (fieldChars fields) ++ ['\x7d']

def itemChars : List Value → List (List Char)
  | [] => []
  | x :: rest => chars x :: itemChars rest

def fieldChars : List (String × Value) → List (List Char)
  | [] => []
  | (key, x) :: rest => (textChars key.toList ++ [':', ' '] ++ chars x) :: fieldChars rest

end

def write (x : Value) : String := String.ofList (chars x)

mutual

/-- No integer in a value has too many digits to be written. -/
def isWritable : Value → Bool
  | .int n => decide (n.natAbs < Nat.pow 10 digitLimit)
  | .list items => areWritable items
  | .object fields => fieldsAreWritable fields
  | _ => true

def areWritable : List Value → Bool
  | [] => true
  | x :: rest => isWritable x && areWritable rest

def fieldsAreWritable : List (String × Value) → Bool
  | [] => true
  | (_, x) :: rest => isWritable x && fieldsAreWritable rest

end

end Json
end SelectQuery
