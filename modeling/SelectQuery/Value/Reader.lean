import SelectQuery.Number.Integer
import SelectQuery.Text.Scan
import SelectQuery.Value.Basic

/-!
# Reading JSON

The grammar of JSON with `NaN`, `Infinity` and `-Infinity` as further numbers. Every
refusal names what was expected and where: the character counted from zero, and its line
and column counted from one. Of fields with the same name the last one counts.

The readers take the rest of the document and return what is left of it; a refusal
carries the length of the rest, from which `Json.readWithin` computes the place. Their first
argument bounds the steps, and the length of the document is bound enough. Their second one
bounds how deep lists and objects are nested. That bound is the machine's, and a document that
goes beyond it is refused where it does; `Json.read` has none.
-/

namespace SelectQuery
namespace Json

/-- What is wrong with a document. -/
inductive Problem
  | expectingValue
  | expectingName
  | expectingColon
  | expectingComma
  | extraData
  | unterminatedText
  | controlCharacter
  | badEscape
  | badUnicodeEscape
  | byteOrderMark
  | tooDeep
  | tooManyDigits (digits : Nat)
  deriving DecidableEq, Repr

/-- A problem and the length of the document from there on. -/
structure Fault where
  problem : Problem
  remaining : Nat
  deriving DecidableEq, Repr

def isSpace (c : Char) : Bool := c == ' ' || c == '\t' || c == '\n' || c == '\r'

def skip (cs : List Char) : List Char := cs.dropWhile isSpace

def hexValue? (c : Char) : Option Nat :=
  if '0' ≤ c ∧ c ≤ '9' then some (c.toNat - 48)
  else if 'a' ≤ c ∧ c ≤ 'f' then some (c.toNat - 87)
  else if 'A' ≤ c ∧ c ≤ 'F' then some (c.toNat - 55)
  else none

def hexUnit? (a b c d : Char) : Option Nat := do
  let a ← hexValue? a
  let b ← hexValue? b
  let c ← hexValue? c
  let d ← hexValue? d
  some (((a * 16 + b) * 16 + c) * 16 + d)

def escaped? : Char → Option Char
  | '"' => some '"'
  | '\\' => some '\\'
  | '/' => some '/'
  | 'b' => some '\x08'
  | 'f' => some '\x0c'
  | 'n' => some '\n'
  | 'r' => some '\r'
  | 't' => some '\t'
  | _ => none

/-- Puts a code unit in front of what was read. -/
def consUnit (n : Nat) (read : List Nat × List Char) : List Nat × List Char :=
  (n :: read.1, read.2)

/-- The code units of a text up to its closing quote. An escape at the very end of the
document counts as broken. -/
def textUnits (opened : Nat) : List Char → Except Fault (List Nat × List Char)
  | [] => .error ⟨.unterminatedText, opened⟩
  | '"' :: rest => .ok ([], rest)
  | '\\' :: 'u' :: a :: b :: c :: d :: e :: rest =>
    match hexUnit? a b c d with
    | some n => consUnit n <$> textUnits opened (e :: rest)
    | none => .error ⟨.badUnicodeEscape, rest.length + 6⟩
  | '\\' :: 'u' :: rest => .error ⟨.badUnicodeEscape, rest.length + 1⟩
  | ['\\'] => .error ⟨.unterminatedText, opened⟩
  | '\\' :: c :: rest =>
    match escaped? c with
    | some e => consUnit e.toNat <$> textUnits opened rest
    | none => .error ⟨.badEscape, rest.length + 2⟩
  | c :: rest =>
    if c.toNat < 0x20 then .error ⟨.controlCharacter, rest.length + 1⟩
    else consUnit c.toNat <$> textUnits opened rest

/-- What a single code unit stands for. -/
def unitChars (n : Nat) : List Char :=
  if Text.isSurrogate n then (Text.Point.half n).kept else [Char.ofNat n]

/-- Joins the halves of surrogate pairs. A half without its partner is kept as one. -/
def joinUnits : List Nat → List Char
  | [] => []
  | [n] => unitChars n
  | n :: m :: rest =>
    if 0xD800 ≤ n ∧ n ≤ 0xDBFF ∧ 0xDC00 ≤ m ∧ m ≤ 0xDFFF then
      (Text.Point.char (Char.ofNat (0x10000 + (n - 0xD800) * 0x400 + (m - 0xDC00)))).kept ++
        joinUnits rest
    else unitChars n ++ joinUnits (m :: rest)

/-- A text, from behind its opening quote. -/
def readText (cs : List Char) : Except Fault (String × List Char) := do
  let (units, rest) ← textUnits (cs.length + 1) cs
  .ok (String.ofList (joinUnits units), rest)

/-- A digit of ASCII. -/
def isDigit (c : Char) : Bool := c.isDigit

/-- The whole part of a number: a zero, or digits that do not start with one. -/
def wholePart : List Char → List Char × List Char
  | '0' :: rest => (['0'], rest)
  | cs => (cs.takeWhile isDigit, cs.dropWhile isDigit)

/-- The digits behind a point, if there are any. -/
def fractionPart : List Char → List Char × List Char
  | '.' :: rest =>
    let digits := rest.takeWhile isDigit
    if digits.isEmpty then ([], '.' :: rest) else (digits, rest.dropWhile isDigit)
  | cs => ([], cs)

/-- The exponent of a number, if there is one. -/
def exponentPart (cs : List Char) : Option Int × List Char :=
  match cs with
  | e :: rest =>
    if e == 'e' || e == 'E' then
      let (negative, digits) := Integer.splitSign rest
      let run := digits.takeWhile isDigit
      if run.isEmpty then (none, cs)
      else
        let n : Int := Text.digitsValue run
        (some (if negative then -n else n), digits.dropWhile isDigit)
    else (none, cs)
  | [] => (none, cs)

/-- A number without its sign. One with a fraction or an exponent is a floating point
number. -/
def readUnsigned (negative : Bool) (start : Nat) (cs : List Char) :
    Except Fault (Value × List Char) :=
  let (whole, rest) := wholePart cs
  if whole.isEmpty then .error ⟨.expectingValue, start⟩
  else
    let (fraction, rest') := fractionPart rest
    let (exponent, rest'') := exponentPart rest'
    if fraction.isEmpty && exponent.isNone then
      if digitLimit < whole.length then .error ⟨.tooManyDigits whole.length, start⟩
      else
        let n : Int := Text.digitsValue whole
        .ok (.int (if negative then -n else n), rest'')
    else
      let digits := Text.digitsValue (whole ++ fraction)
      .ok (.float (.ofDecimal negative digits (exponent.getD 0 - fraction.length)), rest'')

def constants : List (String × Value) :=
  [("null", .null), ("true", .bool true), ("false", .bool false), ("NaN", .float .nan),
    ("Infinity", .float (.infinity false)), ("-Infinity", .float (.infinity true))]

def readScalar (cs : List Char) : Except Fault (Value × List Char) :=
  match constants.findSome? fun (name, x) => (Text.after? name.toList cs).map (x, ·) with
  | some found => .ok found
  | none =>
    match cs with
    | '-' :: rest => readUnsigned true cs.length rest
    | _ => readUnsigned false cs.length cs

/-- Adds a field; a name already present keeps its place and takes the new value. -/
def setField (fields : List (String × Value)) (key : String) (x : Value) :
    List (String × Value) :=
  if fields.any (·.1 == key) then
    fields.map fun field => if field.1 == key then (key, x) else field
  else fields ++ [(key, x)]

mutual

/-- A value, with no blanks in front. -/
def readValue : Nat → Nat → List Char → Except Fault (Value × List Char)
  | 0, _, cs => .error ⟨.expectingValue, cs.length⟩
  | fuel + 1, nesting, cs =>
    match cs with
    | '"' :: rest => do
      let (s, rest) ← readText rest
      .ok (.text s, rest)
    | '[' :: rest =>
      match nesting, skip rest with
      | 0, _ => .error ⟨.tooDeep, cs.length⟩
      | _ + 1, ']' :: rest => .ok (.list [], rest)
      | nesting + 1, rest => do
        let (items, rest) ← readItems fuel nesting rest
        .ok (.list items, rest)
    | '\x7b' :: rest =>
      match nesting, skip rest with
      | 0, _ => .error ⟨.tooDeep, cs.length⟩
      | _ + 1, '\x7d' :: rest => .ok (.object [], rest)
      | nesting + 1, rest => do
        let (fields, rest) ← readFields fuel nesting [] rest
        .ok (.object fields, rest)
    | _ => readScalar cs

/-- The items of a list, up to its closing bracket. -/
def readItems : Nat → Nat → List Char → Except Fault (List Value × List Char)
  | 0, _, cs => .error ⟨.expectingValue, cs.length⟩
  | fuel + 1, nesting, cs => do
    let (x, rest) ← readValue fuel nesting cs
    match skip rest with
    | ']' :: rest => .ok ([x], rest)
    | ',' :: rest => do
      let (items, rest) ← readItems fuel nesting (skip rest)
      .ok (x :: items, rest)
    | rest => .error ⟨.expectingComma, rest.length⟩

/-- The fields of an object, up to its closing brace. -/
def readFields : Nat → Nat → List (String × Value) → List Char →
    Except Fault (List (String × Value) × List Char)
  | 0, _, _, cs => .error ⟨.expectingName, cs.length⟩
  | fuel + 1, nesting, before, cs =>
    match cs with
    | '"' :: rest => do
      let (key, rest) ← readText rest
      match skip rest with
      | ':' :: rest => do
        let (x, rest) ← readValue fuel nesting (skip rest)
        let fields := setField before key x
        match skip rest with
        | '\x7d' :: rest => .ok (fields, rest)
        | ',' :: rest => readFields fuel nesting fields (skip rest)
        | rest => .error ⟨.expectingComma, rest.length⟩
      | rest => .error ⟨.expectingColon, rest.length⟩
    | _ => .error ⟨.expectingName, cs.length⟩

end

def readDocument (nesting : Nat) (cs : List Char) : Except Fault Value := do
  if cs.head? == some '\uFEFF' then
    throw ⟨.byteOrderMark, cs.length⟩
  let (x, rest) ← readValue (cs.length + 1) nesting (skip cs)
  let rest := skip rest
  if rest.isEmpty then .ok x else .error ⟨.extraData, rest.length⟩

/-- A refused document: what is wrong, and where. -/
structure Error where
  problem : Problem
  position : Nat
  line : Nat
  column : Nat
  deriving DecidableEq, Repr

def Fault.locate (document : List Char) (fault : Fault) : Error :=
  let before := document.take (document.length - fault.remaining)
  let line := (before.reverse.takeWhile (· != '\n')).reverse
  ⟨fault.problem, (Text.points before).length, before.count '\n' + 1,
    (Text.points line).length + 1⟩

/-- Reads a document whose lists and objects are nested no deeper than a bound. -/
def readWithin (nesting : Nat) (s : String) : Except Error Value :=
  match readDocument nesting s.toList with
  | .ok x => .ok x
  | .error fault => .error (fault.locate s.toList)

/-- Reads a document, which is not nested deeper than it is long. -/
def read (s : String) : Except Error Value := readWithin s.toList.length s

end Json
end SelectQuery
