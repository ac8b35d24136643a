import SelectQuery.Number.Binary64

/-!
# Shortest decimals

A floating point number is written with the fewest digits that read back as the
same number; among those the nearest is taken, and of two equally near ones the even
one. `Binary64.text` lays the digits out: positional notation from `10 ^ -4` up to
`10 ^ 16`, with at least one digit after the point, and an exponent outside.
-/

namespace SelectQuery

/-- The digits of a decimal and the power of ten of the last one. -/
structure Decimal where
  digits : Nat
  exponent : Int
  deriving DecidableEq, Repr

namespace Decimal

/-- Moves trailing zeros into the exponent. -/
def strip (fuel : Nat) (d : Decimal) : Decimal :=
  match fuel with
  | 0 => d
  | fuel + 1 =>
    if d.digits ≠ 0 ∧ d.digits % 10 = 0 then strip fuel ⟨d.digits / 10, d.exponent + 1⟩ else d

end Decimal

namespace Binary64

/-- `num / den < 10 ^ power`. -/
def belowPower (num den : Nat) (power : Int) : Bool :=
  if 0 ≤ power then num < den * Nat.pow 10 power.toNat
  else num * Nat.pow 10 (-power).toNat < den

/-- The number of decimal places in front of the point of `num / den`: the least power of
ten above it. The logarithm is estimated from below in two's powers. -/
def placesOf (num den : Nat) : Int :=
  let bits : Int := (num.log2 : Int) - (den.log2 : Int)
  let guess : Int := (bits * 30103).fdiv 100000 - 1
  match (List.range 5).find? fun (k : Nat) => belowPower num den (guess + k) with
  | some k => guess + k
  | none => guess + 5

/-- The neighbours of `num / den` on the grid of `10 ^ exponent`, the nearer one first. -/
def neighbours (num den : Nat) (exponent : Int) : List Decimal :=
  let n := if 0 ≤ exponent then num else num * Nat.pow 10 (-exponent).toNat
  let d := if 0 ≤ exponent then den * Nat.pow 10 exponent.toNat else den
  let low := n / d
  let twice := 2 * (n % d)
  let down : Decimal := ⟨low, exponent⟩
  let up : Decimal := ⟨low + 1, exponent⟩
  if twice < d ∨ (twice = d ∧ low % 2 = 0) then [down, up] else [up, down]

/-- The decimal that a positive number is, digit for digit. -/
def exactDecimal (mantissa : Nat) (exponent : Int) : Decimal :=
  if 0 ≤ exponent then ⟨mantissa * Nat.pow 2 exponent.toNat, 0⟩
  else ⟨mantissa * Nat.pow 5 (-exponent).toNat, exponent⟩

/-- The shortest decimal that reads back as the number. Seventeen digits always do. -/
def shortest (mantissa : Nat) (exponent : Int) : Decimal :=
  let (num, den) := scaled mantissa 1 (-exponent)
  let places := placesOf num den
  let candidates := (List.range 17).flatMap fun (k : Nat) => neighbours num den (places - (k + 1))
  let target := ofParts false mantissa exponent
  let found := candidates.find? fun c => ofDecimal false c.digits c.exponent == target
  (found.getD (exactDecimal mantissa exponent)).strip 400

/-- Positional notation for numbers from `10 ^ positionalFrom` up to `10 ^ positionalTo`,
an exponent of at least `exponentDigits` digits outside. -/
structure Layout where
  positionalFrom : Int
  positionalTo : Int
  exponentDigits : Nat

def layout : Layout := ⟨-4, 16, 2⟩

def padded (width n : Nat) : String :=
  let digits := Nat.repr n
  String.ofList (List.replicate (width - digits.length) '0') ++ digits

def Layout.write (l : Layout) (d : Decimal) : String :=
  let digits := (Nat.repr d.digits).toList
  let places : Int := digits.length + d.exponent
  if l.positionalFrom < places ∧ places ≤ l.positionalTo then
    if places ≤ 0 then
      "0." ++ String.ofList (List.replicate (-places).toNat '0' ++ digits)
    else if (digits.length : Int) ≤ places then
      String.ofList (digits ++ List.replicate (places - digits.length).toNat '0') ++ ".0"
    else
      String.ofList (digits.take places.toNat) ++ "." ++ String.ofList (digits.drop places.toNat)
  else
    let fraction := digits.drop 1
    let point := if fraction.isEmpty then "" else "." ++ String.ofList fraction
    let power := places - 1
    String.ofList (digits.take 1) ++ point ++ "e" ++ (if power < 0 then "-" else "+") ++
      padded l.exponentDigits power.natAbs

/-- A number as text, with the given names of infinity and NaN. -/
def textWith (infinityName nanName : String) : Binary64 → String
  | .nan => nanName
  | .infinity negative => (if negative then "-" else "") ++ infinityName
  | .finite negative mantissa exponent _ =>
    (if negative then "-" else "") ++
      (if mantissa = 0 then "0.0" else layout.write (shortest mantissa exponent))

def text (x : Binary64) : String := textWith "inf" "nan" x

end Binary64
end SelectQuery
