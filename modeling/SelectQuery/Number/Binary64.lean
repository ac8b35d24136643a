/-!
# Binary64 numbers

The floating point numbers of IEEE 754, double precision, as exact data: a finite
number is a sign, a mantissa and a power of two. Reading a decimal rounds the exact
ratio to the nearest number, a tie to the even mantissa. No arithmetic is needed
beyond comparison and truncation.
-/

namespace SelectQuery

/-- The mantissas and exponents of finite numbers, each number in one form only: 53
significant bits, or fewer at the least exponent. -/
def IsBinary64Form (mantissa : Nat) (exponent : Int) : Prop :=
  mantissa < Nat.pow 2 53 ∧ -1074 ≤ exponent ∧ exponent ≤ 971 ∧
    (Nat.pow 2 52 ≤ mantissa ∨ exponent = -1074)

instance (mantissa : Nat) (exponent : Int) : Decidable (IsBinary64Form mantissa exponent) :=
  inferInstanceAs (Decidable (_ ∧ _))

/-- A double precision number; a finite one is `mantissa * 2 ^ exponent` with its sign. -/
inductive Binary64
  | nan
  | infinity (negative : Bool)
  | finite (negative : Bool) (mantissa : Nat) (exponent : Int)
      (form : IsBinary64Form mantissa exponent)
  deriving DecidableEq

namespace Binary64

def zero (negative : Bool) : Binary64 := .finite negative 0 (-1074) (by decide)

/-- Assembles a number; what is no form is past the largest number. -/
def ofParts (negative : Bool) (mantissa : Nat) (exponent : Int) : Binary64 :=
  if h : IsBinary64Form mantissa exponent then .finite negative mantissa exponent h
  else .infinity negative

/-- The numerator and denominator of `num / den / 2 ^ exponent`. -/
def scaled (num den : Nat) (exponent : Int) : Nat × Nat :=
  if 0 ≤ exponent then (num, den * Nat.pow 2 exponent.toNat)
  else (num * Nat.pow 2 (-exponent).toNat, den)

/-- The quotient rounded to the nearest whole number, a tie to the even one. -/
def roundHalfEven (num den : Nat) : Nat :=
  let quotient := num / den
  let twice := 2 * (num % den)
  if twice < den then quotient
  else if den < twice then quotient + 1
  else if quotient % 2 = 0 then quotient else quotient + 1

/-- The exponent at which a ratio has 53 significant bits, but not below the least one. -/
def exponentOf (num den : Nat) : Int :=
  let guess : Int := (num.log2 : Int) - (den.log2 : Int) - 52
  let (n, d) := scaled num den guess
  max (-1074) (if n / d < Nat.pow 2 52 then guess - 1 else guess)

def ofRatio (negative : Bool) (num den : Nat) : Binary64 :=
  if num = 0 then zero negative
  else
    let exponent := exponentOf num den
    let (n, d) := scaled num den exponent
    let mantissa := roundHalfEven n d
    if mantissa = Nat.pow 2 53 then ofParts negative (Nat.pow 2 52) (exponent + 1)
    else ofParts negative mantissa exponent

/-- The number nearest to `digits * 10 ^ exponent`. Powers so large or so small that the
result is infinity or zero are not computed. -/
def ofDecimal (negative : Bool) (digits : Nat) (exponent : Int) : Binary64 :=
  if digits = 0 then zero negative
  else if 400 < exponent then .infinity negative
  else if exponent < -(400 + (digits.log2 : Int)) then zero negative
  else if 0 ≤ exponent then ofRatio negative (digits * Nat.pow 10 exponent.toNat) 1
  else ofRatio negative digits (Nat.pow 10 (-exponent).toNat)

def isZero : Binary64 → Bool
  | .finite _ mantissa _ _ => mantissa == 0
  | _ => false

/-- Equality of numbers: the two zeros are equal, and NaN equals nothing. -/
def same : Binary64 → Binary64 → Bool
  | .nan, _ => false
  | _, .nan => false
  | x, y => x == y || (x.isZero && y.isZero)

def truncate? : Binary64 → Option Int
  | .finite negative mantissa exponent _ =>
    let (n, d) := scaled mantissa 1 (-exponent)
    let whole : Int := (n / d : Nat)
    some (if negative then -whole else whole)
  | _ => none

/-- Numerator, with its sign, and denominator of a finite number. -/
def ratio? : Binary64 → Option (Int × Nat)
  | .finite negative mantissa exponent _ =>
    let (n, d) := scaled mantissa 1 (-exponent)
    some (if negative then -(n : Int) else (n : Int), d)
  | _ => none

/-- A finite number is a given integer. -/
def isInteger (x : Binary64) (n : Int) : Bool :=
  match x.ratio? with
  | some (num, den) => num == n * den
  | none => false

/-- Less than, as numbers; nothing is less or greater than NaN. -/
def less (x y : Binary64) : Bool :=
  match x, y with
  | .nan, _ => false
  | _, .nan => false
  | .infinity negative, .infinity negative' => negative && !negative'
  | .infinity negative, _ => negative
  | _, .infinity negative => !negative
  | x, y =>
    match x.ratio?, y.ratio? with
    | some (n, d), some (n', d') => n * d' < n' * d
    | _, _ => false

end Binary64
end SelectQuery
