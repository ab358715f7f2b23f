import Newtype.Member.Basic
import Newtype.Number.Digits
import Newtype.Number.Style

/-!
# Decimal numbers

Decimal numbers with a coefficient of 96 bits and up to 28 digits behind the point.
A result with more digits is rounded to as many as fit, a half to the even one; a text
with more digits is rounded by the first digit that does not fit.

* `Decimal` — a decimal number.
* `Decimal.fit?` — an exact result brought into range.
* `Decimal.apply` — the arithmetic operators.
* `Decimal.compare` — the order by value.
* `Decimal.display`, `Decimal.ofText?` — its text.
-/

namespace Newtype

/-- A decimal number: `coefficient / 10 ^ scale` with a sign. -/
structure Decimal where
  negative : Bool
  coefficient : Nat
  scale : Nat
  deriving DecidableEq

/-- Why an operation on decimal numbers has no result. -/
inductive DecimalCause where
  | overflow
  | zeroDivisor
  deriving DecidableEq

/-- The wording of a failed operation. -/
def DecimalCause.message (op : BinaryOp) : DecimalCause → String
  | .overflow =>
    match op with
    | .add => "Addition overflowed"
    | .sub => "Subtraction overflowed"
    | .mul => "Multiplication overflowed"
    | .div => "Division overflowed"
    | .rem => "Division overflowed"
  | .zeroDivisor => "Division by zero"

namespace Decimal

/-- The most digits behind the point. -/
def maxScale : Nat := 28

/-- The largest coefficient. -/
def maxCoefficient : Nat := twoPow 96 - 1

/-- A number whose zero has no sign. -/
def make (negative : Bool) (coefficient scale : Nat) : Decimal :=
  ⟨negative && coefficient != 0, coefficient, scale⟩

/-- The number is zero. -/
def isZero (x : Decimal) : Bool := x.coefficient == 0

/-- The coefficient with its sign. -/
def signed (x : Decimal) : Int := if x.negative then -(x.coefficient : Int) else x.coefficient

/-! ### Rounding -/

/-- The fraction `n / d` with the most digits behind the point, up to `most`, for which
the coefficient is in range. A coefficient that rounding takes out of range loses one
more digit. -/
def fit? (n d most : Nat) : Option (Nat × Nat) :=
  let digits := (List.range (Nat.min most maxScale + 1)).reverse.find? fun s =>
    decide (n * tenPow s / d ≤ maxCoefficient)
  digits.bind fun s =>
    let c := roundDiv (n * tenPow s) d
    if c ≤ maxCoefficient then some (c, s)
    else if s = 0 then none
    else some (roundDiv (n * tenPow (s - 1)) d, s - 1)

/-- An exact result, an integer over a power of ten, brought into range. -/
def ofExact (x : Int) (scale : Nat) : Except DecimalCause Decimal :=
  match fit? x.natAbs (tenPow scale) scale with
  | some (c, s) => .ok (make (x < 0) c s)
  | none => .error .overflow

/-! ### Arithmetic -/

/-- Two numbers in units of the larger scale. -/
def aligned (x y : Decimal) : Int × Int × Nat :=
  let s := Nat.max x.scale y.scale
  (x.signed * tenPow (s - x.scale), y.signed * tenPow (s - y.scale), s)

/-- The quotient. -/
def div (x y : Decimal) : Except DecimalCause Decimal :=
  if y.isZero then .error .zeroDivisor
  else
    match fit? (x.coefficient * tenPow y.scale) (y.coefficient * tenPow x.scale) maxScale with
    | some (c, s) => .ok (make (x.negative != y.negative) c s)
    | none => .error .overflow

/-- One step of a long division by words of 32 bits: the remainder `r` so far, with the
word `w` behind it, reduced by a divisor `d` of three words whose top bit is set. The
quotient of a step is one word, estimated from the leading words, so a remainder that
leads with the divisor's own leading word gives that word up instead of being reduced. -/
def remainderStep (d r w : Nat) : Nat :=
  let v := r * twoPow 32 + w
  if r / twoPow 64 = d / twoPow 64 then v % twoPow 96 % d else v % d

/-- The lowest `k` words of 32 bits of a number, the highest of them first. -/
def words (n : Nat) : Nat → List Nat
  | 0 => []
  | k + 1 => n / twoPow (32 * k) % twoPow 32 :: words n k

/-- The remainder of `a` by a divisor `b` of three words, found by long division. Both
are shifted so that the divisor's top bit is set; `a` then takes at most seven words. -/
def longRemainder (a b : Nat) : Nat :=
  let up := twoPow (95 - Nat.log2 b)
  (words (a * up) 7).foldl (remainderStep (b * up)) 0 / up

/-- The remainder of a larger number by a smaller one in the same units. Only a divisor
of three words takes the long division. -/
def remainder (a b : Nat) : Nat :=
  if twoPow 64 ≤ b && b < a then longRemainder a b else a % b

/-- The remainder of the quotient cut off toward zero; it has the sign of the
dividend. -/
def rem (x y : Decimal) : Except DecimalCause Decimal :=
  if y.isZero then .error .zeroDivisor
  else
    let (a, b, s) := aligned x y
    let r : Nat := remainder a.natAbs b.natAbs
    ofExact (if x.negative then -(r : Int) else r) s

/-- An arithmetic operator. -/
def apply (op : BinaryOp) (x y : Decimal) : Except DecimalCause Decimal :=
  match op with
  | .add => let (a, b, s) := aligned x y; ofExact (a + b) s
  | .sub => let (a, b, s) := aligned x y; ofExact (a - b) s
  | .mul => ofExact (x.signed * y.signed) (x.scale + y.scale)
  | .div => div x y
  | .rem => rem x y

/-- The order by value. -/
def compare (x y : Decimal) : Ordering :=
  let (a, b, _) := aligned x y
  Ord.compare a b

/-- The same value without zeros at its end. -/
def normalize (x : Decimal) : Decimal :=
  let s := (List.range (x.scale + 1)).find? fun s =>
    decide (x.coefficient % tenPow (x.scale - s) = 0)
  match s with
  | some s => ⟨x.negative, x.coefficient / tenPow (x.scale - s), s⟩
  | none => x

/-! ### Text -/

/-- The digits with `places` of them behind the point; digits behind those are cut
off. -/
def cutText (x : Decimal) (places : Nat) : String :=
  if places ≤ x.scale then fixedText (x.coefficient / tenPow (x.scale - places)) places
  else fixedText (x.coefficient * tenPow (places - x.scale)) places

/-- The text of a number. -/
def display (s : Style) (x : Decimal) : String :=
  s.frame (s.sign x.negative) "" (x.cutText (s.precision.getD x.scale))

/-- The first character behind the digits that are kept decides how they are rounded:
from five on they are rounded up. What a coefficient out of range loses is one digit
more; without a digit behind the point it has none to lose. -/
def roundBy (c s : Nat) (next : Char) : Option (Nat × Nat) :=
  if next.isDigit || next == '_' || next == '.' then
    if next.isDigit && 53 ≤ next.toNat then
      if c < maxCoefficient then some (c + 1, s)
      else if s = 0 then none
      else some ((c + 5) / 10, s - 1)
    else some (c, s)
  else none

/-- Takes up the digits behind what has been read, the coefficient `c` and `s` digits
behind the point, once the coefficient has outgrown a word. What does not fit is
rounded. A separator behind the last place is skipped, and the digit that follows it is
taken up if the coefficient has room for it. -/
def readWide : Nat → Nat → Bool → List Char → Option (Nat × Nat)
  | c, s, _, [] => some (c, s)
  | c, s, point, '.' :: cs => if point then none else readWide c s true cs
  | c, s, point, '_' :: cs => readWide c s point cs
  | c, s, point, d :: cs =>
    if d.isDigit then
      let c' := 10 * c + (d.toNat - 48)
      let s' := if point then s + 1 else s
      if maxCoefficient < c' then if point then roundBy c s d else none
      else
        match cs with
        | [] => some (c', s')
        | '_' :: ds => readWide c' s' point ds
        | e :: ds => if maxScale ≤ s' then roundBy c' s' e else readWide c' s' point (e :: ds)
    else none

/-- A coefficient from here on has outgrown a word: one more digit may take it beyond 64
bits. -/
def wideFrom : Nat := 1844674407370954906

/-- Takes up the digits behind what has been read; `any` says that a digit has been. A
separator stands only behind a digit. -/
def readDigits : Nat → Nat → Bool → Bool → List Char → Option (Nat × Nat)
  | c, s, _, any, [] => if any then some (c, s) else none
  | c, s, point, any, '.' :: cs => if point then none else readDigits c s true any cs
  | c, s, point, any, '_' :: cs => if any then readDigits c s point any cs else none
  | c, s, point, _, d :: cs =>
    if d.isDigit then
      let c' := 10 * c + (d.toNat - 48)
      let s' := if point then s + 1 else s
      match cs with
      | [] => some (c', s')
      | e :: ds =>
        if maxScale ≤ s' then roundBy c' s' e
        else if wideFrom ≤ c' then readWide c' s' point (e :: ds)
        else readDigits c' s' point true (e :: ds)
    else none

/-- The number a text stands for. A count of places beyond the largest starts again at
zero. -/
def ofText? (text : String) : Option Decimal :=
  let (negative, cs) := match text.toList with
    | '-' :: cs => (true, cs)
    | '+' :: cs => (false, cs)
    | cs => (false, cs)
  (readDigits 0 0 false false cs).map fun (c, s) => make negative c (s % (maxScale + 1))

end Decimal
end Newtype
