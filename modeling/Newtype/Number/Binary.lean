import Newtype.Member.Basic
import Newtype.Number.Digits

/-!
# Binary floating point numbers

Numbers of 64 bits: a sign, 53 binary digits and an exponent. Every result is the
exact one rounded to the nearest number, a half to the even one.

* `Binary` — not a number, infinite, or a finite number.
* `Binary.ofBits`, `Binary.toBits` — its bits.
* `Binary.round` — the number nearest to a fraction.
* `Binary.apply` — the arithmetic operators.
* `Binary.compare` — the order; what is no number has no place in it.
-/

namespace Newtype

/-- A binary floating point number. A finite one stands for `m · 2 ^ q`. -/
inductive Binary where
  | nan
  | infinite (negative : Bool)
  | finite (negative : Bool) (m : Nat) (q : Int)
  deriving DecidableEq

namespace Binary

/-- The least exponent. -/
def leastExponent : Int := -1074

/-- The largest exponent of 53 digits. -/
def largestExponent : Int := 971

/-- A zero with a sign. -/
def zero (negative : Bool) : Binary := .finite negative 0 leastExponent

/-! ### Bits -/

/-- The number with given bits. -/
def ofBits (b : Nat) : Binary :=
  let negative := twoPow 63 ≤ b
  let e : Nat := b / twoPow 52 % twoPow 11
  let f : Nat := b % twoPow 52
  if e = 2047 then if f = 0 then .infinite negative else .nan
  else if e = 0 then .finite negative f leastExponent
  else .finite negative (f + twoPow 52) ((e : Int) - 1075)

/-- The bits of a number. -/
def toBits : Binary → Nat
  | .nan => 0x7ff8000000000000
  | .infinite negative => (if negative then twoPow 63 else 0) + 2047 * twoPow 52
  | .finite negative m q =>
    (if negative then twoPow 63 else 0) +
      (if m < twoPow 52 then m else (q + 1075).toNat * twoPow 52 + (m - twoPow 52))

/-! ### Rounding -/

/-- A power of two as a fraction. -/
def powTwo (e : Int) : Nat × Nat := (twoPow e.toNat, twoPow (-e).toNat)

/-- The largest `e` with `2 ^ e ≤ n / d`. -/
def magnitude (n d : Nat) : Int :=
  let e : Int := (n.log2 : Int) - (d.log2 : Int)
  let (a, b) := powTwo e
  if n * b < d * a then e - 1 else e

/-- The larger of two exponents. -/
def larger (p q : Int) : Int := if p ≤ q then q else p

/-- The number nearest to the fraction `n / d`. -/
def round (negative : Bool) (n d : Nat) : Binary :=
  if n = 0 then zero negative
  else
    let q := larger (magnitude n d - 52) leastExponent
    let (a, b) := powTwo q
    let m := roundDiv (n * b) (d * a)
    let (m, q) := if m = twoPow 53 then (twoPow 52, q + 1) else (m, q)
    if largestExponent < q then .infinite negative else .finite negative m q

/-- The number nearest to `x · 2 ^ q`; an exact zero has the given sign. -/
def roundInt (zeroSign : Bool) (x q : Int) : Binary :=
  if x = 0 then zero zeroSign
  else
    let (a, b) := powTwo q
    round (x < 0) (x.natAbs * a) b

/-! ### Arithmetic -/

/-- A number with its sign. -/
def signed (negative : Bool) (m : Nat) : Int := if negative then -(m : Int) else m

/-- Two numbers in units of the smaller exponent. -/
def aligned (x y : Int) (p q : Int) : Int × Int × Int :=
  let r := if p ≤ q then p else q
  (x * twoPow (p - r).toNat, y * twoPow (q - r).toNat, r)

/-- The number with the other sign. -/
def neg : Binary → Binary
  | .nan => .nan
  | .infinite s => .infinite !s
  | .finite s m q => .finite (!s) m q

/-- The sum. -/
def add : Binary → Binary → Binary
  | .finite s m p, .finite t n q =>
    let (x, y, r) := aligned (signed s m) (signed t n) p q
    roundInt (s && t) (x + y) r
  | .infinite s, .infinite t => if s = t then .infinite s else .nan
  | .infinite s, .finite .. => .infinite s
  | .finite .., .infinite t => .infinite t
  | _, _ => .nan

/-- The product. -/
def mul : Binary → Binary → Binary
  | .finite s m p, .finite t n q => roundInt (s != t) (signed (s != t) (m * n)) (p + q)
  | .infinite s, .infinite t => .infinite (s != t)
  | .infinite s, .finite t n _ => if n = 0 then .nan else .infinite (s != t)
  | .finite s m _, .infinite t => if m = 0 then .nan else .infinite (s != t)
  | _, _ => .nan

/-- The quotient. -/
def div : Binary → Binary → Binary
  | .finite s m p, .finite t n q =>
    if n = 0 then if m = 0 then .nan else .infinite (s != t)
    else
      let (a, b) := powTwo (p - q)
      round (s != t) (m * a) (n * b)
  | .infinite s, .finite t _ _ => .infinite (s != t)
  | .finite s _ _, .infinite t => zero (s != t)
  | _, _ => .nan

/-- The remainder of the quotient cut off toward zero; it has the sign of the
dividend. -/
def rem : Binary → Binary → Binary
  | .finite s m p, .finite t n q =>
    if n = 0 then .nan
    else
      let (x, y, r) := aligned (signed s m) (signed t n) p q
      roundInt s (x.tmod y) r
  | .finite s m p, .infinite _ => .finite s m p
  | _, _ => .nan

/-- An arithmetic operator. -/
def apply (op : BinaryOp) (x y : Binary) : Binary :=
  match op with
  | .add => add x y
  | .sub => add x (neg y)
  | .mul => mul x y
  | .div => div x y
  | .rem => rem x y

/-! ### Order -/

/-- The order of two numbers; zeros are equal, whatever their sign. -/
def compare : Binary → Binary → Option Ordering
  | .nan, _ => none
  | _, .nan => none
  | .infinite s, .infinite t =>
    some (if s = t then .eq else if s then .lt else .gt)
  | .infinite s, .finite .. => some (if s then .lt else .gt)
  | .finite .., .infinite t => some (if t then .gt else .lt)
  | .finite s m p, .finite t n q =>
    let (x, y, _) := aligned (signed s m) (signed t n) p q
    some (Ord.compare x y)

end Binary
end Newtype
