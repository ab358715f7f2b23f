import Newtype.Member.Basic
import Newtype.Number.Digits
import Newtype.Number.Style

/-!
# Whole numbers of a fixed width

Arithmetic, in which a result outside the type is refused or taken back into it, and the text
forms.

* `IntType` — a type of whole numbers.
* `Overflow` — what becomes of a result outside the type.
* `IntType.wrap`, `IntType.settle`, `IntType.apply` — the arithmetic operators.
* `IntType.display`, `IntType.format` — the text forms.
-/

namespace Newtype

/-- A type of whole numbers. -/
structure IntType where
  signed : Bool
  bits : Nat
  deriving DecidableEq

/-- What becomes of a sum, a difference or a product outside the type, which a build decides. -/
inductive Overflow where
  /-- it is refused -/
  | checked
  /-- it is taken back into the type -/
  | wrapping
  deriving DecidableEq

/-- Why an operation has no result. -/
inductive ArithmeticCause where
  | overflow
  | zeroDivisor
  deriving DecidableEq

/-- The wording of a failed operation. -/
def ArithmeticCause.message (op : BinaryOp) : ArithmeticCause → String
  | .overflow =>
    match op with
    | .add => "attempt to add with overflow"
    | .sub => "attempt to subtract with overflow"
    | .mul => "attempt to multiply with overflow"
    | .div => "attempt to divide with overflow"
    | .rem => "attempt to calculate the remainder with overflow"
  | .zeroDivisor =>
    match op with
    | .rem => "attempt to calculate the remainder with a divisor of zero"
    | _ => "attempt to divide by zero"

namespace IntType

/-- Numbers of one byte. -/
def u8 : IntType := ⟨false, 8⟩

/-- Signed numbers of four bytes. -/
def i32 : IntType := ⟨true, 32⟩

/-- Signed numbers of eight bytes. -/
def i64 : IntType := ⟨true, 64⟩

/-- The smallest number of a type. -/
def least (t : IntType) : Int := if t.signed then -(twoPow (t.bits - 1) : Int) else 0

/-- The largest number of a type. -/
def largest (t : IntType) : Int :=
  if t.signed then (twoPow (t.bits - 1) : Int) - 1 else (twoPow t.bits : Int) - 1

/-- The number is one of the type. -/
def contains (t : IntType) (x : Int) : Bool := decide (t.least ≤ x) && decide (x ≤ t.largest)

/-- The exact result of an operator; quotients go toward zero, and a remainder has
the sign of the dividend. -/
def exact (op : BinaryOp) (x y : Int) : Int :=
  match op with
  | .add => x + y
  | .sub => x - y
  | .mul => x * y
  | .div => x.tdiv y
  | .rem => x.tmod y

/-- The number of the type with the same bits. -/
def wrap (t : IntType) (x : Int) : Int := t.least + (x - t.least) % twoPow t.bits

/-- What an exact result gives in a build. -/
def settle (t : IntType) (mode : Overflow) (r : Int) : Except ArithmeticCause Int :=
  match mode with
  | .checked => if t.contains r then .ok r else .error .overflow
  | .wrapping => .ok (t.wrap r)

/-- An operator. A zero divisor and a quotient outside the type are refused in every build, and a
remainder is refused when its quotient is. -/
def apply (t : IntType) (mode : Overflow) (op : BinaryOp) (x y : Int) :
    Except ArithmeticCause Int :=
  match op with
  | .div => if y = 0 then .error .zeroDivisor else t.settle .checked (x.tdiv y)
  | .rem =>
    if y = 0 then .error .zeroDivisor
    else if t.contains (x.tdiv y) then .ok (x.tmod y) else .error .overflow
  | _ => t.settle mode (exact op x y)

/-! ### Text forms -/

/-- The number as a natural number of the same bits. -/
def pattern (t : IntType) (x : Int) : Nat := (x % twoPow t.bits).toNat

/-- Digits with letters in upper case. -/
def upperDigits (cs : List Char) : List Char := cs.map Char.toUpper

/-- The ordinary text form; a precision has no effect. -/
def display (s : Style) (x : Int) : String :=
  s.frame (s.sign (x < 0)) "" (decimalText x.natAbs)

/-- The text form with an exponent. -/
def scientific (s : Style) (mark : Char) (x : Int) : String :=
  let (digits, point) := significant x.natAbs
  s.frame (s.sign (x < 0)) "" (scientificText digits point mark)

/-- The bits of a number in some base. -/
def radix (t : IntType) (s : Style) (base : Nat) (lead : String) (upper : Bool) (x : Int) :
    String :=
  let digits := Nat.toDigits base (t.pattern x)
  s.frame (s.sign false) (if s.alternate then lead else "")
    (String.ofList (if upper then upperDigits digits else digits))

/-- The other text forms. -/
def format (t : IntType) (f : NumberFormat) (s : Style) (x : Int) : String :=
  match f with
  | .lowerHex => t.radix s 16 "0x" false x
  | .upperHex => t.radix s 16 "0x" true x
  | .octal => t.radix s 8 "0o" false x
  | .binary => t.radix s 2 "0b" false x
  | .lowerExp => scientific s 'e' x
  | .upperExp => scientific s 'E' x

end IntType
end Newtype
