import Newtype.Number.Decimal
import Newtype.Number.Integer

/-!
# Faults of wrappers

Why a wrapper cannot be made, or an operator has no result.

* `Fault` — the causes.
* `Fault.isPanic` — which of them stop the program.
* `Fault.message` — their wording.
-/

namespace Newtype

/-- Why a member of a wrapper has no result. -/
inductive Fault where
  | arithmetic (op : BinaryOp) (cause : ArithmeticCause)
  | decimal (op : BinaryOp) (cause : DecimalCause)
  /-- an amount that is not positive -/
  | notPositive (amount : Int)
  /-- a percentage above one hundred -/
  | outOfRange (percentage : Int)
  /-- a range that ends below its start -/
  | inverted (lowest highest : Int)
  deriving DecidableEq

namespace Fault

/-- The fault stops the program; the others are returned. -/
def isPanic : Fault → Bool
  | arithmetic .. | decimal .. | outOfRange _ => true
  | notPositive _ | inverted .. => false

/-- The wording of a fault. -/
def message : Fault → String
  | arithmetic op cause => cause.message op
  | decimal op cause => cause.message op
  | notPositive amount => "amount must be positive, got " ++ integerText amount
  | outOfRange percentage => "percentage out of range: " ++ integerText percentage
  | inverted lowest highest =>
    "range is inverted: lowest " ++ integerText lowest ++ " is above highest " ++
      integerText highest

end Fault
end Newtype
