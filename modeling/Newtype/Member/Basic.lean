import Newtype.Member.Policy

/-!
# Members of a wrapper

* `Slot`, `Storage` — what a wrapper holds: one value, or a tuple of values.
* `Check` — how values are checked when a wrapper is made.
* `BinaryOp`, `ArithmeticOutput`, `NumberFormat` — operators and text forms.
* `Member` — a generated member.
* `Plan` — all members of one wrapper, in order.
-/

namespace Newtype

/-! ### Storage -/

/-- One value of the storage. -/
structure Slot where
  accessor : String
  type : String
  /-- the accessor gives a copy of the value, not a reference to it -/
  copy : Bool
  deriving DecidableEq

/-- What a wrapper holds. -/
structure Storage where
  slots : List Slot
  traits : TraitSet
  deriving DecidableEq

/-- The slot of a field. -/
def Slot.ofField (f : Field) : Slot := ⟨f.accessor, f.type.text, f.kind.traits.copy⟩

namespace Storage

/-- The storage for some fields. -/
def ofFields (fields : List Field) : Storage :=
  ⟨fields.map .ofField, (TraitSet.shared (fields.map (·.kind.traits))).getD .value⟩

/-- More than one value. -/
def isCompound (s : Storage) : Bool := 1 < s.slots.length

/-- The type of the storage: the type of a single slot, otherwise a tuple. -/
def type (s : Storage) : String :=
  match s.slots with
  | [slot] => slot.type
  | slots => "(" ++ ", ".intercalate (slots.map (·.type)) ++ ")"

/-- The expression for a slot of the wrapper in a variable. -/
def slotExpr (s : Storage) (receiver : String) (index : Nat) : String :=
  if s.isCompound then receiver ++ ".value." ++ toString index else receiver ++ ".value"

end Storage

/-! ### Parts of members -/

/-- How the values are checked when a wrapper is made. -/
inductive Check where
  | none
  | fallible (error : String)
  | panicking
  deriving DecidableEq

/-- The error type of a check that can fail. -/
def Check.error? : Check → Option String
  | .fallible e => some e
  | _ => Option.none

/-- The check for a target with a hook. -/
def Check.of (hook : Option Hook) : Check :=
  match hook with
  | some ⟨some e⟩ => .fallible e
  | some ⟨Option.none⟩ => .panicking
  | Option.none => .none

/-- The arithmetic operators. -/
inductive BinaryOp where
  | add
  | sub
  | mul
  | div
  | rem
  deriving DecidableEq

namespace BinaryOp

/-- All operators in order. -/
def all : List BinaryOp := [add, sub, mul, div, rem]

/-- The trait of an operator. -/
def traitName : BinaryOp → String
  | add => "Add"
  | sub => "Sub"
  | mul => "Mul"
  | div => "Div"
  | rem => "Rem"

/-- The method of an operator. -/
def method : BinaryOp → String
  | add => "add"
  | sub => "sub"
  | mul => "mul"
  | div => "div"
  | rem => "rem"

/-- The sign of an operator. -/
def symbol : BinaryOp → String
  | add => "+"
  | sub => "-"
  | mul => "*"
  | div => "/"
  | rem => "%"

end BinaryOp

/-- What an operator gives: a plain number of a wider type, or a wrapper again. -/
inductive ArithmeticOutput where
  | widened
  | wrapper
  deriving DecidableEq

/-- Text forms of numbers besides the ordinary one. -/
inductive NumberFormat where
  | lowerHex
  | upperHex
  | octal
  | binary
  | lowerExp
  | upperExp
  deriving DecidableEq

namespace NumberFormat

/-- The text forms of integers. -/
def integral : List NumberFormat := [lowerHex, upperHex, octal, binary, lowerExp, upperExp]

/-- The text forms of fractional numbers. -/
def fractional : List NumberFormat := [lowerExp, upperExp]

/-- The trait of a text form. -/
def traitName : NumberFormat → String
  | lowerHex => "LowerHex"
  | upperHex => "UpperHex"
  | octal => "Octal"
  | binary => "Binary"
  | lowerExp => "LowerExp"
  | upperExp => "UpperExp"

end NumberFormat

/-! ### Members -/

/-- A generated member. -/
inductive Member where
  | constructor (check : Check)
  /-- making a wrapper from a reference to one -/
  | copyConstructor (bitwise : Bool)
  | accessor (slot : Nat)
  | equality
  | totalEquality
  | hash
  /-- comparing a wrapper with a plain value -/
  | storageEquality
  /-- comparing a wrapper with a reference to one -/
  | byRefEquality
  | compareTo (total : Bool)
  | relationalOperators (total : Bool)
  | totalOrder
  | arithmetic (op : BinaryOp) (output : ArithmeticOutput)
  /-- making a wrapper from a plain value -/
  | fromStorage
  | intoInner
  | intoStorage
  | display
  | debug
  | numericFormat (format : NumberFormat)
  | tryFormat
  | generate
  deriving DecidableEq

/-- All members of one wrapper, in order. -/
structure Plan where
  typeName : String
  storage : Storage
  check : Check
  category : Category
  members : List Member
  deriving DecidableEq

end Newtype
