import Newtype.Kind.Primitive

/-!
# Kinds of types

What is known about the type of a field.

* `Kind` — a primitive, one of three types the generator knows, or any other type
  with its traits.
* `Category` — the coarse classes that decide about operators.
-/

namespace Newtype

/-- What is known about a type. -/
inductive Kind where
  | primitive (p : Primitive)
  | string
  | uuid
  | decimal
  /-- any other type, with its traits -/
  | named (traits : TraitSet)
  deriving DecidableEq

instance : Inhabited Kind := ⟨.string⟩

/-- The traits of the types of a kind. -/
def Kind.traits : Kind → TraitSet
  | .primitive p => p.traits
  | .string => .owned
  | .uuid => .value
  | .decimal => .value
  | .named t => t

/-- The classes of types that decide about operators. One-byte integers stand apart
from the other integers, because their arithmetic is done in a wider type. -/
inductive Category where
  | integral
  | fractional
  | byteWide
  | identifier
  | other
  deriving DecidableEq

namespace Category

/-- The class of a kind. -/
def ofKind : Kind → Category
  | .primitive p =>
    if p.isByteWide then .byteWide
    else if p.isIntegral then .integral
    else if p.isFloat then .fractional
    else .other
  | .decimal => .fractional
  | .uuid => .identifier
  | .string => .other
  | .named _ => .other

/-- Numbers of every class. -/
def isNumeric : Category → Bool
  | integral | fractional | byteWide => true
  | identifier | other => false

/-- Integers of every width. -/
def isIntegral : Category → Bool
  | integral | byteWide => true
  | fractional | identifier | other => false

end Category
end Newtype
