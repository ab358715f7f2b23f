import Newtype.Kind.TraitSet

/-!
# Primitive types

* `Primitive` — the built-in scalar types.
* `Primitive.name`, `Primitive.ofName?` — their spelling.
* `Primitive.isIntegral`, `isFloat`, `isByteWide` — their classes.
* `Primitive.traits` — their traits.
-/

namespace Newtype

/-- The built-in scalar types. -/
inductive Primitive where
  | i8
  | u8
  | i16
  | u16
  | i32
  | u32
  | i64
  | u64
  | i128
  | u128
  | isize
  | usize
  | f32
  | f64
  | bool
  | char
  deriving DecidableEq

namespace Primitive

/-- The spelling of a primitive type. -/
def name : Primitive → String
  | i8 => "i8"
  | u8 => "u8"
  | i16 => "i16"
  | u16 => "u16"
  | i32 => "i32"
  | u32 => "u32"
  | i64 => "i64"
  | u64 => "u64"
  | i128 => "i128"
  | u128 => "u128"
  | isize => "isize"
  | usize => "usize"
  | f32 => "f32"
  | f64 => "f64"
  | bool => "bool"
  | char => "char"

/-- All primitive types. -/
def all : List Primitive :=
  [i8, u8, i16, u16, i32, u32, i64, u64, i128, u128, isize, usize, f32, f64, bool, char]

/-- The primitive type with a spelling. -/
def ofName? (s : String) : Option Primitive := all.find? (·.name == s)

/-- Integers of every width. -/
def isIntegral : Primitive → Bool
  | f32 | f64 | bool | char => false
  | _ => true

/-- Floating point numbers. -/
def isFloat : Primitive → Bool
  | f32 | f64 => true
  | _ => false

/-- Integers of one byte, whose arithmetic is done in a wider type. -/
def isByteWide : Primitive → Bool
  | i8 | u8 => true
  | _ => false

/-- The traits of a primitive type. -/
def traits (p : Primitive) : TraitSet := if p.isFloat then .float else .value

end Primitive
end Newtype
