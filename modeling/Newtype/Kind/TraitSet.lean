/-!
# Trait sets

The standard traits a type is known to have. A member is generated only if the
types it rests on have the traits it needs, so a compound has the traits that all
of its parts share.

* `TraitSet` — a set of traits, one flag for each.
* `value`, `float`, `owned`, `assumed` — the sets of common kinds of types.
* `inter`, `shared` — what two types, or all types of a list, share.
-/

namespace Newtype

/-- A set of standard traits. -/
structure TraitSet where
  copy : Bool
  eq : Bool
  hash : Bool
  ord : Bool
  partialOrd : Bool
  display : Bool
  deriving DecidableEq, Inhabited

namespace TraitSet

/-- Plain values: integers, truth values, characters, identifiers, decimals. -/
def value : TraitSet := ⟨true, true, true, true, true, true⟩

/-- Floating point numbers: only a partial equality and order. -/
def float : TraitSet := ⟨true, false, false, false, true, true⟩

/-- Owned values with a total order, such as text. -/
def owned : TraitSet := { value with copy := false }

/-- What a type nothing is known about is taken to have. -/
def assumed : TraitSet := ⟨false, true, true, false, false, true⟩

/-- The traits of both sets. -/
def inter (s t : TraitSet) : TraitSet where
  copy := s.copy && t.copy
  eq := s.eq && t.eq
  hash := s.hash && t.hash
  ord := s.ord && t.ord
  partialOrd := s.partialOrd && t.partialOrd
  display := s.display && t.display

/-- The traits of all sets of a list; none for the empty list. -/
def shared : List TraitSet → Option TraitSet
  | [] => none
  | s :: ss => some (ss.foldl inter s)

end TraitSet
end Newtype
