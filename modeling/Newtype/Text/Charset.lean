/-!
# Sets of characters by their bounds

A set of characters is stored as the increasing list of character numbers at
which membership changes: before the first bound no character is in the set,
from the first to the second every one is, and so on. Membership is therefore
the parity of the number of bounds at or below the character.

* `Charset` — a set given by its bounds.
* `Charset.rank` — how many bounds are at or below a number, by bisection.
* `Charset.mem` — membership.
-/

namespace Newtype
namespace Text

/-- A set of characters, given by the numbers at which membership changes. -/
structure Charset where
  bounds : Array Nat

/-- Bisection between `lo` and `hi` for the number of bounds at or below `n`; the
first argument bounds the number of halvings. -/
def Charset.rankBetween (s : Charset) (n : Nat) : Nat → Nat → Nat → Nat
  | 0, lo, _ => lo
  | k + 1, lo, hi =>
    if lo < hi then
      let mid := (lo + hi) / 2
      match s.bounds[mid]? with
      | none => lo
      | some b => if b ≤ n then s.rankBetween n k (mid + 1) hi else s.rankBetween n k lo mid
    else lo

/-- The number of bounds at or below `n`. -/
def Charset.rank (s : Charset) (n : Nat) : Nat :=
  s.rankBetween n (s.bounds.size + 1) 0 s.bounds.size

/-- Membership: an odd number of changes has happened. -/
def Charset.mem (s : Charset) (c : Char) : Bool :=
  s.rank c.toNat % 2 == 1

end Text
end Newtype
