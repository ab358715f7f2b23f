import Newtype.Number.Binary
import Newtype.Number.Style

/-!
# Text of binary floating point numbers

A number is written with the fewest digits that read back as the same number. Of two
such texts the nearer one is taken, and of two equally near ones the larger.

* `decimalExponent` — the place of the first digit.
* `shortest` — the fewest digits that read back.
* `Binary.display`, `Binary.debug`, `Binary.scientific` — the text forms.
-/

namespace Newtype
namespace Binary

/-! ### Fewest digits -/

/-- A power of ten as a fraction. -/
def powTen (e : Int) : Nat × Nat := (tenPow e.toNat, tenPow (-e).toNat)

/-- The largest `e` with `10 ^ e ≤ m · 2 ^ q`. -/
def decimalExponent (m : Nat) (q : Int) : Int :=
  let (a, b) := powTwo q
  let atLeast (e : Int) : Bool := let (c, d) := powTen e; decide (c * b ≤ m * a * d)
  let e := ((m.log2 : Int) + q) * 1233 / 4096
  if !atLeast e then e - 1 else if atLeast (e + 1) then e + 1 else e

/-- The decimal number with steps of `10 ^ k` that reads back as `m · 2 ^ q` and is
nearest to it, in units of `10 ^ k`. What reads back lies within half a step of the
binary grid, which is finer below a power of two; an end counts if `m` is even. -/
def nearest? (m : Nat) (q k : Int) : Option Nat :=
  let (a, b) := powTwo (q - 2)
  let (c, d) := powTen k
  let step := c * b
  let unit := a * d
  let value := 4 * m * unit
  let below := (if m = twoPow 52 ∧ leastExponent < q then 1 else 2) * unit
  let above := 2 * unit
  let g := value / step
  let down := value - g * step
  let up := (g + 1) * step - value
  let inside (distance limit : Nat) : Bool :=
    if m % 2 = 0 then decide (distance ≤ limit) else decide (distance < limit)
  if inside up above && (!inside down below || decide (up ≤ down)) then some (g + 1)
  else if inside down below then some g
  else none

/-- The fewest digits that read back as `m · 2 ^ q`, and the number of digits before
the point. Seventeen digits are always enough. -/
def shortest (m : Nat) (q : Int) : List Char × Int :=
  let e := decimalExponent m q
  let found := (List.range 17).findSome? fun (n : Nat) =>
    let k : Int := e - n
    (nearest? m q k).map fun g => (g, k)
  match found with
  | some (g, k) =>
    let (digits, length) := significant g
    (digits, length + k)
  | none => (['0'], 1)

/-- The digits of a finite number, and the number of digits before the point. -/
def digits (m : Nat) (q : Int) : List Char × Int := if m = 0 then (['0'], 1) else shortest m q

/-! ### Text forms -/

/-- The text of what is infinite or no number, which has no sign. -/
def special (s : Style) : Binary → Option String
  | .nan => some (s.frame "" "" "NaN")
  | .infinite negative => some (s.frame (s.sign negative) "" "inf")
  | .finite .. => none

/-- A finite number with a fixed number of digits behind the point. -/
def fixed (m : Nat) (q : Int) (places : Nat) : String :=
  let (a, b) := powTwo q
  fixedText (roundDiv (m * a * tenPow places) b) places

/-- The ordinary text form: all digits, without an exponent. -/
def display (s : Style) (x : Binary) : String :=
  match x with
  | .finite negative m q =>
    let body := match s.precision with
      | some places => fixed m q places
      | none => let (ds, point) := digits m q; pointText ds point 0
    s.frame (s.sign negative) "" body
  | x => (special s x).getD ""

/-- The text form with an exponent. -/
def scientific (s : Style) (mark : Char) (x : Binary) : String :=
  match x with
  | .finite negative m q =>
    let (ds, point) := digits m q
    s.frame (s.sign negative) "" (scientificText ds point mark)
  | x => (special s x).getD ""

/-- The text form for debugging: at least one digit behind the point, but an exponent
for numbers below `10 ^ -4` and from `10 ^ 16` on. -/
def debug (x : Binary) : String :=
  match x with
  | .finite negative m q =>
    let (ds, point) := digits m q
    (({} : Style).sign negative) ++
      (if m ≠ 0 ∧ (point ≤ -4 ∨ 16 < point) then scientificText ds point 'e'
      else pointText ds point 1)
  | x => (special {} x).getD ""

/-- The text forms with an exponent; there are no others. -/
def format (f : NumberFormat) (s : Style) (x : Binary) : String :=
  match f with
  | .upperExp => scientific s 'E' x
  | _ => scientific s 'e' x

end Binary
end Newtype
