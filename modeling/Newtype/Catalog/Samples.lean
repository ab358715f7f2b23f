import Newtype.Catalog.Debug
import Newtype.Catalog.Wrapper
import Newtype.Number.Shortest
import Newtype.Number.Uuid
import Newtype.Text.Quoted

/-!
# A catalogue of wrappers

Wrappers around numbers, texts, identifiers and pairs, with the members that are
generated for them and the few that their author has written.

* `score`, `percentage`, `scoreId`, … — the wrappers.
* `intOp`, `widenedOp`, `floatOp`, `decimalOp` — their operators.
* `displayPair`, `pairForm`, … — their text forms.
-/

namespace Newtype
namespace Catalog

/-! ### Wrappers around whole numbers -/

/-- Goals or points. -/
def score : Wrapper Int := { name := "Score" }

/-- A whole percentage; above one hundred it panics. -/
def percentage : Wrapper Int where
  name := "Percentage"
  check := .panicking
  validate x := if x ≤ 100 then none else some (.outOfRange x)

/-- An identifier of a score, with operators. -/
def scoreId : Wrapper Int := { name := "ScoreId" }

/-- An identifier of a league. -/
def leagueId : Wrapper Int := { name := "LeagueId" }

/-- An identifier of a match. -/
def matchId : Wrapper Int := { name := "MatchId" }

/-- An amount, which has to be positive. -/
def positiveAmount : Wrapper Int where
  name := "PositiveAmount"
  check := .fallible "ValidationError"
  validate x := if 0 < x then none else some (.notPositive x)

/-- An operator on whole numbers of a type. -/
def intOp (t : IntType) (mode : Overflow) (op : BinaryOp) (x y : Int) : Except Fault Int :=
  match t.apply mode op x y with
  | .ok z => .ok z
  | .error c => .error (.arithmetic op c)

/-- An operator that gives a wrapper of whole numbers again. -/
def wrappedOp {w : Wrapper Int} (t : IntType) (op : BinaryOp) (x y : Wrapped w)
    (mode : Overflow := .checked) : Except Fault (Wrapped w) := x.combine (intOp t mode op) y

/-- An operator on one-byte numbers, which gives a plain number of four bytes. -/
def widenedOp {w : Wrapper Int} (op : BinaryOp) (x y : Wrapped w)
    (mode : Overflow := .checked) : Except Fault Int := intOp .i32 mode op x.value y.value

/-! ### Wrappers around other numbers -/

/-- A probability. -/
def probability : Wrapper Binary := { name := "Probability" }

/-- A length in meters. -/
def meterLength : Wrapper Binary := { name := "MeterLength" }

/-- A length in centimeters. -/
def centimeterLength : Wrapper Binary := { name := "CentimeterLength" }

/-- An amount of money. -/
def money : Wrapper Decimal := { name := "Money" }

/-- An operator on floating point numbers, which always has a result. -/
def floatOp {w : Wrapper Binary} (op : BinaryOp) (x y : Wrapped w) :
    Except Fault (Wrapped w) := x.combine (fun a b => .ok (Binary.apply op a b)) y

/-- An operator on decimal numbers. -/
def decimalOp {w : Wrapper Decimal} (op : BinaryOp) (x y : Wrapped w) :
    Except Fault (Wrapped w) :=
  x.combine (fun a b =>
    match Decimal.apply op a b with
    | .ok z => .ok z
    | .error c => .error (.decimal op c)) y

/-- A small whole number as a floating point number. -/
def ofNat (n : Nat) : Binary := .round false n 1

/-- The probability that something does not happen. -/
def complement (x : Binary) : Binary := Binary.apply .sub (ofNat 1) x

/-- Meters in centimeters. -/
def toCentimeters (x : Binary) : Binary := Binary.mul x (ofNat 100)

/-- Centimeters in meters. -/
def toMeters (x : Binary) : Binary := Binary.div x (ofNat 100)

/-! ### Texts, identifiers and pairs -/

/-- A tag. -/
def label : Wrapper String := { name := "Label" }

/-- The text of a tag. -/
def labelText (s : String) : String := "#" ++ s

/-- An identifier of a product. -/
def productId : Wrapper Uuid := { name := "ProductId" }

/-- The key of a session. -/
def sessionKey : Wrapper Uuid := { name := "SessionKey" }

/-- The result of a match: the goals at home and away. -/
def matchResult : Wrapper (Int × Int) := { name := "MatchResult" }

/-- A match in a league. -/
def fixture : Wrapper (Wrapped leagueId × Wrapped matchId) := { name := "Fixture" }

/-- A range of scores, which may not end below its start. -/
def scoreRange : Wrapper (Int × Int) where
  name := "ScoreRange"
  check := .fallible "RangeError"
  validate r := if r.2 < r.1 then some (.inverted r.1 r.2) else none

/-- A score lies in a range. -/
def inRange (r : Int × Int) (x : Int) : Bool := decide (r.1 ≤ x) && decide (x ≤ r.2)

/-! ### Order -/

/-- The order of pairs: by the first parts, then by the second. -/
def comparePairs (x y : Int × Int) : Ordering :=
  (compare x.1 y.1).then (compare x.2 y.2)

/-- The relations `<`, `<=`, `>` and `>=` of two values; none holds without an order. -/
def relations (o : Option Ordering) : List Bool :=
  match o with
  | some .lt => [true, true, false, false]
  | some .eq => [false, true, false, true]
  | some .gt => [false, false, true, true]
  | none => [false, false, false, false]

/-! ### Text forms -/

/-- A pair in parentheses; the style is that of each part. -/
def displayPair (s : Style) (x y : Int) : String :=
  "(" ++ IntType.display s x ++ ", " ++ IntType.display s y ++ ")"

/-- A single value for debugging. -/
def singleForm (name text : String) : DebugForm := .tuple name (.atom text)

/-- Two whole numbers for debugging. -/
def pairForm (name first second : String) (x y : Int) : DebugForm :=
  .struct name [(first, .atom (integerText x)), (second, .atom (integerText y))]

/-- A tag for debugging. -/
def labelForm (s : String) : DebugForm := singleForm label.name (Text.quoted s)

/-- The result of a match for debugging. -/
def matchResultForm (r : Int × Int) : DebugForm :=
  pairForm matchResult.name "home_goals" "away_goals" r.1 r.2

/-- A range of scores for debugging. -/
def scoreRangeForm (r : Int × Int) : DebugForm :=
  pairForm scoreRange.name "lowest" "highest" r.1 r.2

/-- A match in a league for debugging. -/
def fixtureForm (f : Wrapped leagueId × Wrapped matchId) : DebugForm :=
  .struct fixture.name
    [("league_id", singleForm leagueId.name (integerText f.1.value)),
      ("match_id", singleForm matchId.name (integerText f.2.value))]

/-- A range that is refused, for debugging. -/
def invertedForm (lowest highest : Int) : DebugForm :=
  pairForm "Inverted" "lowest" "highest" lowest highest

end Catalog
end Newtype
