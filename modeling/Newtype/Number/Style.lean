/-!
# Styles of number text

How the text of a number is set: its sign, the width it fills, and where it stands
in that width.

* `Style` — the wishes.
* `Style.sign` — the sign of a number.
* `Style.frame` — a text set as wished.
-/

namespace Newtype

/-- Where a text stands in the width it fills. -/
inductive Align where
  | left
  | center
  | right
  deriving DecidableEq

/-- How the text of a number is set. -/
structure Style where
  fill : Char := ' '
  align : Align := .right
  /-- a sign also before numbers that are not negative -/
  plus : Bool := false
  /-- the base is written in front -/
  alternate : Bool := false
  /-- zeros behind the sign fill the width -/
  zeros : Bool := false
  width : Nat := 0
  /-- the number of digits behind the point -/
  precision : Option Nat := none
  deriving DecidableEq

/-- Some equal characters. -/
def repeated (n : Nat) (c : Char) : String := String.ofList (List.replicate n c)

namespace Style

/-- The sign of a number. -/
def sign (s : Style) (negative : Bool) : String :=
  if negative then "-" else if s.plus then "+" else ""

/-- A sign, a lead and a body, set to the width. In the middle, the odd place goes to
the right. -/
def frame (s : Style) (sign lead body : String) : String :=
  let text := sign ++ lead ++ body
  let missing := s.width - text.length
  if missing = 0 then text
  else if s.zeros then sign ++ lead ++ repeated missing '0' ++ body
  else
    match s.align with
    | .left => text ++ repeated missing s.fill
    | .right => repeated missing s.fill ++ text
    | .center =>
      repeated (missing / 2) s.fill ++ text ++ repeated (missing - missing / 2) s.fill

end Style
end Newtype
