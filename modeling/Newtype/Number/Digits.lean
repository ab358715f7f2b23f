/-!
# Digits and rounding

* `twoPow`, `tenPow` — powers of the two bases.
* `decimalText`, `integerText` — numbers as text.
* `roundDiv` — a quotient rounded to the nearest number, a half to the even one.
* `significant` — a number without the zeros at its end.
* `pointText`, `scientificText` — digits with a point, or with an exponent.
-/

namespace Newtype

/-- The powers of two. -/
def twoPow (n : Nat) : Nat := Nat.pow 2 n

/-- The powers of ten. -/
def tenPow (n : Nat) : Nat := Nat.pow 10 n

/-- The digits of a number in base ten. -/
def decimalDigits (n : Nat) : List Char := Nat.toDigits 10 n

/-- A number in base ten. -/
def decimalText (n : Nat) : String := String.ofList (decimalDigits n)

/-- An integer in base ten. -/
def integerText (x : Int) : String :=
  (if x < 0 then "-" else "") ++ decimalText x.natAbs

/-- The quotient rounded to the nearest number, a half to the even one. -/
def roundDiv (n d : Nat) : Nat :=
  let q := n / d
  let r := n % d
  if d < 2 * r ∨ (2 * r = d ∧ q % 2 = 1) then q + 1 else q

/-- Digits without the zeros at their end; at least one is left. -/
def stripZeros (cs : List Char) : List Char :=
  match (cs.reverse.dropWhile (· == '0')).reverse with
  | [] => ['0']
  | ds => ds

/-- The digits of a number without the zeros at its end, and the number of digits
before the point if the point stands behind the last digit. -/
def significant (n : Nat) : List Char × Nat :=
  let cs := decimalDigits n
  (stripZeros cs, cs.length)

/-- Digits with a point behind the first `point` of them, and at least `least` digits
behind it. -/
def pointText (digits : List Char) (point : Int) (least : Nat) : String :=
  let (whole, fraction) :=
    if point ≤ 0 then (['0'], List.replicate point.natAbs '0' ++ digits)
    else (digits.take point.toNat ++ List.replicate (point.toNat - digits.length) '0',
      digits.drop point.toNat)
  let fraction := fraction ++ List.replicate (least - fraction.length) '0'
  String.ofList (if fraction.isEmpty then whole else whole ++ '.' :: fraction)

/-- Digits with a point behind the first of them, and the exponent behind a mark. -/
def scientificText (digits : List Char) (point : Int) (mark : Char) : String :=
  String.ofList
    (match digits with
      | [] => []
      | [d] => [d]
      | d :: ds => d :: '.' :: ds) ++
    mark.toString ++ integerText (point - 1)

/-- A number with `places` digits behind the point, given in units of the last. -/
def fixedText (n places : Nat) : String :=
  let cs := decimalDigits n
  let cs := List.replicate (places + 1 - cs.length) '0' ++ cs
  let whole := cs.take (cs.length - places)
  if places = 0 then String.ofList whole
  else String.ofList (whole ++ '.' :: cs.drop (cs.length - places))

end Newtype
