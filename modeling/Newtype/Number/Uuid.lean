import Newtype.Token.Literal

/-!
# Universal identifiers

Identifiers of 128 bits and their text: 32 digits in base 16, in five groups.

* `Uuid` — an identifier.
* `Uuid.ofText?`, `Uuid.text` — its text.
-/

namespace Newtype

/-- An identifier of 128 bits. -/
structure Uuid where
  value : Nat
  deriving DecidableEq

namespace Uuid

/-- The lengths of the groups of digits. -/
def groups : List Nat := [8, 4, 4, 4, 12]

/-- The identifier with a text. -/
def ofText? (text : String) : Option Uuid :=
  let parts := text.splitOn "-"
  if parts.map String.length = groups then
    ((parts.flatMap String.toList).mapM hexValue).map fun ds =>
      ⟨ds.foldl (fun n d => 16 * n + d) 0⟩
  else none

/-- Cuts digits into groups. -/
def cut : List Nat → List Char → List (List Char)
  | [], _ => []
  | n :: ns, cs => cs.take n :: cut ns (cs.drop n)

/-- The text of an identifier. -/
def text (u : Uuid) : String :=
  let digits := Nat.toDigits 16 u.value
  let padded := List.replicate (32 - digits.length) '0' ++ digits
  "-".intercalate ((cut groups padded).map String.ofList)

end Uuid
end Newtype
