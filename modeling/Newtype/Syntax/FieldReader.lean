import Newtype.Syntax.TypeReader

/-!
# Reading names of fields

Fields are named, or numbered in tuples. A number may be written in any base; it is
spelled in decimal.

* `fieldNumber` — the tokens of a number.
* `fieldMember` — a name or a number.
* `splitNumber` — the numbers of fields of fields, which look like a fraction.
-/

namespace Newtype
namespace FieldReader

open Reader

/-- The first number that is too large for a field. -/
def fieldLimit : Nat := 4294967296

/-- The token of a field number, or what is wrong with it. -/
def fieldNumber (negative : Bool) (spelling : String) (pos : Position) :
    Except SyntaxFault Tree :=
  let (value, suffix) := wholeNumber spelling
  if LiteralForm.ofSpelling spelling != .integer then .error ⟨.fieldInteger, false, pos⟩
  else if !suffix.isEmpty then .error ⟨.fieldSuffix, false, pos⟩
  else if negative then .error ⟨.fieldSign, false, pos⟩
  else if fieldLimit ≤ value then .error ⟨.fieldTooLarge, false, pos⟩
  else .ok (.literal (toString value) pos)

/-- The name or the number of a field; gives whether it is a name. -/
def fieldMember : Reader Bool := do
  let ts ← ahead
  if nameAhead ts then
    let _ ← name
    return true
  else if integerAhead ts then
    match ts with
    | .punct _ _ p :: .literal s _ :: rest => accept rest [← fieldNumber true s p]
    | .literal s p :: rest => accept rest [← fieldNumber false s p]
    | _ => fault .member
    return false
  else fault .member

/-- The parts of a fraction between its points. -/
def parts (cs : List Char) : List String := (String.ofList cs).splitOn "."

/-- The numbers in a fraction behind a point, and whether another point follows them. -/
def splitNumber (negative : Bool) (spelling : String) (pos : Position) :
    Except SyntaxFault (List Tree × Bool) := do
  let cs := spelling.toList
  let pointed := cs.getLast? == some '.'
  let numbers ← match parts (if pointed then cs.dropLast else cs) with
    | [] => pure []
    | first :: rest => do
      let t ← fieldNumber negative first pos
      let ts ← rest.mapM fun s => fieldNumber false s pos
      pure (t :: ts)
  return (numbers, pointed)

end FieldReader
end Newtype
