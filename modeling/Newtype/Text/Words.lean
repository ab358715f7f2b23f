import Newtype.Text.Alphanumeric
import Newtype.Text.LetterCase

/-!
# Words of a name

A name is cut into words: at every character that is neither letter nor number,
after a lower case stretch before an upper case letter (`homeGoals`), and before
the last letter of an upper case stretch that a lower case letter follows
(`HTTPServer`). The words are then joined in one of two styles.

* `pieces` — the stretches of letters and numbers.
* `CaseMode`, `cutWords` — the cuts inside a piece.
* `words` — all words of a name.
* `snakeCase` — lower case words joined by `_`.
* `upperCamelCase` — capitalised words joined by nothing.
-/

namespace Newtype
namespace Text

/-- The stretches between characters that are neither letter nor number; some may
be empty. -/
def pieces : List Char → List (List Char)
  | [] => [[]]
  | c :: cs =>
    if isAlphanumeric c then
      match pieces cs with
      | [] => [[c]]
      | p :: ps => (c :: p) :: ps
    else [] :: pieces cs

/-- The case of the last cased character of the current word. -/
inductive CaseMode where
  | boundary
  | lower
  | upper
  deriving DecidableEq

/-- The mode once `c` belongs to the word. -/
def CaseMode.after (m : CaseMode) (c : Char) : CaseMode :=
  if isLowercase c then .lower else if isUppercase c then .upper else m

/-- Cuts a piece into words; `word` holds the current word backwards. A cut starts
the mode afresh. -/
def cutWords (mode : CaseMode) (word : List Char) : List Char → List (List Char)
  | [] => if word.isEmpty then [] else [word.reverse]
  | [c] => [(c :: word).reverse]
  | c :: d :: cs =>
    if mode.after c = .lower ∧ isUppercase d then
      (c :: word).reverse :: cutWords .boundary [] (d :: cs)
    else if mode = .upper ∧ isUppercase c ∧ isLowercase d then
      word.reverse :: cutWords .boundary [c] (d :: cs)
    else cutWords (mode.after c) (c :: word) (d :: cs)

/-- The words of a name, in order. -/
def words (name : List Char) : List (List Char) :=
  (pieces name).flatMap (cutWords .boundary [])

/-- A word in lower case; a sigma at its end takes the final form. -/
def lowerWord : List Char → List Char
  | [] => []
  | [c] => if c = 'Σ' then ['ς'] else toLowercase c
  | c :: cs => toLowercase c ++ lowerWord cs

/-- A word with its first character in upper case and the rest in lower case. -/
def capitalWord : List Char → List Char
  | [] => []
  | c :: cs => toUppercase c ++ lowerWord cs

/-- `HomeGoals` as `home_goals`. -/
def snakeCase (name : String) : String :=
  "_".intercalate ((words name.toList).map fun w => String.ofList (lowerWord w))

/-- `home_goals` as `HomeGoals`. -/
def upperCamelCase (name : String) : String :=
  String.join ((words name.toList).map fun w => String.ofList (capitalWord w))

end Text
end Newtype
