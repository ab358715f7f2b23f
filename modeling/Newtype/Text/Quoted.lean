import Newtype.Text.Printable

/-!
# Quoted text

A text written between double quotes. Quotes, backslashes and the common
controls are written with a backslash, every other character without a glyph of
its own by its number in braces, and all else as it stands.

* `hexDigits` — a number in base sixteen, lower case.
* `escapeChar` — one character inside the quotes.
* `quoted` — the whole text with its quotes.
-/

namespace Newtype
namespace Text

/-- The digits of a number in base sixteen, without leading zeros. -/
def hexDigits (n : Nat) : List Char := Nat.toDigits 16 n

/-- A character by its number, as in `\u{1b}`. -/
def escapeNumber (c : Char) : List Char :=
  ['\\', 'u', '\x7b'] ++ hexDigits c.toNat ++ ['\x7d']

/-- How a character is written between quotes. -/
def escapeChar (c : Char) : List Char :=
  if c = '\x00' then ['\\', '0']
  else if c = '\t' then ['\\', 't']
  else if c = '\r' then ['\\', 'r']
  else if c = '\n' then ['\\', 'n']
  else if c = '\\' then ['\\', '\\']
  else if c = '"' then ['\\', '"']
  else if isAttaching c || !isPrintable c then escapeNumber c
  else [c]

/-- The characters of a text as they stand between quotes. -/
def escape (cs : List Char) : List Char := cs.flatMap escapeChar

/-- A text between double quotes. -/
def quoted (s : String) : String :=
  String.ofList ('"' :: (escape s.toList ++ ['"']))

end Text
end Newtype
