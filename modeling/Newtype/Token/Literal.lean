import Newtype.Text.Identifier

/-!
# Literals

Text between double quotes is read by a small machine, one character at a time:
it follows the escapes, refuses those that stand for nothing, and gives the
characters the literal stands for. The machine serves twice, to find where a
literal ends and to give its value.

* `hexValue` — the digits in base sixteen.
* `QuoteFlavour` — plain text, bytes, or text that must not hold a zero.
* `QuoteState`, `QuoteState.step` — the machine.
* `textValue` — the text of a literal in quotes, plain or raw.
* `LiteralForm.ofSpelling` — what a literal is, by its spelling.
* `wholeNumber` — the value of a whole number.
-/

namespace Newtype

/-- The character with a given number, if there is one. -/
def charOfNumber (n : Nat) : Option Char :=
  if h : n.isValidChar then some (Char.ofNatAux n h) else none

/-- The value of a digit in base sixteen, in either case. -/
def hexValue (c : Char) : Option Nat :=
  if '0' ≤ c ∧ c ≤ '9' then some (c.toNat - '0'.toNat)
  else if 'a' ≤ c ∧ c ≤ 'f' then some (c.toNat - 'a'.toNat + 10)
  else if 'A' ≤ c ∧ c ≤ 'F' then some (c.toNat - 'A'.toNat + 10)
  else none

/-! ### Text between quotes -/

/-- What a literal in double quotes may hold. -/
inductive QuoteFlavour where
  | text
  | bytes
  | zeroFree
  deriving DecidableEq

/-- Where the machine stands inside a literal. -/
inductive QuoteState where
  /-- between characters -/
  | plain
  /-- after a carriage return, which a line feed has to follow -/
  | carriage
  /-- after a backslash -/
  | escaped
  /-- after `\x` -/
  | hex
  /-- after `\x` and one digit -/
  | hexSecond (first : Nat)
  /-- after `\u` -/
  | number
  /-- inside `\u{…}`, with the digits so far -/
  | digits (count value : Nat)
  /-- in the blanks after a backslash at the end of a line -/
  | gap
  /-- after a carriage return in such blanks -/
  | gapReturn
  deriving DecidableEq

/-- What one character does to the machine. -/
inductive QuoteStep where
  | refuse
  | close
  | next (state : QuoteState) (out : List Char)
  deriving DecidableEq

namespace QuoteState

/-- Ends an escape with a character number. -/
def emit (n : Nat) : QuoteStep :=
  match charOfNumber n with
  | some c => .next .plain [c]
  | none => .refuse

/-- A character between others. -/
def stepPlain (f : QuoteFlavour) (c : Char) : QuoteStep :=
  if c = '"' then .close
  else if c = '\r' then .next .carriage []
  else if c = '\\' then .next .escaped []
  else if f = .bytes ∧ 128 ≤ c.toNat then .refuse
  else if f = .zeroFree ∧ c.toNat = 0 then .refuse
  else .next .plain [c]

/-- The character after a backslash. -/
def stepEscaped (f : QuoteFlavour) (c : Char) : QuoteStep :=
  if c = 'n' then .next .plain ['\n']
  else if c = 'r' then .next .plain ['\r']
  else if c = 't' then .next .plain ['\t']
  else if c = '\\' ∨ c = '\'' ∨ c = '"' then .next .plain [c]
  else if c = '0' then if f = .zeroFree then .refuse else .next .plain ['\x00']
  else if c = 'x' then .next .hex []
  else if c = 'u' then if f = .bytes then .refuse else .next .number []
  else if c = '\n' then .next .gap []
  else if c = '\r' then .next .gapReturn []
  else .refuse

/-- The first digit after `\x`; in text it is at most seven. -/
def stepHex (f : QuoteFlavour) (c : Char) : QuoteStep :=
  match hexValue c with
  | some d => if f = .text ∧ 8 ≤ d then .refuse else .next (.hexSecond d) []
  | none => .refuse

/-- The second digit after `\x`. -/
def stepHexSecond (f : QuoteFlavour) (first : Nat) (c : Char) : QuoteStep :=
  match hexValue c with
  | some d => if f = .zeroFree ∧ first = 0 ∧ d = 0 then .refuse else emit (16 * first + d)
  | none => .refuse

/-- A character inside `\u{…}`: at most six digits, underscores after the first. -/
def stepDigits (f : QuoteFlavour) (count value : Nat) (c : Char) : QuoteStep :=
  match hexValue c with
  | some d => if count = 6 then .refuse else .next (.digits (count + 1) (16 * value + d)) []
  | none =>
    if count = 0 then .refuse
    else if c = '_' then .next (.digits count value) []
    else if c = '\x7d' then if f = .zeroFree ∧ value = 0 then .refuse else emit value
    else .refuse

/-- What the next character does. -/
def step (f : QuoteFlavour) (c : Char) : QuoteState → QuoteStep
  | .plain => stepPlain f c
  | .carriage => if c = '\n' then .next .plain ['\n'] else .refuse
  | .escaped => stepEscaped f c
  | .hex => stepHex f c
  | .hexSecond d => stepHexSecond f d c
  | .number => if c = '\x7b' then .next (.digits 0 0) [] else .refuse
  | .digits n v => stepDigits f n v c
  | .gap =>
    if c = ' ' ∨ c = '\t' ∨ c = '\n' then .next .gap []
    else if c = '\r' then .next .gapReturn []
    else stepPlain f c
  | .gapReturn => if c = '\n' then .next .gap [] else .refuse

/-- Runs the machine to the closing quote: the characters read, the closing quote
included, and the rest. -/
def scan (f : QuoteFlavour) : QuoteState → List Char → Option (List Char × List Char)
  | _, [] => none
  | s, c :: cs =>
    match s.step f c with
    | .refuse => none
    | .close => some ([c], cs)
    | .next s' _ => (scan f s' cs).map fun r => (c :: r.1, r.2)

/-- Runs the machine to the closing quote for the characters it gives. -/
def value (f : QuoteFlavour) : QuoteState → List Char → Option (List Char)
  | _, [] => none
  | s, c :: cs =>
    match s.step f c with
    | .refuse => none
    | .close => some []
    | .next s' out => (value f s' cs).map (out ++ ·)

/-- Runs the machine until an escape is complete: its characters and the rest.
Blanks at the end of a line are no character. -/
def scanEscape (f : QuoteFlavour) : QuoteState → List Char → Option (List Char × List Char)
  | _, [] => none
  | s, c :: cs =>
    match s.step f c with
    | .refuse => none
    | .close => none
    | .next .plain _ => some ([c], cs)
    | .next .gap _ => none
    | .next .gapReturn _ => none
    | .next s' _ => (scanEscape f s' cs).map fun r => (c :: r.1, r.2)

end QuoteState

/-! ### Raw text -/

/-- Whether `marks` number signs follow, and the rest after them. -/
def dropMarks : Nat → List Char → Option (List Char)
  | 0, cs => some cs
  | n + 1, '#' :: cs => dropMarks n cs
  | _ + 1, _ => none

/-- The content of a raw literal up to the quote that `marks` number signs follow. -/
def rawContent (marks : Nat) : List Char → List Char
  | [] => []
  | c :: cs =>
    if c = '"' ∧ (dropMarks marks cs).isSome then [] else c :: rawContent marks cs

/-- The text a literal in quotes stands for: `"…"`, or `r"…"` with number signs. -/
def textValue (spelling : String) : Option String :=
  match spelling.toList with
  | '"' :: cs => (QuoteState.plain.value .text cs).map String.ofList
  | 'r' :: cs =>
    let marks := cs.takeWhile (· == '#')
    match cs.drop marks.length with
    | '"' :: content => some (String.ofList (rawContent marks.length content))
    | _ => none
  | _ => none

/-! ### Forms -/

/-- What a literal stands for. -/
inductive LiteralForm where
  | text
  | bytes
  | zeroFreeText
  | byte
  | char
  | integer
  | float
  | other
  deriving DecidableEq

namespace LiteralForm

/-- Digits, underscores, and then a suffix or nothing. -/
def digitsEnd : List Char → Bool
  | [] => true
  | c :: cs => if c == '_' || c.isDigit then digitsEnd cs else Text.isIdentStart c

/-- After an exponent mark: a sign or a digit makes the number a fraction. -/
def exponentFollows : List Char → Bool
  | [] => false
  | c :: cs =>
    if c == '_' then exponentFollows cs
    else c == '+' || c == '-' || (c.isDigit && digitsEnd cs)

/-- The form of a decimal number. A point or an exponent makes it a fraction; a
suffix does not. -/
def ofDecimal : List Char → LiteralForm
  | [] => .integer
  | c :: cs =>
    if c.isDigit || c == '_' then ofDecimal cs
    else if c == '.' then .float
    else if (c == 'e' || c == 'E') && exponentFollows cs then .float
    else .integer

/-- The form of a literal by its spelling. -/
def ofSpelling (spelling : String) : LiteralForm :=
  match spelling.toList with
  | '"' :: _ => .text
  | 'r' :: _ => .text
  | 'b' :: '\'' :: _ => .byte
  | 'b' :: _ => .bytes
  | 'c' :: _ => .zeroFreeText
  | '\'' :: _ => .char
  | '0' :: 'x' :: _ => .integer
  | '0' :: 'o' :: _ => .integer
  | '0' :: 'b' :: _ => .integer
  | c :: cs => if c.isDigit then ofDecimal cs else .other
  | [] => .other

end LiteralForm

/-! ### Whole numbers -/

/-- The base of a whole number, with what follows its mark. -/
def numberBase : List Char → Nat × List Char
  | '0' :: 'x' :: cs => (16, cs)
  | '0' :: 'o' :: cs => (8, cs)
  | '0' :: 'b' :: cs => (2, cs)
  | cs => (10, cs)

/-- The value of digits and underscores behind digits with a value, and the suffix. -/
def digitsValue (base value : Nat) : List Char → Nat × List Char
  | [] => (value, [])
  | c :: cs =>
    if c = '_' then digitsValue base value cs
    else
      match (hexValue c).filter (· < base) with
      | some d => digitsValue base (base * value + d) cs
      | none => (value, c :: cs)

/-- The value of a whole number and its suffix. -/
def wholeNumber (spelling : String) : Nat × List Char :=
  let (base, digits) := numberBase spelling.toList
  digitsValue base 0 digits

end Newtype
