import Newtype.Text.Quoted
import Newtype.Token.Basic
import Newtype.Token.Literal

/-!
# From text to token trees

The text is cut into lexemes, each the longest of its kind. Blanks and plain
comments are dropped; a documentation comment becomes an attribute `#[doc = "…"]`.
Brackets are then matched into groups. A text with a stray character, an
unfinished literal or comment, or unmatched brackets has no token trees.

* `isBlank` — white space of every script.
* `scanWord`, `scanNumber`, `scanQuoted`, `scanChar` — lexemes of each kind, with
  the rest of the text.
* `Piece`, `nextPiece` — the next lexeme of any kind.
* `Mark`, `marks` — the lexemes with their places, brackets not yet matched.
* `nest` — brackets matched.
* `tokenize` — the token trees of a text.
-/

namespace Newtype
namespace Lexer

open Text

/-- The characters of the Unicode property `White_Space`. -/
def isBlank (c : Char) : Bool :=
  let n := c.toNat
  (9 ≤ n && n ≤ 13) || n == 32 || n == 133 || n == 160 || n == 5760 ||
    (8192 ≤ n && n ≤ 8202) || n == 8232 || n == 8233 || n == 8239 || n == 8287 || n == 12288

/-- A scanner gives the characters of a lexeme and the rest. -/
abbrev Scanner := List Char → Option (List Char × List Char)

/-! ### Words -/

/-- A word without a raw mark. -/
def scanWord : Scanner
  | [] => none
  | c :: cs =>
    if isIdentStart c then some (c :: cs.takeWhile isIdentContinue, cs.dropWhile isIdentContinue)
    else none

/-- Names that the raw mark `r#` cannot free. -/
def rawless : List String := ["_", "super", "self", "Self", "crate"]

/-- A word, raw or not. -/
def scanName : Scanner
  | 'r' :: '#' :: cs =>
    match scanWord cs with
    | some (w, rest) =>
      if String.ofList w ∈ rawless then none else some ('r' :: '#' :: w, rest)
    | none => none
  | cs => scanWord cs

/-- Adds the suffix a literal may have. -/
def withSuffix (r : List Char × List Char) : List Char × List Char :=
  match scanWord r.2 with
  | some (w, rest) => (r.1 ++ w, rest)
  | none => r

/-! ### Literals in quotes -/

/-- The content of raw text and its closing quote and marks. -/
def scanRaw (f : QuoteFlavour) (marks : Nat) : Scanner
  | [] => none
  | '\r' :: '\n' :: cs => (scanRaw f marks cs).map fun r => ('\r' :: '\n' :: r.1, r.2)
  | c :: cs =>
    match if c = '"' then dropMarks marks cs else none with
    | some rest => some ('"' :: List.replicate marks '#', rest)
    | none =>
      if c = '\r' ∨ (f = .bytes ∧ 128 ≤ c.toNat) ∨ (f = .zeroFree ∧ c.toNat = 0) then none
      else (scanRaw f marks cs).map fun r => (c :: r.1, r.2)

/-- Raw text after its letter: number signs, a quote, the content, a quote and as
many number signs. At most 255 are allowed. -/
def scanRawQuoted (f : QuoteFlavour) : Scanner := fun cs =>
  let marks := (cs.takeWhile (· == '#')).length
  match cs.drop marks with
  | '"' :: content =>
    if 255 < marks then none
    else (scanRaw f marks content).map fun r => (cs.take marks ++ '"' :: r.1, r.2)
  | _ => none

/-- A literal in double quotes of some flavour, suffix included. -/
def scanQuoted : Scanner
  | '"' :: cs => (QuoteState.plain.scan .text cs).map fun r => withSuffix ('"' :: r.1, r.2)
  | 'r' :: cs => (scanRawQuoted .text cs).map fun r => withSuffix ('r' :: r.1, r.2)
  | 'b' :: '"' :: cs =>
    (QuoteState.plain.scan .bytes cs).map fun r => withSuffix ('b' :: '"' :: r.1, r.2)
  | 'b' :: 'r' :: cs => (scanRawQuoted .bytes cs).map fun r => withSuffix ('b' :: 'r' :: r.1, r.2)
  | 'c' :: '"' :: cs =>
    (QuoteState.plain.scan .zeroFree cs).map fun r => withSuffix ('c' :: '"' :: r.1, r.2)
  | 'c' :: 'r' :: cs =>
    (scanRawQuoted .zeroFree cs).map fun r => withSuffix ('c' :: 'r' :: r.1, r.2)
  | _ => none

/-- One character or escape, and the single quote after it. -/
def scanCharBody (f : QuoteFlavour) : Scanner
  | [] => none
  | '\\' :: cs =>
    match QuoteState.escaped.scanEscape f cs with
    | some (e, '\x27' :: rest) => some ('\\' :: e ++ ['\x27'], rest)
    | _ => none
  | c :: '\x27' :: rest =>
    if f = .bytes ∧ 128 ≤ c.toNat then none else some ([c, '\x27'], rest)
  | _ :: _ => none

/-- A character or byte literal, suffix included. -/
def scanChar : Scanner
  | '\x27' :: cs => (scanCharBody .text cs).map fun r => withSuffix ('\x27' :: r.1, r.2)
  | 'b' :: '\x27' :: cs =>
    (scanCharBody .bytes cs).map fun r => withSuffix ('b' :: '\x27' :: r.1, r.2)
  | _ => none

/-! ### Numbers -/

/-- A decimal digit or an underscore. -/
def isDecimal (c : Char) : Bool := c.isDigit || c == '_'

/-- Digits and underscores. -/
def scanDecimals (cs : List Char) : List Char × List Char :=
  (cs.takeWhile isDecimal, cs.dropWhile isDecimal)

/-- What follows an exponent mark: underscores, at most one sign, and digits. -/
def scanExponent (cs : List Char) : Option (List Char × List Char) :=
  let blanks := cs.takeWhile (· == '_')
  let (sign, cs') := match cs.drop blanks.length with
    | '+' :: r => (['+'], r)
    | '-' :: r => (['-'], r)
    | r => ([], r)
  let (digits, rest) := scanDecimals cs'
  if digits.any Char.isDigit then some (blanks ++ sign ++ digits, rest) else none

/-- The digits of a fraction, or of a number with an exponent. A point that a
second point or a name follows belongs to what comes after the number. -/
def scanFraction : Scanner
  | [] => none
  | c :: cs =>
    if !c.isDigit then none
    else
      let (whole, rest) := scanDecimals (c :: cs)
      match rest with
      | '.' :: after =>
        if (after.head?.map fun d => d == '.' || isIdentStart d).getD false then none
        else
          let (part, rest') := scanDecimals after
          let plain := (whole ++ '.' :: part, rest')
          match rest' with
          | e :: exp =>
            if e == 'e' || e == 'E' then
              match scanExponent exp with
              | some (x, r) => some (whole ++ '.' :: part ++ e :: x, r)
              | none => some plain
            else some plain
          | [] => some plain
      | e :: exp =>
        if e == 'e' || e == 'E' then (scanExponent exp).map fun r => (whole ++ e :: r.1, r.2)
        else none
      | [] => none

/-- The digits of a whole number in a base: letters beyond the base end it, a digit
beyond the base spoils it. -/
def scanDigits (base : Nat) : List Char → Option (List Char × List Char)
  | [] => some ([], [])
  | c :: cs =>
    if c == '_' then (scanDigits base cs).map fun r => (c :: r.1, r.2)
    else match hexValue c with
      | some d =>
        if d < base then (scanDigits base cs).map fun r => (c :: r.1, r.2)
        else if c.isDigit then none
        else some ([], c :: cs)
      | none => some ([], c :: cs)

/-- Digits in a base after the base mark `lead`; at least one is needed. -/
def scanBased (lead : List Char) (base : Nat) (cs : List Char) : Option (List Char × List Char) :=
  match scanDigits base cs with
  | some (ds, rest) =>
    if ds.any (· != '_') && !(base == 10 && ds.head? == some '_') then some (lead ++ ds, rest)
    else none
  | none => none

/-- The digits of a whole number with its base mark. -/
def scanWhole : Scanner
  | '0' :: 'x' :: cs => scanBased ['0', 'x'] 16 cs
  | '0' :: 'o' :: cs => scanBased ['0', 'o'] 8 cs
  | '0' :: 'b' :: cs => scanBased ['0', 'b'] 2 cs
  | cs => scanBased [] 10 cs

/-- A number takes a suffix, and no other identifier character may touch it. -/
def finishNumber (r : List Char × List Char) : Option (List Char × List Char) :=
  let s := withSuffix r
  if (s.2.head?.map isIdentContinue).getD false then none else some s

/-- A number. -/
def scanNumber : Scanner := fun cs =>
  match (scanFraction cs).bind finishNumber with
  | some r => some r
  | none => (scanWhole cs).bind finishNumber

/-- A literal of any form. -/
def scanLiteral : Scanner := fun cs =>
  (scanQuoted cs).or ((scanChar cs).or (scanNumber cs))

/-! ### Punctuation -/

/-- The punctuation characters. -/
def punctuation : List Char := "~!@#$%^&*-=+|;:,<.>/?'".toList

/-- The text starts with a punctuation character that opens no comment. -/
def punctFollows : List Char → Bool
  | '/' :: '/' :: _ => false
  | '/' :: '*' :: _ => false
  | c :: _ => punctuation.contains c
  | [] => false

/-- The mark of a lifetime: a name follows that no quote closes. -/
def lifetimeFollows (cs : List Char) : Bool :=
  match scanName cs with
  | some (w, rest) =>
    match rest with
    | '\x27' :: _ => false
    | '#' :: _ => ['r', '#'].isPrefixOf w
    | _ => true
  | none => false

/-! ### Comments -/

/-- The rest of a line, without its end. -/
def scanLine : List Char → List Char × List Char
  | [] => ([], [])
  | '\n' :: cs => ([], '\n' :: cs)
  | '\r' :: '\n' :: cs => ([], '\r' :: '\n' :: cs)
  | c :: cs => let r := scanLine cs; (c :: r.1, r.2)

/-- A comment body up to its end, `depth` comments deep. Comments nest. -/
def scanComment : Nat → Scanner
  | _, [] => none
  | depth, '/' :: '*' :: cs =>
    (scanComment (depth + 1) cs).map fun r => ('/' :: '*' :: r.1, r.2)
  | 0, '*' :: '/' :: cs => some (['*', '/'], cs)
  | depth + 1, '*' :: '/' :: cs => (scanComment depth cs).map fun r => ('*' :: '/' :: r.1, r.2)
  | depth, c :: cs => (scanComment depth cs).map fun r => (c :: r.1, r.2)

/-- A carriage return that no line feed follows. -/
def hasBareReturn : List Char → Bool
  | [] => false
  | '\r' :: '\n' :: cs => hasBareReturn cs
  | c :: cs => c == '\r' || hasBareReturn cs

/-- The text of a documentation comment as a literal. A zero before an octal digit
is written in full. -/
def docText : List Char → List Char
  | [] => []
  | c :: cs =>
    (if c = '\x00' ∧ (cs.head?.map fun d => '0' ≤ d && d ≤ '7').getD false then
      ['\\', 'x', '0', '0']
    else escapeChar c) ++ docText cs

/-! ### Pieces -/

/-- What a lexeme is. -/
inductive Piece where
  | blank
  | doc (inside : Bool) (text : List Char)
  | opening (d : Delimiter)
  | closing (d : Delimiter)
  | word
  | literal
  | punct (c : Char) (joint : Bool)

/-- The comment a text starts with, if any. -/
def scanRemark (cs : List Char) : Option (Piece × List Char × List Char) :=
  match cs with
  | '/' :: '/' :: rest =>
    let (line, after) := scanLine rest
    let lexeme := '/' :: '/' :: line
    match line with
    | '!' :: text =>
      if hasBareReturn text then none else some (.doc true text, lexeme, after)
    | '/' :: '/' :: _ => some (.blank, lexeme, after)
    | '/' :: text =>
      if hasBareReturn text then none else some (.doc false text, lexeme, after)
    | _ => some (.blank, lexeme, after)
  | '/' :: '*' :: rest =>
    match scanComment 0 rest with
    | none => none
    | some (body, after) =>
      let lexeme := '/' :: '*' :: body
      let text := (body.drop 1).dropLast.dropLast
      match body with
      | '!' :: _ => if hasBareReturn text then none else some (.doc true text, lexeme, after)
      | '*' :: '/' :: _ => some (.blank, lexeme, after)
      | '*' :: '*' :: _ => some (.blank, lexeme, after)
      | '*' :: _ => if hasBareReturn text then none else some (.doc false text, lexeme, after)
      | _ => some (.blank, lexeme, after)
  | _ => none

/-- Blanks between tokens; the two direction marks count among them. -/
def isGap (c : Char) : Bool := isBlank c || c.toNat == 0x200e || c.toNat == 0x200f

/-- A word may not start like a literal in quotes. -/
def opensQuote (cs : List Char) : Bool :=
  ["r\"", "r#\"", "r##", "b\"", "b'", "br\"", "br#", "c\"", "cr\"", "cr#"].any
    fun lead => lead.toList.isPrefixOf cs

/-- The first lexeme of a text that is neither blank, comment nor bracket. -/
def nextToken (cs : List Char) : Option (Piece × List Char × List Char) :=
  match scanLiteral cs with
  | some (lexeme, rest) => some (.literal, lexeme, rest)
  | none =>
    match cs with
    | [] => none
    | c :: rest =>
      if punctFollows cs then
        if c = '\x27' then
          if lifetimeFollows rest then some (.punct c true, [c], rest) else none
        else some (.punct c (punctFollows rest), [c], rest)
      else if opensQuote cs then none
      else (scanName cs).map fun r => (.word, r.1, r.2)

/-- The mark that stands for tokens that could not be made; it is a literal, not a
group around a comment. -/
def failureMark : List Char := "(/*ERROR*/)".toList

/-- The first lexeme of a text: what it is, its characters and the rest. -/
def nextPiece (cs : List Char) : Option (Piece × List Char × List Char) :=
  if failureMark.isPrefixOf cs then some (.literal, failureMark, cs.drop failureMark.length)
  else match cs with
  | [] => none
  | '(' :: rest => some (.opening .paren, ['('], rest)
  | '[' :: rest => some (.opening .bracket, ['['], rest)
  | '\x7b' :: rest => some (.opening .brace, ['\x7b'], rest)
  | ')' :: rest => some (.closing .paren, [')'], rest)
  | ']' :: rest => some (.closing .bracket, [']'], rest)
  | '\x7d' :: rest => some (.closing .brace, ['\x7d'], rest)
  | '/' :: '/' :: _ => scanRemark cs
  | '/' :: '*' :: _ => scanRemark cs
  | c :: rest => if isGap c then some (.blank, [c], rest) else nextToken cs

/-! ### Trees -/

/-- A token, or a bracket that is not matched yet. -/
inductive Mark where
  | tree (t : Tree)
  | opening (d : Delimiter) (pos : Position)
  | closing (d : Delimiter) (pos : Position)

/-- The marks of a piece at a place. -/
def Piece.marks (p : Piece) (lexeme : List Char) (pos : Position) : List Mark :=
  match p with
  | .blank => []
  | .opening d => [.opening d pos]
  | .closing d => [.closing d pos]
  | .word => [.tree (.word (String.ofList lexeme) pos)]
  | .literal => [.tree (.literal (String.ofList lexeme) pos)]
  | .punct c joint => [.tree (.punct c joint pos)]
  | .doc inside text =>
    let quotedText := String.ofList ('"' :: (docText text ++ ['"']))
    let body := [.word "doc" pos, .punct '=' false pos, .literal quotedText pos]
    .tree (.punct '#' false pos) ::
      ((if inside then [.tree (.punct '!' false pos)] else []) ++
        [.tree (.group .bracket body pos pos)])

/-- All marks of a text. Each step takes at least one character, so the number of
characters bounds the number of steps. -/
def marks : Nat → Position → List Char → Option (List Mark)
  | _, _, [] => some []
  | 0, _, _ :: _ => none
  | n + 1, pos, c :: cs =>
    match nextPiece (c :: cs) with
    | none => none
    | some (piece, lexeme, rest) =>
      (marks n (pos.advance lexeme) rest).map (piece.marks lexeme pos ++ ·)

/-- A group that is still open: its bracket and the trees before it, backwards. -/
structure OpenGroup where
  delimiter : Delimiter
  pos : Position
  before : List Tree

/-- Matches brackets. `done` holds the trees of the current group backwards. -/
def nest : List OpenGroup → List Tree → List Mark → Option (List Tree)
  | [], done, [] => some done.reverse
  | _ :: _, _, [] => none
  | stack, done, .tree t :: ms => nest stack (t :: done) ms
  | stack, done, .opening d pos :: ms => nest (⟨d, pos, done⟩ :: stack) [] ms
  | [], _, .closing _ _ :: _ => none
  | g :: stack, done, .closing d pos :: ms =>
    if g.delimiter = d then nest stack (.group d done.reverse g.pos pos :: g.before) ms else none

/-- The token trees of a character list. -/
def tokenizeChars (cs : List Char) : Option (List Tree) :=
  (marks cs.length .start cs).bind (nest [] [])

/-- The token trees of a text; a byte order mark at its start is no part of it. -/
def tokenize (text : String) : Option (List Tree) :=
  match text.toList with
  | c :: cs => tokenizeChars (if c.toNat = 0xfeff then cs else c :: cs)
  | [] => tokenizeChars []

end Lexer
end Newtype
