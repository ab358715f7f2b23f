import Newtype.Syntax.Cursor

/-!
# Readers

A reader takes tokens from the front of the current group. While it does, it
writes down the tokens in their canonical spelling: each punctuation token with
its characters glued together and apart from what follows. What a reader has read
can therefore be shown again without a syntax tree for all of it.

A group must be used up by the reader of its content. Tokens that are left over do
not stop the reading at once; the first ones are remembered, and refused when all
is read.

* `Cursor` — the tokens ahead and what has been read so far.
* `Reader` — a reader with a result.
* `punct`, `keyword`, `name`, `lifetime`, `grouped` — the basic readers.
* `missing` — the fault that names what could have stood here.
* `taken`, `captured` — a reader together with the spelling of what it read, which
  `taken` does not write down.
* `since`, `asWritten`, `orAsWritten` — the tokens a reader read as they stand.
* `repeatUntil` — repetition; the number of tokens ahead bounds it.
* `runAll` — reading a whole list of tokens.
-/

namespace Newtype

/-- The state of a reader. -/
structure Cursor where
  /-- the tokens ahead in the current group -/
  rest : List Tree
  /-- where a fault is placed once the tokens have run out -/
  endAt : Position
  /-- the canonical spelling of the tokens read in this group, backwards -/
  spelled : List Tree
  /-- the first tokens left over in a group that is already closed -/
  stray : Option (Position × Delimiter)

/-- A reader of tokens with a result. -/
abbrev Reader (α : Type) := StateT Cursor (Except SyntaxFault) α

namespace Reader

/-- The tokens ahead. -/
def ahead : Reader (List Tree) := return (← get).rest

/-- Whether the tokens ahead pass a test. -/
def peek (test : List Tree → Bool) : Reader Bool := return test (← get).rest

/-- No token is left. -/
def atEnd : Reader Bool := peek List.isEmpty

/-- Fails at the current place. -/
def fault {α : Type} (cause : SyntaxCause) : Reader α := do
  let c ← get
  match c.rest with
  | [] => throw ⟨cause, true, c.endAt⟩
  | t :: _ => throw ⟨cause, false, t.position⟩

/-- The place of the next token, or of the end. -/
def here : Reader Position := do
  let c ← get
  match c.rest with
  | [] => return c.endAt
  | t :: _ => return t.position

/-- Fails, naming those of the options that do not lie ahead. -/
def missing {α : Type} (options : List Expected) : Reader α := do
  let ts ← ahead
  fault (.oneOf (options.filter fun o => !o.liesAhead ts))

/-- Writes down tokens without reading any. -/
def emit (ts : List Tree) : Reader Unit :=
  modify fun c => { c with spelled := ts.reverse ++ c.spelled }

/-- Moves on to `rest` and writes down `ts`. -/
def accept (rest : List Tree) (ts : List Tree) : Reader Unit :=
  modify fun c => { c with rest := rest, spelled := ts.reverse ++ c.spelled }

/-- The characters of a punctuation token, glued. -/
def glue (pos : Position) : List Char → List Tree
  | [] => []
  | [c] => [.punct c false pos]
  | c :: cs => .punct c true pos :: glue pos cs

/-- Reads a punctuation token. -/
def punct (s : String) : Reader Unit := do
  match dropPunct s.toList (← ahead) with
  | some rest => accept rest (glue (← here) s.toList)
  | none => fault (.punctuation s)

/-- Reads a punctuation token if it is there. -/
def optPunct (s : String) : Reader Bool := do
  if ← peek (punctAhead s) then punct s; return true else return false

/-- Reads a word if it passes the test. -/
def wordIf (test : String → Bool) (cause : SyntaxCause) : Reader String := do
  match ← ahead with
  | .word w p :: rest =>
    if test w then accept rest [.word w p]; return w else fault cause
  | _ => fault cause

/-- Reads a keyword. -/
def keyword (w : String) : Reader Unit := do
  let _ ← wordIf (· == w) (.oneOf [.token w])

/-- Reads a keyword if it is there. -/
def optKeyword (w : String) : Reader Bool := do
  if ← peek (wordAhead w) then keyword w; return true else return false

/-- Reads any word. -/
def anyWord : Reader String := wordIf (fun _ => true) (.oneOf [.identifier])

/-- Reads a name. -/
def name : Reader String := do
  match ← ahead with
  | .word w _ :: _ => wordIf isName (.keywordAsName w)
  | _ => fault (.oneOf [.identifier])

/-- Reads a lifetime. -/
def lifetime : Reader Unit := do
  match ← ahead with
  | .punct '\x27' true p :: .word w q :: rest => accept rest [.punct '\x27' true p, .word w q]
  | _ => fault (.oneOf [.lifetime])

/-- Reads a lifetime if it is there. -/
def optLifetime : Reader Bool := do
  if ← peek lifetimeAhead then lifetime; return true else return false

/-- Reads a literal, truth values and negative numbers included. -/
def literal : Reader Unit := do
  let ts ← ahead
  if literalAhead ts then
    match ts with
    | .punct c _ p :: t :: rest => accept rest [.punct c false p, t]
    | t :: rest => accept rest [t]
    | [] => fault (.oneOf [.literal])
  else fault (.oneOf [.literal])

/-- Reads a text literal. -/
def text : Reader String := do
  match ← ahead with
  | .literal s p :: rest =>
    if LiteralForm.ofSpelling s == .text then accept rest [.literal s p]; return s
    else fault (.oneOf [.textLiteral])
  | _ => fault (.oneOf [.textLiteral])

/-- Reads a whole token tree as it stands. -/
def verbatim : Reader Unit := do
  match ← ahead with
  | t :: rest => accept rest [t]
  | [] => fault .delimiter

/-- Reads a group with a reader for its content. -/
def grouped {α : Type} (d : Delimiter) (content : Reader α) : Reader α := do
  match ← ahead with
  | .group e inner left right :: rest =>
    if d = e then
      let c ← get
      set { c with rest := inner, endAt := right, spelled := [] }
      let a ← content
      let c' ← get
      let stray := c'.stray.or (c'.rest.head?.map fun t => (t.position, d))
      let spelled := .group d c'.spelled.reverse left right :: c.spelled
      set (⟨rest, c.endAt, spelled, stray⟩ : Cursor)
      return a
    else fault (.oneOf [.group d])
  | _ => fault (.oneOf [.group d])

/-- A reader together with the spelling of what it read, which is not written down. -/
def taken {α : Type} (r : Reader α) : Reader (α × List Tree) := do
  let before := (← get).spelled
  modify fun c => { c with spelled := [] }
  let a ← r
  let mine := (← get).spelled
  modify fun c => { c with spelled := before }
  return (a, mine.reverse)

/-- A reader together with the spelling of what it read. -/
def captured {α : Type} (r : Reader α) : Reader (α × List Tree) := do
  let (a, spelling) ← taken r
  emit spelling
  return (a, spelling)

/-- The tokens read since `before` lay ahead, as they stand. -/
def since (before : List Tree) : Reader (List Tree) := do
  let after ← ahead
  return before.take (before.length - after.length)

/-- A reader together with the tokens it read as they stand, which are not written
down. -/
def asWritten {α : Type} (r : Reader α) : Reader (α × List Tree) := do
  let before ← ahead
  let (a, _) ← taken r
  return (a, ← since before)

/-- A reader whose tokens are written down as they stand if its result asks for it, and
otherwise in their canonical spelling. -/
def orAsWritten {α : Type} (written : α → Bool) (r : Reader α) : Reader α := do
  let before ← ahead
  let (a, spelling) ← taken r
  let raw ← since before
  emit (if written a then raw else spelling)
  return a

/-- Tries a reader; a fault leaves everything as it was. -/
def attempt {α : Type} (r : Reader α) : Reader (Option α) := fun c =>
  match r c with
  | .ok (a, c') => .ok (some a, c')
  | .error _ => .ok (none, c)

/-- Repeats a step at most `n` times, until it gives a result. -/
def repeatAtMost {α β : Type} (step : α → Reader (α ⊕ β)) : Nat → α → Reader β
  | 0, _ => fault .depth
  | n + 1, a => do
    match ← step a with
    | .inl a' => repeatAtMost step n a'
    | .inr b => return b

/-- Repeats a step until it gives a result. A step that goes on reads at least one
token, so the tokens ahead bound the number of steps. -/
def repeatUntil {α β : Type} (a : α) (step : α → Reader (α ⊕ β)) : Reader β := do
  repeatAtMost step ((← ahead).length + 1) a

/-- Repeats a reader while a test holds. -/
def whileAhead (test : List Tree → Bool) (r : Reader Unit) : Reader Unit :=
  repeatUntil () fun _ => do
    if ← peek test then r; return .inl () else return .inr ()

/-- A list with separators up to a stop: items, each followed by the separator or
the stop. A separator before the stop is allowed. -/
def separated {α : Type} (stop : List Tree → Bool) (item : Reader α) (sep : Reader Unit) :
    Reader (List α) :=
  repeatUntil [] fun done => do
    if ← peek stop then return .inr done.reverse
    let a ← item
    if ← peek stop then return .inr (a :: done).reverse
    sep
    return .inl (a :: done)

/-- A list with commas that fills a group. -/
def commaList {α : Type} (item : Reader α) : Reader (List α) :=
  separated List.isEmpty item (punct ",")

/-- Reads a whole list of tokens. `endAt` is where a fault at the end is placed. -/
def runAll {α : Type} (r : Reader α) (endAt : Position) (ts : List Tree) : Except SyntaxFault α :=
  match r ⟨ts, endAt, [], none⟩ with
  | .error f => .error f
  | .ok (a, c) =>
    match c.stray with
    | some (p, d) => .error ⟨.leftover (some d), false, p⟩
    | none =>
      match c.rest with
      | [] => .ok a
      | t :: _ => .error ⟨.leftover none, false, t.position⟩

end Reader
end Newtype
