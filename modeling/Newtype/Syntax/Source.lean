import Newtype.Syntax.StatementReader
import Newtype.Token.Lexer

/-!
# Reading whole texts

The readers of the recursive phrases are tied together here. A phrase inside a
phrase stands one level deeper; as every few levels take a token, the number of
tokens bounds the depth.

* `Grammar.ofDepth` — the readers for a given depth.
* `readType`, `readStruct`, `readPaths` — a list of tokens as one phrase.
* `readFile` — the items of a source file.
* `stripScriptLine` — a `#!` line at the start of a file is no part of it.
-/

namespace Newtype

/-! ### The readers of all phrases -/

/-- Readers that allow no phrase at all. -/
def Grammar.bottom : Grammar where
  type _ := Reader.fault .depth
  bound _ _ := Reader.fault .depth
  expr _ := Reader.fault .depth
  unary _ := Reader.fault .depth
  operators _ _ _ := Reader.fault .depth
  leadingExpr := Reader.fault .depth
  pattern := Reader.fault .depth
  block _ := Reader.fault .depth
  fields := Reader.fault .depth
  item := Reader.fault .depth
  useTree _ := Reader.fault .depth

/-- Readers for phrases whose parts are read by `g`. -/
def Grammar.deeper (g : Grammar) : Grammar where
  type := TypeReader.typeReader g
  bound := BoundReader.boundReader g
  expr := ExprReader.exprReader g
  unary := ExprReader.unaryReader g
  operators := ExprReader.operatorsReader g
  leadingExpr := ExprReader.leadingReader g
  pattern := PatternReader.patternReader g
  block := StatementReader.blockReader g
  fields := DataReader.namedFields g
  item := ItemReader.itemReader g
  useTree := ItemReader.useTreeReader g

/-- Readers for phrases that nest up to a depth. -/
def Grammar.ofDepth (n : Nat) : Grammar := Nat.repeat Grammar.deeper n Grammar.bottom

/-- A depth no phrase of these tokens exceeds. -/
def Grammar.depthFor (ts : List Tree) : Nat := 8 * Tree.sizeAll ts + 16

/-- Readers for a list of tokens. -/
def Grammar.forTokens (ts : List Tree) : Grammar := .ofDepth (Grammar.depthFor ts)

/-! ### Lists of tokens as one phrase -/

/-- The tokens as one type. -/
def readType (ts : List Tree) : Except SyntaxFault TypeExpr :=
  Reader.runAll ((Grammar.forTokens ts).type true) .start ts

/-- The tokens as one struct. -/
def readStruct (ts : List Tree) : Except SyntaxFault StructItem :=
  let g := Grammar.forTokens ts
  let struct : Reader StructItem := do
    let attributes ← AttributeReader.outerAttributes g
    let (_, visible) ← Reader.captured DataReader.visibility
    DataReader.structItem g attributes visible
  Reader.runAll struct .start ts

/-- The tokens as a list of paths; of each path the last name. -/
def readPaths (ts : List Tree) : Except SyntaxFault (List String) :=
  let g := Grammar.forTokens ts
  let path : Reader (Option String) := do
    return (← PathReader.simplePath g false).names.getLast?
  (Reader.runAll (Reader.commaList path) .start ts).map (·.filterMap id)

/-! ### Files -/

/-- The text behind blanks and comments. -/
def skipGaps : Nat → List Char → List Char
  | 0, cs => cs
  | n + 1, cs =>
    match Lexer.nextPiece cs with
    | some (.blank, _, rest) => skipGaps n rest
    | _ => cs

/-- The text without a `#!` line at its start. What follows on the line decides: an
attribute is no such line. The end of the line stays, so that lines keep their
numbers. -/
def stripScriptLine (cs : List Char) : List Char :=
  match cs with
  | '#' :: '!' :: rest =>
    if (skipGaps rest.length rest).head? = some '[' then cs
    else cs.dropWhile (· != '\n')
  | _ => cs

/-- A byte order mark at the start is no part of a text. -/
def stripOrderMark (cs : List Char) : List Char :=
  match cs with
  | c :: rest => if c.toNat = 0xfeff then rest else c :: rest
  | [] => []

/-- The items of a file. -/
def readItems (ts : List Tree) : Except SyntaxFault (List Item) :=
  let g := Grammar.forTokens ts
  let items : Reader (List Item) := do
    let _ ← AttributeReader.innerAttributes g
    Reader.repeatUntil [] fun done => do
      if ← Reader.atEnd then return .inr done.reverse
      else return .inl ((← g.item) :: done)
  Reader.runAll items .start ts

/-- The items of a source file, if it can be read. -/
def readFile (text : String) : Option (List Item) :=
  let content := stripScriptLine (stripOrderMark text.toList)
  match Lexer.tokenize (String.ofList content) with
  | none => none
  | some ts => (readItems ts).toOption

end Newtype
