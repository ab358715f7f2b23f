import Newtype.Syntax.PatternReader

/-!
# Reading control flow

Conditions, loops, matches, blocks and closures. Those that end in a block are written
down as they are read; what they contain does not depend on where they stand.

* `exprStarts` — an expression may start here.
* `closure`, `jumpExpr` — closures and jumps.
* `ifExpr`, `matchExpr`, `whileExpr`, `forExpr`, `loopExpr` — what ends in a block.
* `labelled` — a loop or block with a label.
-/

namespace Newtype
namespace FlowReader

open Reader AttributeReader BoundReader TypeReader PatternReader

/-- An expression may start here. -/
def exprStarts (ts : List Tree) : Bool :=
  (anyWordAhead ts && !wordAhead "as" ts) || groupAhead .paren ts || groupAhead .bracket ts ||
    groupAhead .brace ts || literalAhead ts || bangAhead ts ||
    (punctAhead "-" ts && !punctAhead "-=" ts && !punctAhead "->" ts) ||
    (punctAhead "*" ts && !punctAhead "*=" ts) || (punctAhead "|" ts && !punctAhead "|=" ts) ||
    (punctAhead "&" ts && !punctAhead "&=" ts) || punctAhead ".." ts ||
    (punctAhead "<" ts && !punctAhead "<=" ts && !punctAhead "<<=" ts) || punctAhead "::" ts ||
    lifetimeAhead ts || punctAhead "#" ts

/-! ### Blocks -/

/-- A block in braces that may have attributes inside. -/
def bracedBlock (g : Grammar) : Reader Unit := do
  let _ ← g.block true

/-- A block in braces without attributes inside. -/
def plainBlock (g : Grammar) : Reader Unit := do
  let _ ← g.block false

/-- A keyword and a block that may have attributes inside. -/
def keywordBlock (g : Grammar) (w : String) : Reader Unit := do
  keyword w
  bracedBlock g

/-- What stands before a block. -/
def conditionExpr (g : Grammar) : Reader Unit := g.placedExpr false .ofCondition

/-- `if` with its chain of `else`. -/
def ifExpr (g : Grammar) : Reader Unit :=
  repeatUntil () fun _ => do
    keyword "if"
    conditionExpr g
    plainBlock g
    if ← optKeyword "else" then
      if ← peek (wordAhead "if") then return .inl ()
      else if ← peek (groupAhead .brace) then
        plainBlock g
        return .inr ()
      else missing [.token "if", .group .brace]
    else return .inr ()

/-- A loop with a condition, behind its label. -/
def whileExpr (g : Grammar) : Reader Unit := do
  keyword "while"
  conditionExpr g
  bracedBlock g

/-- A loop over an iterator, behind its label. -/
def forExpr (g : Grammar) : Reader Unit := do
  keyword "for"
  let _ ← alternatives g
  keyword "in"
  conditionExpr g
  bracedBlock g

/-- An endless loop, behind its label. -/
def loopExpr (g : Grammar) : Reader Unit := keywordBlock g "loop"

/-- An arm of a match. -/
def matchArm (g : Grammar) : Reader Unit := do
  let _ ← outerAttributes g
  let _ ← alternatives g
  if ← optKeyword "if" then g.spelledExpr
  punct "=>"
  let body ← g.leadingExpr
  emit (body.print .ofArm)
  if body.needsComma && !(← atEnd) then punct "," else let _ ← optPunct ","

/-- A match. -/
def matchExpr (g : Grammar) : Reader Unit := do
  keyword "match"
  conditionExpr g
  grouped .brace do
    let _ ← innerAttributes g
    whileAhead (!·.isEmpty) (matchArm g)

/-- A loop or block with a label. -/
def labelled (g : Grammar) : Reader Unit := do
  lifetime
  punct ":"
  if ← peek (wordAhead "while") then whileExpr g
  else if ← peek (wordAhead "for") then forExpr g
  else if ← peek (wordAhead "loop") then loopExpr g
  else if ← peek (groupAhead .brace) then bracedBlock g
  else fault .labelTarget

/-! ### Closures -/

/-- A closure lies ahead. -/
def closureAhead (ts : List Tree) : Bool :=
  let next := skipTree ts
  punctAhead "|" ts || wordAhead "move" ts || (wordAhead "for" ts && parametersAhead next) ||
    (wordAhead "const" ts && !groupAhead .brace next) || wordAhead "static" ts ||
    (wordAhead "async" ts && (punctAhead "|" next || wordAhead "move" next))

/-- A parameter of a closure. Without a type, attributes are left out before a pattern
that is kept as it is written, and enclose a range. -/
def closureParameter (g : Grammar) : Reader Unit := do
  let (_, attrs) ← taken (outerAttributes g)
  let (form, pattern) ← taken g.pattern
  if ← peek (punctAhead ":") then
    emit (attrs ++ pattern)
    punct ":"
    g.spelledType true
  else
    emit <| match form with
      | .verbatim => pattern
      | .other => attrs ++ pattern
      | _ => attributed attrs .alone fun _ => pattern

/-- A closure up to its parameters. -/
def closureHead (g : Grammar) : Reader Unit := do
  let _ ← optBinder g
  let _ ← optKeyword "const"
  let _ ← optKeyword "static"
  let _ ← optKeyword "async"
  let _ ← optKeyword "move"
  punct "|"
  let _ ← separated (punctAhead "|") (closureParameter g) (punct ",")
  punct "|"

/-- A closure. -/
def closure (g : Grammar) (structs : Bool) : Reader Expr := do
  let (_, head) ← taken (closureHead g)
  if ← peek (punctAhead "->") then
    let (_, result) ← taken (resultType g true)
    let (_, body) ← taken (plainBlock g)
    return .closure [] (head ++ result) true (.atom [] (.blockLike false true) body)
  else return .closure [] head false (← g.expr structs)

/-! ### Jumps -/

/-- A jump behind its keyword and label, with its value if one is there. -/
def jumpExpr (g : Grammar) (kind : Jump) (head : List Tree) (labelled valued : Bool) :
    Reader Expr := do
  if valued then return .jumpWith [] kind head labelled (← g.expr true)
  else return .jump [] kind head

/-- `break` with its label and value. A labelled loop as its value needs parentheses. -/
def breakExpr (g : Grammar) (structs : Bool) : Reader Expr := do
  let (_, start) ← taken (keyword "break")
  let pos ← here
  if ← peek fun ts => lifetimeAhead ts && punctAhead ":" (skipTree ts) then
    let _ ← g.expr true
    throw ⟨.parenthesesRequired, false, pos⟩
  else
    let (labelled, label) ← taken optLifetime
    let valued ← peek fun ts => exprStarts ts && (structs || !groupAhead .brace ts)
    jumpExpr g .breaks (start ++ label) labelled valued

/-- `return` or `yield` with its value. -/
def leaveExpr (g : Grammar) (w : String) (kind : Jump) : Reader Expr := do
  let (_, head) ← taken (keyword w)
  jumpExpr g kind head false (← peek exprStarts)

end FlowReader
end Newtype
