import Newtype.Syntax.ItemReader

/-!
# Reading statements

Of a block only the items among its statements are kept.

* `itemAhead`, `macroStart` — what kind of statement lies ahead.
* `statement` — one statement.
* `blockReader` — a block in braces.
-/

namespace Newtype
namespace StatementReader

open Reader AttributeReader PathReader ItemReader

/-! ### What lies ahead -/

/-- A constant item, rather than a closure or a block, lies ahead. -/
def constItemAhead (ts : List Tree) : Bool :=
  let next := skipTree ts
  let third := skipTree next
  wordAhead "const" ts &&
    !(groupAhead .brace next || wordAhead "static" next ||
      (wordAhead "async" next && !(wordAhead "unsafe" third || wordAhead "extern" third ||
        wordAhead "fn" third)) ||
      wordAhead "move" next || punctAhead "|" next)

/-- An item, rather than an expression, starts a statement here. -/
def itemAhead (ts : List Tree) : Bool :=
  let next := skipTree ts
  wordAhead "pub" ts || (wordAhead "crate" ts && !punctAhead "::" next) || wordAhead "extern" ts ||
    wordAhead "use" ts ||
    (wordAhead "static" ts && (wordAhead "mut" next || nameAhead next)) ||
    constItemAhead ts ||
    (wordAhead "unsafe" ts && !groupAhead .brace next) ||
    (wordAhead "async" ts &&
      (wordAhead "unsafe" next || wordAhead "extern" next || wordAhead "fn" next)) ||
    wordAhead "fn" ts || wordAhead "mod" ts || wordAhead "type" ts || wordAhead "struct" ts ||
    wordAhead "enum" ts || (wordAhead "union" ts && nameAhead next) ||
    (wordAhead "auto" ts && wordAhead "trait" next) || wordAhead "trait" ts ||
    (wordAhead "default" ts && (wordAhead "unsafe" next || wordAhead "impl" next)) ||
    wordAhead "impl" ts || wordAhead "macro" ts

/-- What lies behind a path without generic arguments, if one lies ahead. -/
def behindPath : Reader (Option (List Tree)) := fun c =>
  match modulePath c with
  | .ok (_, c') => .ok (some c'.rest, c)
  | .error _ => .ok (none, c)

/-- How a statement that may start with a macro call is to be read. -/
inductive MacroStart where
  | item
  | braces
  | none

/-- Whether a macro call starts a statement of its own. -/
def macroStart : Reader MacroStart := do
  match ← behindPath with
  | some ts =>
    let next := skipTree ts
    let third := skipTree next
    if punctAhead "!" ts then
      if nameAhead next || wordAhead "try" next then return .item
      else if groupAhead .brace next && !(pointAhead third || punctAhead "?" third) then
        return .braces
      else return .none
    else return .none
  | none => return .none

/-! ### Statements -/

/-- Tokens end in a group in braces. -/
def endsInBraces (ts : List Tree) : Bool :=
  match ts.getLast? with
  | some t => groupAhead .brace [t]
  | none => false

/-- The value of a `let` statement, with the block that runs when the pattern does not
match. A value that ends in braces has no such block. -/
def localValue (g : Grammar) : Reader Unit := do
  let before ← ahead
  g.spelledExpr
  if !endsInBraces (← since before) then
    if ← optKeyword "else" then
      let _ ← g.block false

/-- A `let` statement. -/
def localBinding (g : Grammar) : Reader Unit := do
  keyword "let"
  let _ ← g.pattern
  if ← optPunct ":" then g.spelledType true
  if ← optPunct "=" then localValue g
  punct ";"

/-- What is kept of a statement: the item it is, if it is one, and whether it has to be the
last for want of a semicolon. -/
structure StatementForm where
  item : Option Item
  last : Bool

/-- A statement. -/
def statement (g : Grammar) : Reader StatementForm := do
  let before ← ahead
  let (attributes, attrs) ← taken (outerAttributes g)
  let item : Reader StatementForm := do
    let (i, spelling) ← taken (itemBody g attributes)
    match i with
    | some i =>
      emit (attrs ++ spelling)
      return ⟨some i, false⟩
    | none =>
      emit (← since before)
      return ⟨none, false⟩
  match ← macroStart with
  | .braces =>
    emit attrs
    let _ ← modulePath
    macroCall
    let _ ← optPunct ";"
    return ⟨none, false⟩
  | .item => item
  | .none =>
    if ← peek (wordAhead "let") then
      emit attrs
      localBinding g
      return ⟨none, false⟩
    else if ← peek itemAhead then item
    else
      let e ← g.leadingExpr
      emit ((e.attributeLeft attrs).print .ofStatement)
      let ended ← optPunct ";"
      return ⟨none, !ended && e.needsSemicolon⟩

/-- The statements of a block; the items among them. -/
def statements (g : Grammar) : Reader (List Item) :=
  repeatUntil [] fun done => do
    if ← atEnd then return .inr done.reverse
    else if ← optPunct ";" then return .inl done
    else
      let s ← statement g
      let done' := match s.item with
        | some i => i :: done
        | none => done
      if ← atEnd then return .inr done'.reverse
      else if s.last then fault .semicolon
      else return .inl done'

/-- A block in braces; with `inner` it may have attributes inside. -/
def blockReader (g : Grammar) (inner : Bool) : Reader BlockForm :=
  grouped .brace do
    let attributed ← if inner then innerAttributes g else pure false
    return ⟨← statements g, attributed⟩

end StatementReader
end Newtype
