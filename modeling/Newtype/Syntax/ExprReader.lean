import Newtype.Syntax.FlowReader

/-!
# Reading expressions

Operators are read by precedence climbing. An expression that ends in a block ends
a statement, and the body of a match arm, where it stands; `leadingReader` follows
that rule.

* `binaryOperators` — how tightly the operators bind.
* `atom` — the expressions without operators.
* `trailers` — calls, fields, indices and `?` behind an atom.
* `unaryReader`, `operatorsReader`, `exprReader` — operators.
* `leadingReader` — an expression at the start of a statement.
-/

namespace Newtype
namespace ExprReader

open Reader AttributeReader PathReader TypeReader FieldReader PatternReader FlowReader

/-! ### Operators -/

/-- The binary operators in the order they are tried, with how tightly they bind. -/
def binaryOperators : List (String × Level) :=
  [("+=", .assign), ("-=", .assign), ("*=", .assign), ("/=", .assign), ("%=", .assign),
    ("^=", .assign), ("&=", .assign), ("|=", .assign), ("<<=", .assign), (">>=", .assign),
    ("&&", .both), ("||", .either), ("<<", .shift), (">>", .shift), ("==", .compare),
    ("<=", .compare), ("!=", .compare), (">=", .compare), ("+", .sum), ("-", .sum),
    ("*", .product), ("/", .product), ("%", .product), ("^", .bitXor), ("&", .bitAnd),
    ("|", .bitOr), ("<", .compare), (">", .compare)]

/-- The binary operators that could also start an operand. -/
def openingOperators : List String := ["-", "*", "&&", "||", "&", "|", "<<", "<"]

/-- The binary operator that lies ahead. -/
def operatorAhead (ts : List Tree) : Option (String × Level) :=
  binaryOperators.find? fun op => punctAhead op.1 ts

/-- An assignment lies ahead. -/
def assignAhead (ts : List Tree) : Bool := punctAhead "=" ts && !punctAhead "=>" ts

/-- How tightly what lies ahead binds; the lowest level if it is no operator. -/
def levelAhead (ts : List Tree) : Level :=
  match operatorAhead ts with
  | some op => op.2
  | none =>
    if assignAhead ts then .assign
    else if punctAhead ".." ts then .range
    else if wordAhead "as" ts then .cast
    else .jump

/-- A range without an upper end may end here. -/
def openRangeEnds (structs : Bool) (ts : List Tree) : Bool :=
  ts.isEmpty || punctAhead "," ts || punctAhead ";" ts || pointAhead ts || punctAhead "?" ts ||
    punctAhead "=>" ts || (!structs && groupAhead .brace ts) || punctAhead "=" ts ||
    punctAhead "+" ts || punctAhead "/" ts || punctAhead "%" ts || punctAhead "^" ts ||
    punctAhead ">" ts || punctAhead "<=" ts || punctAhead "!=" ts || punctAhead "-=" ts ||
    punctAhead "*=" ts || punctAhead "&=" ts || punctAhead "|=" ts || punctAhead "<<=" ts ||
    wordAhead "as" ts

/-- The right operand of an operator with everything that binds more tightly. A range on
the left takes no operator, so a round may read nothing; it is then the last. -/
def rightOperand (g : Grammar) (structs : Bool) (level : Level) : Reader Expr := do
  let first ← g.unary structs
  repeatUntil first fun e => do
    let ts ← ahead
    let next := levelAhead ts
    if level < next || (next == level && level == Level.assign) then
      let e' ← g.operators e structs next
      if (← ahead).length == ts.length then return .inr e' else return .inl e'
    else return .inr e

/-- A range behind its start. -/
def rangeFrom (g : Grammar) (structs : Bool) (start : Option Expr) : Reader Expr := do
  let (closed, dots) ← taken rangeLimits
  if ← (do if closed then return false else peek (openRangeEnds structs)) then
    return .range start dots none
  else return .range start dots (some (← rightOperand g structs .range))

/-- What is attached to a cast here, if anything is. -/
def castTail (ts : List Tree) : Option CastTail :=
  let next := skipTree ts
  let third := skipTree next
  if pointAhead ts then
    if wordAhead "await" next then some .await
    else if nameAhead next && (groupAhead .paren third || punctAhead "::" third) then some .method
    else some .field
  else if punctAhead "?" ts then some .question
  else if groupAhead .bracket ts then some .index
  else if groupAhead .paren ts then some .call
  else none

/-- A cast behind its operand. Nothing may be attached to it. -/
def castExpr (g : Grammar) (e : Expr) : Reader Expr := do
  let (_, type) ← taken do
    keyword "as"
    g.spelledType false
  match castTail (← ahead) with
  | some tail => fault (.attachedToCast tail)
  | none => return .cast [] e type

/-- The operators behind a left operand that bind at least as tightly as `base`. A range
is no left operand. -/
def operatorsReader (g : Grammar) (left : Expr) (structs : Bool) (base : Level) : Reader Expr :=
  repeatUntil left fun e => do
    let ts ← ahead
    if e.isRange then return .inr e
    else match operatorAhead ts with
      | some (s, level) =>
        if level < base then return .inr e
        else if level == Level.compare && e.isComparison then fault .chainedComparison
        else
          let (_, op) ← taken (punct s)
          let right ← rightOperand g structs level
          return .inl (.binary [] e level (openingOperators.contains s) op right)
      | none =>
        if base ≤ Level.assign && assignAhead ts then
          let (_, op) ← taken (punct "=")
          return .inl (.assign [] e op (← rightOperand g structs .assign))
        else if base ≤ Level.range && punctAhead ".." ts then
          return .inl (← rangeFrom g structs (some e))
        else if base ≤ Level.cast && wordAhead "as" ts then return .inl (← castExpr g e)
        else return .inr e

/-- An expression. -/
def exprReader (g : Grammar) (structs : Bool) : Reader Expr := do
  let e ← g.unary structs
  g.operators e structs .jump

/-! ### Atoms -/

/-- What a reader writes down, as an expression without operators. -/
def atomOf (form : AtomForm) (r : Reader Unit) : Reader Expr := do
  let (_, tokens) ← taken r
  return .atom [] form tokens

/-- What a reader reads, as an expression that is kept as it is written. -/
def writtenOf (r : Reader Unit) : Reader Expr := do
  let (_, tokens) ← asWritten r
  return .verbatim tokens

/-- An expression that ends in a block, without a label. -/
def blockLike : AtomForm := .blockLike false false

/-- Expressions with commas between them. -/
def exprList (g : Grammar) : Reader Unit := do
  let _ ← commaList g.spelledExpr

/-- A struct literal's fields; `..` and a rest may end them. -/
def fieldValues (g : Grammar) : Reader Unit :=
  repeatUntil () fun _ => do
    if ← atEnd then return .inr ()
    else if ← optPunct ".." then
      if !(← atEnd) then g.spelledExpr
      return .inr ()
    else
      let _ ← outerAttributes g
      let named ← fieldMember
      if !named || (← peek (punctAhead ":")) then
        punct ":"
        g.spelledExpr
      if ← atEnd then return .inr ()
      else
        punct ","
        return .inl ()

/-- The kind of brackets that lie ahead. -/
def bracketsAhead : List Tree → Delimiter
  | .group d _ _ _ :: _ => d
  | _ => .paren

/-- A path, a macro call, or a struct literal where one is allowed. -/
def pathExpr (g : Grammar) (structs : Bool) : Reader Expr := do
  let (form, tokens) ← taken do
    let path ← qualifiedPath g true
    if ← (do if path.isMacroName then peek bangAhead else return false) then
      let d := bracketsAhead (skipTree (← ahead))
      macroCall
      return AtomForm.macroCall d
    else if ← (do if structs then peek (groupAhead .brace) else return false) then
      grouped .brace (fieldValues g)
      return AtomForm.structLiteral
    else return AtomForm.path path.qualified path.names
  return .atom [] form tokens

/-- An array: a list, or one element and a length. -/
def arrayExpr (g : Grammar) : Reader Unit :=
  grouped .bracket do
    if ← atEnd then return ()
    else
      g.spelledExpr
      if ← optPunct ";" then g.spelledExpr
      else if ← atEnd then return ()
      else if ← optPunct "," then exprList g
      else fault .commaOrSemicolon

/-- `let` with a pattern as a condition. -/
def letExpr (g : Grammar) (structs : Bool) : Reader Expr := do
  let (_, head) ← taken do
    keyword "let"
    let _ ← alternatives g
    punct "="
  let e ← g.unary structs
  return .bind [] head (← g.operators e structs .compare)

/-- A literal. -/
def literalExpr : Reader Expr := do
  let form := match ← ahead with
    | .word w _ :: _ => .truth (w == "true")
    | _ => .other
  atomOf form literal

/-- A block in braces. -/
def blockExpr (g : Grammar) : Reader Expr := do
  let (b, tokens) ← taken (g.block true)
  return .atom [] (.blockLike false (!b.attributed)) tokens

/-- An asynchronous block lies ahead. -/
def asyncAhead (ts : List Tree) : Bool :=
  let next := skipTree ts
  wordAhead "async" ts &&
    (groupAhead .brace next || (wordAhead "move" next && groupAhead .brace (skipTree next)))

/-- A path of an expression lies ahead. -/
def pathAhead (ts : List Tree) : Bool :=
  let next := skipTree ts
  pathWordAhead ts || punctAhead "::" ts || punctAhead "<" ts ||
    (wordAhead "try" ts && (punctAhead "!" next || punctAhead "::" next))

/-- An expression without operators. -/
def atom (g : Grammar) (structs : Bool) : Reader Expr := do
  let ts ← ahead
  if literalAhead ts then literalExpr
  else if asyncAhead ts then
    atomOf .other do
      keyword "async"
      let _ ← optKeyword "move"
      plainBlock g
  else if wordAhead "try" ts && groupAhead .brace (skipTree ts) then
    atomOf blockLike do
      keyword "try"
      plainBlock g
  else if closureAhead ts then closure g structs
  else if builtinAhead ts then writtenOf builtin
  else if pathAhead ts then pathExpr g structs
  else if groupAhead .paren ts then atomOf .other (grouped .paren (exprList g))
  else if wordAhead "break" ts then breakExpr g structs
  else if wordAhead "continue" ts then
    atomOf .other do
      keyword "continue"
      let _ ← optLifetime
  else if wordAhead "return" ts then leaveExpr g "return" .returns
  else if wordAhead "become" ts then
    writtenOf do
      keyword "become"
      g.spelledExpr
  else if groupAhead .bracket ts then atomOf .other (arrayExpr g)
  else if wordAhead "let" ts then letExpr g structs
  else if wordAhead "if" ts then atomOf blockLike (ifExpr g)
  else if wordAhead "while" ts then atomOf blockLike (whileExpr g)
  else if wordAhead "for" ts then atomOf blockLike (forExpr g)
  else if wordAhead "loop" ts then atomOf blockLike (loopExpr g)
  else if wordAhead "match" ts then atomOf blockLike (matchExpr g)
  else if wordAhead "yield" ts then leaveExpr g "yield" .yields
  else if wordAhead "unsafe" ts then atomOf blockLike (keywordBlock g "unsafe")
  else if wordAhead "const" ts then atomOf blockLike (keywordBlock g "const")
  else if groupAhead .brace ts then blockExpr g
  else if punctAhead ".." ts then rangeFrom g structs none
  else if wordAhead "_" ts then
    atomOf .other do let _ ← anyWord
  else if lifetimeAhead ts then atomOf (.blockLike true false) (labelled g)
  else fault .expression

/-! ### Trailers -/

/-- A fraction behind a point holds the numbers of fields of fields. Gives the expression
so far, and whether a field still has to follow. -/
def numberedFields (base : Expr) (point : List Tree) : Reader (Expr × Bool) := do
  let split (negative : Bool) (s : String) (p : Position) (rest : List Tree) :
      Reader (Expr × Bool) := do
    if LiteralForm.ofSpelling s == .float then
      let (numbers, pointed) ← splitNumber negative s p
      accept rest []
      return (numbers.foldl (fun e t => .member [] e (point ++ [t]) false) base, pointed)
    else return (base, true)
  match ← ahead with
  | .literal s p :: rest => split false s p rest
  | .punct '-' _ p :: .literal s _ :: rest => split true s p rest
  | _ => return (base, true)

/-- A field or a method call behind its point; gives whether it is a named field. -/
def fieldOrCall (g : Grammar) : Reader Bool := do
  let named ← fieldMember
  let turbofish ← peek fun ts => named && punctAhead "::" ts
  if turbofish then let _ ← angleArguments g
  if turbofish || (← peek fun ts => named && groupAhead .paren ts) then
    grouped .paren (exprList g)
    return false
  else return named

/-- What follows a point: numbers of fields of fields, `await`, a field or a method
call. -/
def memberExpr (g : Grammar) (e : Expr) : Reader Expr := do
  let (_, point) ← taken (punct ".")
  let (base, pointed) ← numberedFields e point
  if !pointed then return base
  else
    let (field, tail) ← taken do
      if ← optKeyword "await" then return false else fieldOrCall g
    return .member [] base (point ++ tail) field

/-- Calls, fields, indices and `?` behind an expression. -/
def trailers (g : Grammar) (e : Expr) : Reader Expr :=
  repeatUntil e fun e => do
    let ts ← ahead
    if groupAhead .paren ts then
      let (_, args) ← taken (grouped .paren (exprList g))
      return .inl (.call [] e args)
    else if pointAhead ts && !e.isRange then return .inl (← memberExpr g e)
    else if groupAhead .bracket ts then
      let (_, args) ← taken (grouped .bracket g.spelledExpr)
      return .inl (.index [] e args)
    else if punctAhead "?" ts && !e.isRange then
      let (_, mark) ← taken (punct "?")
      return .inl (.member [] e mark false)
    else return .inr e

/-! ### Operands -/

/-- The operator of a reference. -/
def referenceOperator : Reader Unit := do
  punct "&"
  if ← peek fun ts => wordAhead "raw" ts &&
      (wordAhead "mut" (skipTree ts) || wordAhead "const" (skipTree ts)) then
    keyword "raw"
    let _ ← anyWord
  else
    let _ ← optKeyword "mut"

/-- The operator in front of an operand, if there is one. -/
def frontOperator : Reader Bool := do
  let ts ← ahead
  if punctAhead "&" ts then
    referenceOperator
    return true
  else if ← optPunct "*" then return true
  else if ← optPunct "!" then return true
  else optPunct "-"

/-- Attributes on an operand. A range takes none. -/
def attributedOperand (attrs : List Tree) (e : Expr) : Reader Expr := do
  match e.rangeLimits? with
  | some (t :: _) =>
    if attrs.isEmpty then return e else throw ⟨.attributedRange, false, t.position⟩
  | _ => return e.withAttributes attrs

/-- An operand: attributes, operators in front, and an atom with its trailers. -/
def unaryReader (g : Grammar) (structs : Bool) : Reader Expr := do
  let before ← ahead
  let (_, attrs) ← taken (outerAttributes g)
  let (operated, op) ← taken frontOperator
  if operated then return .prefixed attrs op (← g.unary structs)
  else
    let e ← trailers g (← atom g structs)
    match e with
    | .verbatim _ => return .verbatim (← since before)
    | e => attributedOperand attrs e

/-! ### Statements -/

/-- A block-like expression that ends a statement lies ahead. -/
def blockLikeAhead (ts : List Tree) : Bool :=
  let next := skipTree ts
  wordAhead "if" ts || wordAhead "while" ts || (wordAhead "for" ts && !parametersAhead next) ||
    wordAhead "loop" ts || wordAhead "match" ts || (wordAhead "try" ts && groupAhead .brace next) ||
    wordAhead "unsafe" ts || (wordAhead "const" ts && groupAhead .brace next) ||
    groupAhead .brace ts || lifetimeAhead ts

/-- An expression at the start of a statement or as the body of a match arm: one
that ends in a block ends there, unless a point or `?` follows. -/
def leadingReader (g : Grammar) : Reader Expr := do
  let (_, attrs) ← taken (outerAttributes g)
  if ← peek blockLikeAhead then
    let e ← atom g true
    if ← peek fun ts => pointAhead ts || punctAhead "?" ts then
      let e' ← trailers g e
      g.operators (e'.withAttributes attrs) true .jump
    else return e.withAttributes attrs
  else
    let e ← g.unary true
    g.operators (e.withAttributes attrs) true .jump

end ExprReader
end Newtype
