import Newtype.Syntax.ExprPrinter
import Newtype.Syntax.Item
import Newtype.Syntax.Reader

/-!
# The mutually recursive phrases

Types contain expressions (array lengths), expressions contain blocks, blocks
contain items, and items contain types. The reader of each phrase is written
against a record with the readers of all the phrases it may contain; the knot is
tied, with a bound on the depth, where the record is built.

Readers write down what they read, with one exception: the readers of expressions give
a tree and write nothing, since its tokens depend on where it stands.

* `BoundForm`, `PatternForm`, `BlockForm` — what is kept of a bound, a pattern and a
  block.
* `Grammar` — a reader for each recursive phrase.
* `Grammar.placedExpr`, `Grammar.spelledExpr` — an expression that is written down.
-/

namespace Newtype

/-- What a bound is. One with `const` in front is kept as it is written. -/
inductive BoundForm where
  | lifetime
  | capture
  | trait
  | verbatim
  deriving DecidableEq

/-- What a pattern is: kept as it is written, a range with two ends, one with one end and
the place of its dots, or any other. -/
inductive PatternForm where
  | verbatim
  | range
  | openRange (dots : Position)
  | other
  deriving DecidableEq

/-- What is kept of a block: the items among its statements, and whether it has
attributes inside. -/
structure BlockForm where
  items : List Item
  attributed : Bool

/-- A reader for each phrase that contains others. The flag of `type` allows a sum
of bounds, the flags of `bound` a list of captured parameters and `const`, the flag of
the expressions a struct literal without parentheses, the flag of `block` attributes
inside, and the flag of `useTree` paths from the root in a group. -/
structure Grammar where
  type : Bool → Reader TypeExpr
  bound : Bool → Bool → Reader BoundForm
  expr : Bool → Reader Expr
  unary : Bool → Reader Expr
  /-- the operators behind a left operand that bind at least as tightly as a level -/
  operators : Expr → Bool → Level → Reader Expr
  /-- an expression at the start of a statement or as the body of a match arm -/
  leadingExpr : Reader Expr
  pattern : Reader PatternForm
  /-- a block in braces -/
  block : Bool → Reader BlockForm
  /-- fields in braces; their number -/
  fields : Reader Nat
  item : Reader Item
  useTree : Bool → Reader (Option UseTree)

namespace Grammar

/-- An expression that is written down where it stands. -/
def placedExpr (g : Grammar) (structs : Bool) (p : Placement) : Reader Unit := do
  let e ← g.expr structs
  Reader.emit (e.print p)

/-- An expression that is written down by itself. -/
def spelledExpr (g : Grammar) : Reader Unit := g.placedExpr true .alone

/-- A type that is written down. -/
def spelledType (g : Grammar) (plus : Bool) : Reader Unit := do
  let _ ← g.type plus

end Grammar
end Newtype
