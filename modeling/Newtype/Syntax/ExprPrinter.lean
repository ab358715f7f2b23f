import Newtype.Syntax.Placement

/-!
# The tokens of an expression

An expression is printed with the parentheses its operands need where they stand. They
are seldom needed in an expression that has been read, because its operands had theirs
already; they are put in where an operand could be misread.

* `Expr.print` — the tokens of an expression where it stands.
* `Expr.tokens` — the tokens of an expression by itself.
-/

namespace Newtype

/-- Tokens in parentheses. -/
def parenthesized (ts : List Tree) : List Tree := [.group .paren ts .start .start]

/-- Parentheses around an operand that needs them. Nothing stands around what is printed
inside parentheses. -/
def enclosed (needed : Bool) (p : Placement) (e : Expr) (print : Placement → List Tree) :
    List Tree :=
  if needed || p.encloses e then parenthesized (print .alone) else print p

/-- What is printed behind attributes, in parentheses if there are any. -/
def attributed (attrs : List Tree) (p : Placement) (print : Placement → List Tree) : List Tree :=
  if attrs.isEmpty then print p else attrs ++ parenthesized (print .alone)

/-- The expression is a named field. -/
def Expr.isNamedField : Expr → Bool
  | .member _ _ _ field => field
  | _ => false

/-- The tokens of an expression where it stands, without parentheses around the whole. -/
def Expr.printBare : Expr → Placement → List Tree
  | .verbatim ts, _ => ts
  | .atom attrs _ ts, _ => attrs ++ ts
  | .jump attrs _ head, _ => attrs ++ head
  | .jumpWith attrs k head labelled v, p =>
    attrs ++ head ++
      enclosed (k = .breaks && !labelled && v.leadsWithLabel)
        (p.rightOf true (k = .breaks) Level.jump) v fun q => v.printBare q
  | .closure attrs head _ b, p =>
    attrs ++ head ++ enclosed false (p.rightOf false false Level.jump) b fun q => b.printBare q
  | .bind attrs head v, p =>
    let right := p.rightOf false false Level.binding
    attrs ++ head ++
      enclosed (right.rightLevel v < Level.binding) right v fun q => v.printBare q
  | .assign attrs l op r, p =>
    attributed attrs p fun p =>
      let left := p.leftOf false Level.assign
      enclosed (left.leftLevel l ≤ Level.range) left l (fun q => l.printBare q) ++ op ++
        enclosed false (p.rightOf false false Level.assign) r fun q => r.printBare q
  | .binary attrs l n opens op r, p =>
    attributed attrs p fun p =>
      let left := p.leftOf opens n
      let right := p.rightOf false false n
      let loose : Bool :=
        if n = Level.assign then left.leftLevel l ≤ Level.range
        else if n = Level.compare then left.leftLevel l ≤ n
        else left.leftLevel l < n
      enclosed loose left l (fun q => l.printBare q) ++ op ++
        enclosed (n ≠ Level.assign && right.rightLevel r ≤ n) right r fun q => r.printBare q
  | .rangeFull attrs d, p => attributed attrs p fun _ => d
  | .rangeFrom attrs a d, p =>
    attributed attrs p fun p =>
      let left := p.leftOf true Level.range
      enclosed (left.leftLevel a ≤ Level.range) left a (fun q => a.printBare q) ++ d
  | .rangeTo attrs d b, p =>
    attributed attrs p fun p =>
      let right := p.rightOf false true Level.range
      d ++ enclosed (right.rightLevel b ≤ Level.range) right b fun q => b.printBare q
  | .rangeBetween attrs a d b, p =>
    attributed attrs p fun p =>
      let left := p.leftOf true Level.range
      let right := p.rightOf false true Level.range
      enclosed (left.leftLevel a ≤ Level.range) left a (fun q => a.printBare q) ++ d ++
        enclosed (right.rightLevel b ≤ Level.range) right b fun q => b.printBare q
  | .cast attrs v type, p =>
    attributed attrs p fun p =>
      let left := p.leftOf false Level.cast
      enclosed (left.leftLevel v < Level.cast) left v (fun q => v.printBare q) ++ type
  | .prefixed attrs op v, p =>
    let right := p.rightOf false false Level.unary
    attrs ++ op ++ enclosed (right.rightLevel v < Level.unary) right v fun q => v.printBare q
  | .member attrs b tail _, p =>
    let left := p.baseOf
    attrs ++ enclosed (left.leftLevel b < Level.closed) left b (fun q => b.printBare q) ++ tail
  | .call attrs c args, p =>
    let left := p.leftOf true Level.closed
    attrs ++
      enclosed (c.isNamedField || left.leftLevel c < Level.closed) left c
        (fun q => c.printBare q) ++ args
  | .index attrs b args, p =>
    let left := p.leftOf true Level.closed
    attrs ++ enclosed (left.leftLevel b < Level.closed) left b (fun q => b.printBare q) ++ args

/-- The tokens of an expression where it stands. -/
def Expr.print (e : Expr) (p : Placement) : List Tree := enclosed false p e e.printBare

/-- The tokens of an expression by itself. -/
def Expr.tokens (e : Expr) : List Tree := e.print .alone

end Newtype
