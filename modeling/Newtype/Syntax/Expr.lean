import Newtype.Token.Basic

/-!
# Expressions

An expression as a tree of operators. What stands in brackets is independent of its
surroundings and is kept as tokens; operators keep their operands, because whether an
operand needs parentheses is seen only when the whole is printed.

* `Level` — how tightly operators bind.
* `AtomForm`, `Jump`, `Expr` — expressions.
* `Expr.range` — a range from its two ends.
* `Expr.withAttributes`, `Expr.attributeLeft` — attributes put in front.
* `Expr.needsComma`, `Expr.needsSemicolon` — how an expression ends an arm or a
  statement.
* `Expr.level` — how tightly an expression holds together.
-/

namespace Newtype

/-! ### How tightly operators bind -/

/-- How tightly operators bind; a larger level binds more tightly. -/
abbrev Level := Nat

namespace Level

/-- `return`, `break` and closures, which reach as far as they can. -/
def jump : Level := 0
/-- Assignments. -/
def assign : Level := 1
/-- Ranges. -/
def range : Level := 2
/-- `||`. -/
def either : Level := 3
/-- `&&`. -/
def both : Level := 4
/-- `let` in a condition. -/
def binding : Level := 5
/-- Comparisons. -/
def compare : Level := 6
/-- `|`. -/
def bitOr : Level := 7
/-- `^`. -/
def bitXor : Level := 8
/-- `&`. -/
def bitAnd : Level := 9
/-- Shifts. -/
def shift : Level := 10
/-- `+` and `-`. -/
def sum : Level := 11
/-- `*`, `/` and `%`. -/
def product : Level := 12
/-- `as`. -/
def cast : Level := 13
/-- Operators in front of their operand. -/
def unary : Level := 14
/-- Expressions that no operator can take apart. -/
def closed : Level := 15

end Level

/-! ### Expressions -/

/-- What an expression without operators is. -/
inductive AtomForm where
  /-- a path; `qualified` is a qualified self type -/
  | path (qualified : Bool) (names : List String)
  | truth (value : Bool)
  | structLiteral
  /-- an expression that ends in a block and ends a statement there; `bare` is a block
  with neither label nor attributes inside -/
  | blockLike (labelled bare : Bool)
  | macroCall (d : Delimiter)
  | other
  deriving DecidableEq

/-- Leaving a loop, a function or a step. -/
inductive Jump where
  | breaks
  | returns
  | yields
  deriving DecidableEq

/-- An expression. The first argument of most forms holds the tokens of the attributes
in front.

* `verbatim` is kept as it is written.
* `jump` has no value, `jumpWith` has one; `head` is the keyword and the label.
* `closure` is typed if its result type is written; its body is then a block.
* `bind` is `let` with a pattern as a condition.
* `binary` has an operator of some level; `opens` tells that the operator could also
  start an operand.
* The four ranges differ in the ends they have.
* `prefixed` has an operator in front.
* `member` is a field, a method call, `.await` or `?`; `field` tells that it is a named
  field.
-/
inductive Expr where
  | verbatim (tokens : List Tree)
  | atom (attrs : List Tree) (form : AtomForm) (tokens : List Tree)
  | jump (attrs : List Tree) (kind : Jump) (head : List Tree)
  | jumpWith (attrs : List Tree) (kind : Jump) (head : List Tree) (labelled : Bool) (value : Expr)
  | closure (attrs head : List Tree) (typed : Bool) (body : Expr)
  | bind (attrs head : List Tree) (value : Expr)
  | assign (attrs : List Tree) (left : Expr) (op : List Tree) (right : Expr)
  | binary (attrs : List Tree) (left : Expr) (level : Level) (opens : Bool) (op : List Tree)
      (right : Expr)
  | rangeFull (attrs limits : List Tree)
  | rangeFrom (attrs : List Tree) (start : Expr) (limits : List Tree)
  | rangeTo (attrs limits : List Tree) (stop : Expr)
  | rangeBetween (attrs : List Tree) (start : Expr) (limits : List Tree) (stop : Expr)
  | cast (attrs : List Tree) (value : Expr) (type : List Tree)
  | prefixed (attrs op : List Tree) (value : Expr)
  | member (attrs : List Tree) (base : Expr) (tail : List Tree) (field : Bool)
  | call (attrs : List Tree) (callee : Expr) (args : List Tree)
  | index (attrs : List Tree) (base : Expr) (args : List Tree)
  deriving Inhabited

namespace Expr

/-- A range from its two ends. -/
def range (start : Option Expr) (limits : List Tree) (stop : Option Expr) : Expr :=
  match start, stop with
  | none, none => .rangeFull [] limits
  | some a, none => .rangeFrom [] a limits
  | none, some b => .rangeTo [] limits b
  | some a, some b => .rangeBetween [] a limits b

/-- The expression with attributes in front; an expression kept as it is written takes
none. -/
def withAttributes (new : List Tree) : Expr → Expr
  | .verbatim ts => .verbatim ts
  | .atom attrs f ts => .atom (new ++ attrs) f ts
  | .jump attrs k h => .jump (new ++ attrs) k h
  | .jumpWith attrs k h l v => .jumpWith (new ++ attrs) k h l v
  | .closure attrs h t b => .closure (new ++ attrs) h t b
  | .bind attrs h v => .bind (new ++ attrs) h v
  | .assign attrs l op r => .assign (new ++ attrs) l op r
  | .binary attrs l n o op r => .binary (new ++ attrs) l n o op r
  | .rangeFull attrs d => .rangeFull (new ++ attrs) d
  | .rangeFrom attrs a d => .rangeFrom (new ++ attrs) a d
  | .rangeTo attrs d b => .rangeTo (new ++ attrs) d b
  | .rangeBetween attrs a d b => .rangeBetween (new ++ attrs) a d b
  | .cast attrs v t => .cast (new ++ attrs) v t
  | .prefixed attrs op v => .prefixed (new ++ attrs) op v
  | .member attrs b t f => .member (new ++ attrs) b t f
  | .call attrs c ts => .call (new ++ attrs) c ts
  | .index attrs b ts => .index (new ++ attrs) b ts

/-- The expression with attributes on its leftmost operand, as far as assignments, binary
operators and casts reach. -/
def attributeLeft (new : List Tree) : Expr → Expr
  | .assign attrs l op r => .assign attrs (l.attributeLeft new) op r
  | .binary attrs l n o op r => .binary attrs (l.attributeLeft new) n o op r
  | .cast attrs v t => .cast attrs (v.attributeLeft new) t
  | e => e.withAttributes new

/-- The tokens of the dots, if the expression is a range. -/
def rangeLimits? : Expr → Option (List Tree)
  | .rangeFull _ d => some d
  | .rangeFrom _ _ d => some d
  | .rangeTo _ d _ => some d
  | .rangeBetween _ _ d _ => some d
  | _ => none

/-- The expression is a range. -/
def isRange (e : Expr) : Bool := e.rangeLimits?.isSome

/-- The expression is a comparison. -/
def isComparison : Expr → Bool
  | .binary _ _ n _ _ _ => n == Level.compare
  | _ => false

/-- A match arm with this body needs a comma before the next arm. -/
def needsComma : Expr → Bool
  | .atom _ (.blockLike _ _) _ => false
  | _ => true

/-- A statement that consists of this expression needs a semicolon. -/
def needsSemicolon : Expr → Bool
  | .atom _ (.macroCall .brace) _ => false
  | e => e.needsComma

/-- The expression starts with the label of a loop or block. -/
def leadsWithLabel : Expr → Bool
  | .atom _ (.blockLike labelled _) _ => labelled
  | .assign _ l _ _ => l.leadsWithLabel
  | .binary _ l _ _ _ _ => l.leadsWithLabel
  | .rangeFrom _ a _ => a.leadsWithLabel
  | .rangeBetween _ a _ _ => a.leadsWithLabel
  | .cast _ v _ => v.leadsWithLabel
  | .member _ b _ _ => b.leadsWithLabel
  | .call _ c _ => c.leadsWithLabel
  | .index _ b _ => b.leadsWithLabel
  | _ => false

/-- The level of an expression that only attributes open. -/
def attributeLevel (attrs : List Tree) : Level :=
  if attrs.isEmpty then Level.closed else Level.unary

/-- How tightly an expression holds together. -/
def level : Expr → Level
  | .verbatim _ => Level.closed
  | .atom attrs _ _ => attributeLevel attrs
  | .jump _ _ _ => Level.closed
  | .jumpWith _ _ _ _ _ => Level.jump
  | .closure attrs _ typed _ => if typed then attributeLevel attrs else Level.jump
  | .bind _ _ _ => Level.binding
  | .assign _ _ _ _ => Level.assign
  | .binary _ _ n _ _ _ => n
  | .rangeFull _ _ => Level.range
  | .rangeFrom _ _ _ => Level.range
  | .rangeTo _ _ _ => Level.range
  | .rangeBetween _ _ _ _ => Level.range
  | .cast _ _ _ => Level.cast
  | .prefixed _ _ _ => Level.unary
  | .member attrs _ _ _ => attributeLevel attrs
  | .call attrs _ _ => attributeLevel attrs
  | .index attrs _ _ => attributeLevel attrs

end Expr
end Newtype
