import Newtype.Token.Printer

/-!
# Type expressions

A type as it is written. Only what the wrapper generator looks at has structure:
plain paths, parentheses, tuples, and the type arguments of a path. All other types
are kept as their canonical spelling.

* `Path` — a path without generic arguments.
* `TypeExpr` — a type.
* `TypeExpr.spelling` — its tokens.
* `TypeExpr.text` — its text: a plain path without blanks, any other type as its
  tokens.
* `TypeExpr.segments?`, `TypeExpr.path?` — the path of a type, parentheses dropped.
-/

namespace Newtype

/-- A path without generic arguments; `global` is a leading `::`. -/
structure Path where
  global : Bool
  segments : List String
  deriving DecidableEq, Inhabited

namespace Path

/-- Segments joined by `::`. -/
def join (segments : List String) : String := "::".intercalate segments

/-- The text of a path, without blanks. -/
def text (p : Path) : String := (if p.global then "::" else "") ++ join p.segments

/-- The tokens of `::`. -/
def colons : List Tree := [.punct ':' true .start, .punct ':' false .start]

/-- The tokens of the segments. -/
def segmentTokens : List String → List Tree
  | [] => []
  | [s] => [.word s .start]
  | s :: ss => .word s .start :: (colons ++ segmentTokens ss)

/-- The tokens of a path. -/
def tokens (p : Path) : List Tree := (if p.global then colons else []) ++ segmentTokens p.segments

end Path

/-- A type as it is written.

* `named` is a plain path.
* `applied` is a path with generic arguments or a qualified self type: the names of
  its segments, the type arguments of the last one, and its spelling.
* `paren` is a type in parentheses.
* `tuple` is a tuple: its elements and its spelling, which may end in a comma.
* `bound` is a single bound that is no plain path, as in `for<'a> A<'a>` or `(?A)`: the
  tokens of the bound without parentheses, and its spelling.
* `other` is any other type. -/
inductive TypeExpr where
  | named (path : Path)
  | applied (qualified global : Bool) (names : List String) (arguments : List TypeExpr)
      (spelling : List Tree)
  | paren (inner : TypeExpr)
  | tuple (elements : List TypeExpr) (spelling : List Tree)
  | bound (tokens spelling : List Tree)
  | other (spelling : List Tree)
  deriving Inhabited

namespace TypeExpr

/-- The tokens of a type. -/
def spelling : TypeExpr → List Tree
  | .named p => p.tokens
  | .applied _ _ _ _ ts => ts
  | .paren t => [.group .paren t.spelling .start .start]
  | .tuple _ ts => ts
  | .bound _ ts => ts
  | .other ts => ts

/-- The text of a type: a plain path without blanks, any other type as its tokens. -/
def text : TypeExpr → String
  | .named p => p.text
  | t => Tree.renderAll t.spelling

/-- The segments of the path a type is, parentheses dropped. -/
def segments? : TypeExpr → Option (List String)
  | .named p => some p.segments
  | .paren t => t.segments?
  | _ => none

/-- The path of a type without its leading `::`, parentheses dropped. -/
def path? (t : TypeExpr) : Option String := t.segments?.map Path.join

/-- The type is the empty tuple. -/
def isUnit : TypeExpr → Bool
  | .tuple [] _ => true
  | _ => false

end TypeExpr
end Newtype
