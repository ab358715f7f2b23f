import Newtype.Syntax.Source

/-!
# Arguments of a declaration

The arguments in the marker attribute of a wrapper. A text names the field whose
type comes next, `name = value` is an option, and anything else is a type.

* `Argument` — an argument with its place.
* `readArguments` — a list of tokens as arguments.
-/

namespace Newtype

/-- What an argument is. -/
inductive ArgumentForm where
  | name (text : String)
  | type (t : TypeExpr)
  | option (name : String) (value : Expr) (valuePos : Position)

/-- An argument and its place. -/
structure Argument where
  form : ArgumentForm
  pos : Position

/-- An option lies ahead: a name and a single `=`. -/
def optionAhead (ts : List Tree) : Bool :=
  nameAhead ts && punctAhead "=" (skipTree ts) && !punctAhead "==" (skipTree ts)

/-- The place of tokens as they are spelled. -/
def placeOf (ts : List Tree) : Position := (ts.head?.map Tree.position).getD .start

/-- Reads an argument. The place of a type or a value is that of its first token as it is
spelled. -/
def argumentReader (g : Grammar) : Reader Argument := do
  let pos ← Reader.here
  if ← Reader.peek textAhead then
    let s ← Reader.text
    return ⟨.name ((textValue s).getD ""), pos⟩
  else if ← Reader.peek optionAhead then
    let w ← Reader.name
    Reader.punct "="
    let value ← g.expr true
    return ⟨.option w value (placeOf value.tokens), pos⟩
  else
    let (t, spelling) ← Reader.captured (g.type true)
    return ⟨.type t, placeOf spelling⟩

/-- The tokens as a list of arguments. -/
def readArguments (ts : List Tree) : Except SyntaxFault (List Argument) :=
  Reader.runAll (Reader.commaList (argumentReader (.forTokens ts))) .start ts

end Newtype
