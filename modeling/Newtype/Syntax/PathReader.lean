import Newtype.Syntax.AttributeReader

/-!
# Reading paths

Paths of types and expressions with their generic arguments.

* `Entry`, `lifetimesFirst` — lists in angle brackets, in their canonical order.
* `angleArguments` — generic arguments in angle brackets.
* `RawPath`, `simplePath`, `qualifiedPath` — a path.
* `macroCall` — the input of a macro behind its path.
-/

namespace Newtype
namespace PathReader

open Reader AttributeReader

/-! ### Lists in angle brackets -/

/-- An entry of a list in angle brackets: whether it is a lifetime, its spelling, and the
comma behind it, if there is one. -/
structure Entry where
  isLifetime : Bool
  spelling : List Tree
  comma : List Tree

/-- The tokens of entries in a row. -/
def Entry.tokens (es : List Entry) : List Tree := es.flatMap fun e => e.spelling ++ e.comma

/-- The comma token. -/
def commaToken : Tree := .punct ',' false .start

/-- The canonical order of a list: lifetimes first. A comma is put in if the last lifetime
has none. -/
def lifetimesFirst (es : List Entry) : List Tree :=
  let lifetimes := es.filter (·.isLifetime)
  let others := es.filter (!·.isLifetime)
  let unclosed := (lifetimes.getLast?.map (·.comma.isEmpty)).getD false
  Entry.tokens lifetimes ++ (if unclosed && !others.isEmpty then [commaToken] else []) ++
    Entry.tokens others

/-- Entries with commas between them up to `>`, with their results. -/
def entries {α : Type} (isLifetime : α → Bool) (item : Reader α) : Reader (List (α × Entry)) :=
  repeatUntil [] fun done => do
    if ← peek (punctAhead ">") then return .inr done.reverse
    let (a, spelling) ← taken item
    if ← peek (punctAhead ">") then
      return .inr ((a, ⟨isLifetime a, spelling, []⟩) :: done).reverse
    let (_, comma) ← taken (punct ",")
    return .inl ((a, ⟨isLifetime a, spelling, comma⟩) :: done)

/-! ### Generic arguments -/

/-- A generic argument as far as it is kept. -/
inductive Argument where
  | lifetime
  | type (t : TypeExpr)
  | other

/-- The argument is a lifetime. -/
def Argument.isLifetime : Argument → Bool
  | .lifetime => true
  | _ => false

/-- The type an argument is. -/
def Argument.type? : Argument → Option TypeExpr
  | .type t => some t
  | _ => none

/-- A constant as a generic argument: a literal, a name or a block. -/
def constArgument (g : Grammar) : Reader Unit := do
  if ← peek literalAhead then literal
  else if ← peek nameAhead then let _ ← name
  else if ← peek (groupAhead .brace) then let _ ← g.block true
  else fault (.oneOf [])

/-- A constant lies ahead that is no name. -/
def constAhead (ts : List Tree) : Bool := literalAhead ts || groupAhead .brace ts

/-- The types that may turn out to be the name of an associated item. -/
def isAssociatedName : TypeExpr → Bool
  | .named p => !p.global && p.segments.length == 1
  | .applied qualified global names _ _ => !qualified && !global && names.length == 1
  | _ => false

/-- Bounds of a parameter with `+` between them up to a stop. -/
def boundsUntil (g : Grammar) (stop : List Tree → Bool) : Reader Unit :=
  repeatUntil () fun _ => do
    if ← peek stop then return .inr ()
    else
      let _ ← g.bound false true
      if ← optPunct "+" then return .inl () else return .inr ()

/-- A generic argument. -/
def genericArgument (g : Grammar) : Reader Argument := do
  if ← peek fun ts => lifetimeAhead ts && !punctAhead "+" (skipTree ts) then
    lifetime
    return .lifetime
  else if ← peek constAhead then
    constArgument g
    return .other
  else
    let t ← g.type true
    if isAssociatedName t then
      if ← optPunct "=" then
        if ← peek constAhead then constArgument g
        else g.spelledType true
        return .other
      else if ← optPunct ":" then
        boundsUntil g fun ts => punctAhead "," ts || punctAhead ">" ts
        return .other
      else return .type t
    else return .type t

/-- The generic arguments of a segment: the types among them, whether there are none at
all, and the number of tokens they are spelled with. -/
structure SegmentArguments where
  types : List TypeExpr
  isEmpty : Bool
  width : Nat

/-- Generic arguments in angle brackets, with the `::` that may stand before them. -/
def angleArguments (g : Grammar) : Reader SegmentArguments := do
  let (args, spelling) ← captured do
    let _ ← optPunct "::"
    punct "<"
    let args ← entries Argument.isLifetime (genericArgument g)
    emit (lifetimesFirst (args.map (·.2)))
    punct ">"
    return args.map (·.1)
  return ⟨args.filterMap Argument.type?, args.isEmpty, spelling.length⟩

/-! ### Paths -/

/-- A path as it is read: whether it has a qualified self type and a leading `::`,
the names of its segments, whether no segment has arguments, and the arguments of the
last one. -/
structure RawPath where
  qualified : Bool
  global : Bool
  names : List String
  plain : Bool
  arguments : Option SegmentArguments

/-- One segment: its name, and its arguments if it has any. In an expression the
arguments need a `::` in front. -/
def segment (g : Grammar) (inExpr : Bool) : Reader (String × Option SegmentArguments) := do
  if ← peek fun ts => wordAhead "super" ts || wordAhead "self" ts || wordAhead "crate" ts ||
      wordAhead "try" ts then
    return (← anyWord, none)
  else
    let w ← if ← peek (wordAhead "Self") then anyWord else name
    if ← peek fun ts =>
        (!inExpr && punctAhead "<" ts && !punctAhead "<=" ts && !punctAhead "<<=" ts) ||
          (punctAhead "::" ts && punctAhead "<" (skipTree (skipTree ts))) then
      return (w, some (← angleArguments g))
    else return (w, none)

/-- Adds a segment to a path. -/
def RawPath.push (p : RawPath) (s : String × Option SegmentArguments) : RawPath :=
  { p with names := p.names ++ [s.1], plain := p.plain && s.2.isNone, arguments := s.2 }

/-- The segments behind the first. -/
def moreSegments (g : Grammar) (inExpr : Bool) (p : RawPath) : Reader RawPath :=
  repeatUntil p fun q => do
    if ← peek fun ts =>
        punctAhead "::" ts && !groupAhead .paren (skipTree (skipTree ts)) then
      punct "::"
      return .inl (q.push (← segment g inExpr))
    else return .inr q

/-- A path without a qualified self type. -/
def simplePath (g : Grammar) (inExpr : Bool) : Reader RawPath := do
  let global ← optPunct "::"
  let first ← segment g inExpr
  moreSegments g inExpr (RawPath.push ⟨false, global, [], true, none⟩ first)

/-- The segments behind a qualified self type. -/
def qualifiedRest (g : Grammar) (inExpr : Bool) (p : RawPath) : Reader RawPath :=
  repeatUntil p fun q => do
    let q' := q.push (← segment g inExpr)
    if ← optPunct "::" then return .inl q' else return .inr q'

/-- A path, with or without a qualified self type. -/
def qualifiedPath (g : Grammar) (inExpr : Bool) : Reader RawPath := do
  if ← optPunct "<" then
    g.spelledType true
    let trait ← if ← optKeyword "as" then pure (some (← simplePath g false)) else pure none
    punct ">"
    punct "::"
    let start := match trait with
      | some p => { p with qualified := true }
      | none => ⟨true, true, [], true, none⟩
    qualifiedRest g inExpr start
  else simplePath g inExpr

/-- The type arguments of the last segment. -/
def RawPath.typeArguments (p : RawPath) : List TypeExpr :=
  (p.arguments.map (·.types)).getD []

/-- The type a path stands for. -/
def RawPath.toType (p : RawPath) (spelling : List Tree) : TypeExpr :=
  if p.plain && !p.qualified then .named ⟨p.global, p.names⟩
  else .applied p.qualified p.global p.names p.typeArguments spelling

/-- The path can be the name of a macro. -/
def RawPath.isMacroName (p : RawPath) : Bool := p.plain && !p.qualified

/-- The `!` and the input of a macro behind its path. -/
def macroCall : Reader Unit := do
  punct "!"
  let _ ← groupTokens

end PathReader
end Newtype
