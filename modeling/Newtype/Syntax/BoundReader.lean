import Newtype.Syntax.PathReader

/-!
# Reading bounds and generic parameters

* `binder` — the parameters of `for<…>`.
* `boundReader`, `boundSum` — bounds.
* `GenericsForm`, `generics` — generic parameters.
* `whereClause` — a where clause.
-/

namespace Newtype
namespace BoundReader

open Reader AttributeReader PathReader

/-! ### Generic parameters -/

/-- A colon with bounds behind it. A colon without bounds is left out. -/
def colonBounds (bounds : Reader Unit) : Reader Bool := do
  if ← peek (punctAhead ":") then
    let (_, colon) ← taken (punct ":")
    let (_, spelling) ← taken bounds
    if !spelling.isEmpty then emit (colon ++ spelling)
    return true
  else return false

/-- Lifetimes with `+` between them up to a stop. -/
def lifetimesUntil (stop : List Tree → Bool) : Reader Unit :=
  repeatUntil () fun _ => do
    if ← peek stop then return .inr ()
    else
      lifetime
      if ← optPunct "+" then return .inl () else return .inr ()

/-- A list in angle brackets goes on or ends here. -/
def parameterEnds (ts : List Tree) : Bool :=
  ts.isEmpty || punctAhead "," ts || punctAhead ">" ts

/-- A lifetime parameter with its bounds. -/
def lifetimeParameter : Reader Unit := do
  lifetime
  let _ ← colonBounds (lifetimesUntil parameterEnds)

/-- A type parameter. -/
def typeParameter (g : Grammar) : Reader Unit := do
  let _ ← name
  let _ ← colonBounds (boundsUntil g fun ts => parameterEnds ts || punctAhead "=" ts)
  if ← optPunct "=" then g.spelledType true

/-- A constant parameter. -/
def constParameter (g : Grammar) : Reader Unit := do
  keyword "const"
  let _ ← name
  punct ":"
  g.spelledType true
  if ← optPunct "=" then constArgument g

/-- A parameter of `for<…>`. -/
def binderParameter (g : Grammar) : Reader Unit := do
  let _ ← outerAttributes g
  if ← peek nameAhead then typeParameter g
  else if ← peek lifetimeAhead then lifetimeParameter
  else if ← peek (wordAhead "const") then constParameter g
  else missing [.identifier, .lifetime, .token "const"]

/-- A generic parameter; gives whether it is a lifetime. -/
def genericParameter (g : Grammar) : Reader Bool := do
  let _ ← outerAttributes g
  if ← peek lifetimeAhead then
    lifetimeParameter
    return true
  else if ← peek nameAhead then typeParameter g
  else if ← peek (wordAhead "const") then constParameter g
  else if ← peek (wordAhead "_") then let _ ← anyWord
  else missing [.lifetime, .identifier, .token "const"]
  return false

/-- Whether generic parameters are written: not at all, an empty list, or a list that
starts at a place. -/
inductive GenericsForm where
  | absent
  | empty
  | listed (pos : Position)
  deriving DecidableEq

/-- The place of the `<` of generic parameters, if there is a parameter. -/
def GenericsForm.place? : GenericsForm → Option Position
  | .listed pos => some pos
  | _ => none

/-- Generic parameters, if they are there. An empty list is left out. -/
def generics (g : Grammar) : Reader GenericsForm := do
  if ← peek (punctAhead "<") then
    let pos ← here
    let (_, left) ← taken (punct "<")
    let parameters ← entries id (genericParameter g)
    let (_, right) ← taken (punct ">")
    if parameters.isEmpty then return .empty
    else
      emit (left ++ lifetimesFirst (parameters.map (·.2)) ++ right)
      return .listed pos
  else return .absent

/-- `for<…>`. -/
def binder (g : Grammar) : Reader Unit := do
  keyword "for"
  punct "<"
  let _ ← separated (punctAhead ">") (binderParameter g) (punct ",")
  punct ">"

/-- `for<…>` if it is there. -/
def optBinder (g : Grammar) : Reader Bool := do
  if ← peek (wordAhead "for") then binder g; return true else return false

/-! ### Bounds -/

/-- The result type behind an arrow, if there is one. -/
def resultType (g : Grammar) (plus : Bool) : Reader (Option TypeExpr) := do
  if ← optPunct "->" then return some (← g.type plus) else return none

/-- Arguments in parentheses and a result, as in `Fn(u8) -> u8`. -/
def parenArguments (g : Grammar) : Reader Unit := do
  let _ ← grouped .paren (commaList (g.type true))
  let _ ← resultType g false

/-- Arguments in parentheses lie ahead; `::` may stand before them. -/
def parenArgumentsAhead (ts : List Tree) : Bool :=
  groupAhead .paren ts || (punctAhead "::" ts && groupAhead .paren (skipTree (skipTree ts)))

/-- The path of a bound. Arguments in parentheses replace an empty list in angle brackets
and leave out a `::` before them. -/
def boundPath (g : Grammar) : Reader Unit := do
  let (path, spelling) ← taken (simplePath g false)
  let bare := match path.arguments with
    | none => some 0
    | some a => if a.isEmpty then some a.width else none
  match bare with
  | none => emit spelling
  | some width =>
    if ← peek parenArgumentsAhead then
      emit (spelling.take (spelling.length - width))
      if ← peek (punctAhead "::") then let _ ← taken (punct "::")
      parenArguments g
    else emit spelling

/-- `const` or `[const]` before a bound, if it is there and allowed; gives whether it is
there. -/
def constModifier (allowed : Bool) : Reader Bool := do
  let pos ← here
  if ← peek (groupAhead .bracket) then
    grouped .bracket (keyword "const")
    if allowed then return true else throw ⟨.conditionalBound, false, pos⟩
  else if ← optKeyword "const" then
    if allowed then return true else throw ⟨.constBound, false, pos⟩
  else return false

/-- A trait as a bound; gives whether `const` stands before it. -/
def traitBound (g : Grammar) (constant : Bool) : Reader Bool := do
  let bound ← optBinder g
  let modified ← constModifier constant
  let question ← here
  let maybe ← optPunct "?"
  let bound ← if maybe && !bound then optBinder g else pure bound
  boundPath g
  if bound && maybe then throw ⟨.binderWithQuestion, false, question⟩
  return modified

/-- A captured parameter; gives whether it is a lifetime. -/
def capturedParameter : Reader Bool := do
  if ← peek lifetimeAhead then
    lifetime
    return true
  else
    let _ ← anyWord
    return false

/-- The parameters an anonymous type captures. -/
def captureList : Reader Unit := do
  keyword "use"
  punct "<"
  let parameters ← repeatUntil [] fun done => do
    if ← peek fun ts => lifetimeAhead ts || nameAhead ts || wordAhead "Self" ts then
      let (isLifetime, spelling) ← taken capturedParameter
      if ← peek (punctAhead ",") then
        let (_, comma) ← taken (punct ",")
        return .inl (⟨isLifetime, spelling, comma⟩ :: done)
      else if ← peek (punctAhead ">") then
        return .inr (Entry.mk isLifetime spelling [] :: done).reverse
      else missing [.token ",", .token ">"]
    else if ← peek (punctAhead ">") then return .inr done.reverse
    else missing [.lifetime, .identifier, .token ">"]
  emit (lifetimesFirst parameters)
  punct ">"

/-- A bound: a lifetime, captured parameters, a trait, or a trait in parentheses. -/
def boundReader (g : Grammar) (capture constant : Bool) : Reader BoundForm := do
  if ← optLifetime then return .lifetime
  else if ← peek (wordAhead "use") then
    let pos ← here
    captureList
    if capture then return .capture else throw ⟨.capture, false, pos⟩
  else
    let modified ← orAsWritten id do
      if ← peek (groupAhead .paren) then grouped .paren (traitBound g constant)
      else traitBound g constant
    return if modified then .verbatim else .trait

/-- A bound may start here, behind a `+`. -/
def boundStarts (constant : Bool) (ts : List Tree) : Bool :=
  anyWordAhead ts || punctAhead "::" ts || punctAhead "?" ts || lifetimeAhead ts ||
    groupAhead .paren ts || (constant && groupAhead .bracket ts)

/-- Bounds with `+` between them, if sums are allowed. -/
def boundSum (g : Grammar) (plus capture constant : Bool) : Reader (List BoundForm) :=
  repeatUntil [] fun done => do
    let b ← g.bound capture constant
    if ← (do if plus then optPunct "+" else return false) then
      if ← peek (boundStarts constant) then return .inl (b :: done)
      else return .inr (b :: done).reverse
    else return .inr (b :: done).reverse

/-- Bounds of a trait or an associated type up to a stop. -/
def plainBounds (g : Grammar) (constant : Bool) (stop : List Tree → Bool) : Reader Unit := do
  let _ ← separated stop (g.bound false constant) (punct "+")

/-! ### Where clauses -/

/-- A condition of a where clause ends here. -/
def conditionEnds (ts : List Tree) : Bool :=
  ts.isEmpty || groupAhead .brace ts || punctAhead "," ts || punctAhead ";" ts || colonAhead ts ||
    punctAhead "=" ts

/-- One condition of a where clause. -/
def condition (g : Grammar) : Reader Unit := do
  if ← peek fun ts => lifetimeAhead ts && punctAhead ":" (skipTree ts) then
    lifetime
    punct ":"
    lifetimesUntil fun ts => conditionEnds ts || punctAhead ":" ts
  else
    let _ ← optBinder g
    g.spelledType true
    punct ":"
    boundsUntil g conditionEnds

/-- A where clause, if it is there; gives whether it is. One without conditions is left
out. -/
def whereClause (g : Grammar) : Reader Bool := do
  if ← peek (wordAhead "where") then
    let (_, start) ← taken (keyword "where")
    if ← peek parametersAhead then fault .whereParameters
    let (_, conditions) ← taken <| repeatUntil () fun _ => do
      if ← peek conditionEnds then return .inr ()
      else
        condition g
        if ← optPunct "," then return .inl () else return .inr ()
    if !conditions.isEmpty then emit (start ++ conditions)
    return true
  else return false

end BoundReader
end Newtype
