import Newtype.Syntax.BoundReader

/-!
# Reading types

Every form of type.

* `functionType` — a function type.
* `parenType` — a type that starts with parentheses.
* `pathType` — a type that starts with a path.
* `typeReader` — a type.
-/

namespace Newtype
namespace TypeReader

open Reader AttributeReader PathReader BoundReader

/-! ### Function types -/

/-- `extern "C"`. -/
def abi : Reader Unit := do
  keyword "extern"
  if ← peek textAhead then let _ ← text

/-- `extern "C"` if it is there. -/
def optAbi : Reader Unit := do
  if ← peek (wordAhead "extern") then abi

/-- A `self` that may change lies ahead. -/
def mutableSelfAhead (ts : List Tree) : Bool := wordAhead "mut" ts && wordAhead "self" (skipTree ts)

/-- A parameter of a function type. The first may be a `self`, which takes no type of its
own if it may change; such a parameter is kept as it is written. -/
def functionTypeParameter (g : Grammar) (first : Bool) : Reader Unit := do
  let _ ← orAsWritten id do
    let mutable ← peek mutableSelfAhead
    if first && mutable then keyword "mut"
    let named ← peek fun ts =>
      (nameAhead ts || wordAhead "_" ts || (first && wordAhead "self" ts)) &&
        colonAhead (skipTree ts)
    let self ← peek fun ts => named && wordAhead "self" ts
    if named then
      let _ ← anyWord
      punct ":"
    if ← (do if first && !self then peek mutableSelfAhead else return false) then
      keyword "mut"
      keyword "self"
      return true
    else if first && mutable && !named then
      keyword "self"
      return true
    else
      g.spelledType true
      return first && mutable

/-- The parameters of a function type; `...` may end them. -/
def functionTypeParameters (g : Grammar) : Reader Unit :=
  repeatUntil true fun first => do
    if ← atEnd then return .inr ()
    else
      let _ ← outerAttributes g
      if ← optPunct "..." then
        let _ ← optPunct ","
        return .inr ()
      else if ← peek fun ts => (nameAhead ts || wordAhead "_" ts) && punctAhead ":" (skipTree ts) &&
          punctAhead "..." (skipTree (skipTree ts)) then
        let _ ← anyWord
        punct ":"
        punct "..."
        let _ ← optPunct ","
        return .inr ()
      else
        functionTypeParameter g first
        if ← atEnd then return .inr ()
        else
          punct ","
          return .inl false

/-- A function type, behind its `for<…>`. -/
def functionType (g : Grammar) : Reader Unit := do
  let _ ← optKeyword "unsafe"
  optAbi
  keyword "fn"
  grouped .paren (functionTypeParameters g)
  let _ ← resultType g false

/-! ### Object types -/

/-- The bounds of an object type or an anonymous type; one of them has to be a trait. -/
def objectBounds (g : Grammar) (pos : Position) (plus anonymous : Bool) : Reader Unit := do
  let bounds ← boundSum g plus anonymous anonymous
  if bounds.contains .trait || bounds.contains .verbatim then return ()
  else throw ⟨if anonymous then .anonymousWithoutTrait else .objectWithoutTrait, false, pos⟩

/-- The bounds behind a first one that is already read. -/
def moreBounds (g : Grammar) : Reader Unit :=
  whileAhead (punctAhead "+") do
    punct "+"
    let _ ← g.bound false false

/-- The bounds behind a path that is a first one; a `+` may end them. -/
def trailingBounds (g : Grammar) : Reader Unit :=
  repeatUntil () fun _ => do
    if ← optPunct "+" then
      if ← peek (boundStarts false) then
        let _ ← g.bound false false
        return .inl ()
      else return .inr ()
    else return .inr ()

/-! ### Types in parentheses -/

/-- What the parentheses of a type hold. -/
inductive ParenType where
  | one (t : TypeExpr)
  | bound (tokens : List Tree)
  | tuple (elements : List TypeExpr)

/-- The content of the parentheses of a type. -/
def parenContent (g : Grammar) : Reader ParenType := do
  if ← atEnd then return .tuple []
  else if ← peek lifetimeAhead then
    let pos ← here
    let (_, spelling) ← captured (objectBounds g pos true false)
    return .one (.other spelling)
  else if ← peek (punctAhead "?") then
    let (_, tokens) ← captured (traitBound g false)
    return .bound tokens
  else
    let t ← g.type true
    if ← peek (punctAhead ",") then
      punct ","
      return .tuple (t :: (← commaList (g.type true)))
    else return .one t

/-- The tokens of a type in parentheses as the first bound of a sum: those of a path or of
a single bound. -/
def summand? (t : TypeExpr) (inner : List Tree) : Option (List Tree) :=
  match t with
  | .named _ => some inner
  | .applied qualified _ _ _ _ => if qualified then none else some inner
  | .bound tokens _ => some tokens
  | _ => none

/-- A type in parentheses, a tuple, or a sum of bounds that starts with one in
parentheses. -/
def parenType (g : Grammar) (plus : Bool) : Reader TypeExpr := do
  let left ← here
  let ((content, inner), spelling) ← taken (grouped .paren (captured (parenContent g)))
  match content with
  | .tuple elements =>
    emit spelling
    return .tuple elements spelling
  | .bound tokens =>
    emit spelling
    let (_, more) ← captured (moreBounds g)
    return if more.isEmpty then .bound tokens spelling else .other (spelling ++ more)
  | .one t =>
    match summand? t inner with
    | none =>
      emit spelling
      return .paren t
    | some tokens =>
      if ← (do if plus then peek (punctAhead "+") else return false) then
        let first : List Tree := [.group .paren tokens left left]
        emit first
        let (_, more) ← captured (moreBounds g)
        return .other (first ++ more)
      else
        emit spelling
        return .paren t

/-! ### Types that start with a path -/

/-- A path type, the macro call or the sum of bounds it starts. `binding` holds the tokens
of a `for<…>` in front. -/
def pathType (g : Grammar) (plus : Bool) (binding : List Tree) : Reader TypeExpr := do
  let (path, spelling) ← taken (qualifiedPath g false)
  if path.qualified then
    emit spelling
    return path.toType spelling
  else if ← (do if path.plain then peek bangAhead else return false) then
    emit spelling
    let (_, call) ← captured macroCall
    return .other (spelling ++ call)
  else if !binding.isEmpty || (plus && (← peek (punctAhead "+"))) then
    let first := binding ++ spelling
    emit first
    let (_, more) ← captured (if plus then trailingBounds g else pure ())
    return if more.isEmpty then .bound first first else .other (first ++ more)
  else
    emit spelling
    return path.toType spelling

/-! ### Types -/

/-- Everything a type may start with, in the order it is tried. -/
def typeStarts : List Expected :=
  [.token "for", .group .paren, .token "fn", .token "unsafe", .token "extern", .identifier,
    .token "::", .token "<", .token "dyn", .group .bracket, .token "*", .token "&", .token "!",
    .token "impl", .token "_", .lifetime]

/-- A pointer type behind its star. -/
def pointerType (g : Grammar) : Reader Unit := do
  punct "*"
  if ← optKeyword "const" then g.spelledType false
  else if ← optKeyword "mut" then g.spelledType false
  else missing [.token "const", .token "mut"]

/-- A reference type. -/
def referenceType (g : Grammar) : Reader Unit := do
  punct "&"
  let _ ← optLifetime
  let _ ← optKeyword "mut"
  g.spelledType false

/-- An array or a slice. -/
def bracketType (g : Grammar) : Reader Unit :=
  grouped .bracket do
    g.spelledType true
    if ← optPunct ";" then g.spelledExpr

/-- Something the compiler itself provides lies ahead. -/
def builtinAhead (ts : List Tree) : Bool := wordAhead "builtin" ts && punctAhead "#" (skipTree ts)

/-- Something the compiler itself provides, with its input in parentheses. -/
def builtin : Reader Unit := do
  keyword "builtin"
  punct "#"
  let _ ← name
  if ← peek (groupAhead .paren) then let _ ← groupTokens
  else fault (.oneOf [.group .paren])

/-- A type that is kept as its spelling only. -/
def plainType (r : Reader Unit) : Reader (Option TypeExpr) := do
  let (_, spelling) ← captured r
  return some (.other spelling)

/-- A type behind an optional `for<…>` with these tokens; none for one that is kept as it
is written. -/
def typeForm (g : Grammar) (plus : Bool) (binding : List Tree) : Reader (Option TypeExpr) := do
  let ts ← ahead
  let pos ← here
  if groupAhead .paren ts then return some (← parenType g plus)
  else if wordAhead "fn" ts || wordAhead "unsafe" ts || wordAhead "extern" ts then
    plainType do
      emit binding
      functionType g
  else if builtinAhead ts then
    builtin
    return none
  else if pathWordAhead ts || punctAhead "::" ts || punctAhead "<" ts then
    return some (← pathType g plus binding)
  else if wordAhead "dyn" ts then
    keyword "dyn"
    if ← optPunct "*" then
      objectBounds g pos plus false
      return none
    else
      let (_, spelling) ← captured (objectBounds g pos plus false)
      return some (.other (.word "dyn" pos :: spelling))
  else if groupAhead .bracket ts then plainType (bracketType g)
  else if punctAhead "*" ts then plainType (pointerType g)
  else if punctAhead "&" ts then plainType (referenceType g)
  else if punctAhead "!" ts then plainType (punct "!")
  else if wordAhead "impl" ts then
    plainType do
      keyword "impl"
      objectBounds g pos plus true
  else if wordAhead "_" ts then
    plainType do let _ ← anyWord
  else if lifetimeAhead ts then plainType (objectBounds g pos true false)
  else missing typeStarts

/-- A type with its `for<…>`, if it has one. -/
def boundTypeForm (g : Grammar) (plus : Bool) : Reader (Option TypeExpr) := do
  if ← peek (wordAhead "for") then
    let (_, binding) ← taken (binder g)
    if ← peek fun ts => pathWordAhead ts || wordAhead "fn" ts || wordAhead "unsafe" ts ||
        wordAhead "extern" ts then
      typeForm g plus binding
    else
      missing [.identifier, .token "fn", .token "unsafe", .token "extern", .token "super",
        .token "self", .token "Self", .token "crate"]
  else typeForm g plus []

/-- A type. `plus` allows a sum of bounds. -/
def typeReader (g : Grammar) (plus : Bool) : Reader TypeExpr := do
  let before ← ahead
  let (t, spelling) ← taken (boundTypeForm g plus)
  match t with
  | some t =>
    emit spelling
    return t
  | none =>
    let written ← since before
    emit written
    return .other written

end TypeReader
end Newtype
