import Newtype.Syntax.DataReader

/-!
# Reading functions

* `parameters` — the parameters of a function.
* `signature` — all of a function before its body.
* `functionItem` — a function with its body.
-/

namespace Newtype
namespace FunctionReader

open Reader AttributeReader BoundReader TypeReader

/-! ### Parameters -/

/-- A `self` parameter; gives the place of `self`. -/
def receiver (g : Grammar) : Reader Position := do
  let borrowed ← optPunct "&"
  if borrowed then let _ ← optLifetime
  let _ ← optKeyword "mut"
  let pos ← here
  keyword "self"
  if ← peek (punctAhead "::") then fault .member
  else if !borrowed then
    if ← optPunct ":" then g.spelledType true
  return pos

/-- What a parameter is: a `self` and its place, the dots that end the list, or any
other. -/
inductive ParameterForm where
  | receiver (pos : Position)
  | dots
  | other

/-- A parameter that is no `self`. A lone type stands for a parameter without a name. -/
def typedParameter (g : Grammar) : Reader ParameterForm := do
  if ← peek fun ts => nameAhead ts && punctAhead "<" (skipTree ts) then
    emit (.word "_" .start :: glue .start [':'])
    g.spelledType true
    return .other
  else
    let _ ← g.pattern
    punct ":"
    if ← optPunct "..." then return .dots
    else
      g.spelledType true
      return .other

/-- A parameter. -/
def parameter (g : Grammar) : Reader ParameterForm := do
  let _ ← outerAttributes g
  if ← optPunct "..." then return .dots
  else
    match ← attempt (receiver g) with
    | some pos => return .receiver pos
    | none => typedParameter g

/-- Parameters; gives whether the first is a `self`. No other may be one. -/
def parameters (g : Grammar) : Reader Bool :=
  repeatUntil (none : Option Bool) fun first => do
    let done := first.getD false
    if ← atEnd then return .inr done
    else
      match ← parameter g with
      | .dots =>
        if !(← atEnd) then punct ","
        return .inr done
      | form =>
        let self ← match form, first with
          | .receiver pos, some true => throw ⟨.secondReceiver, false, pos⟩
          | .receiver pos, some false => throw ⟨.receiver, false, pos⟩
          | .receiver _, none => pure true
          | _, _ => pure done
        if ← atEnd then return .inr self
        else
          punct ","
          return .inl (some self)

/-! ### Signatures -/

/-- What lies behind a word, if the word lies ahead. -/
def skipWord (w : String) (ts : List Tree) : List Tree :=
  if wordAhead w ts then skipTree ts else ts

/-- A signature lies ahead. With `safe`, that word may stand for `unsafe`. -/
def signatureAhead (safe : Bool) (ts : List Tree) : Bool :=
  let ts := skipWord "async" (skipWord "const" ts)
  let ts := if safe && wordAhead "safe" ts then skipTree ts else skipWord "unsafe" ts
  let ts := if wordAhead "extern" ts then
      let ts := skipTree ts
      if textAhead ts then skipTree ts else ts
    else ts
  wordAhead "fn" ts

/-- The signature of a function. -/
def signature (g : Grammar) : Reader MethodHead := do
  let _ ← optKeyword "const"
  let _ ← optKeyword "async"
  let _ ← optKeyword "unsafe"
  optAbi
  keyword "fn"
  let w ← name
  let _ ← generics g
  let self ← grouped .paren (parameters g)
  let result ← resultType g true
  let _ ← whereClause g
  return ⟨w, self, result⟩

/-- The signature of a foreign function; gives whether `safe` stands in it. -/
def foreignSignature (g : Grammar) : Reader Bool := do
  let _ ← optKeyword "const"
  let _ ← optKeyword "async"
  if ← optKeyword "unsafe" then
    let _ ← signature g
    return false
  else
    let safe ← optKeyword "safe"
    let _ ← signature g
    return safe

/-- A function behind its visibility; one without a body is no function. -/
def functionItem (g : Grammar) : Reader (Option (MethodHead × List Item)) := do
  let head ← signature g
  if ← optPunct ";" then return none
  else return some (head, (← g.block true).items)

end FunctionReader
end Newtype
