import Newtype.Spec.Argument
import Newtype.Spec.Malformed
import Newtype.Spec.Options
import Newtype.Text.Identifier

/-!
# Specifications

The fields and options that a list of arguments stands for. A type takes the name
right before it, or the default name. Options may stand anywhere but between a name
and its type.

* `checkName` — which names a field may have.
* `Options.apply` — the effect of one option.
* `Specification.step`, `Specification.finish` — reading the arguments one by one.
* `Specification.ofArguments`, `Specification.ofTokens` — a whole list.
-/

namespace Newtype

/-- The fields and options of a wrapper. -/
structure Specification where
  fields : List Field
  options : Options

/-! ### Names of fields -/

/-- The names of members that may be generated besides the accessors. -/
def reservedNames : List String :=
  ["new", "into_inner", "compare_to", "generate", "try_format", "validate"]

/-- The text is an identifier and not a keyword. -/
def isIdentifier (s : String) : Bool :=
  match s.toList with
  | [] => false
  | c :: cs => Text.isIdentStart c && cs.all Text.isIdentContinue && isName s

/-- The text can be the name of a field: letters, digits and `_`, with no ASCII digit
at the start, and with an accessor that is an identifier. -/
def isFieldName (s : String) : Bool :=
  !s.isEmpty && s.toList.all (fun c => Text.isAlphanumeric c || c == '_') &&
    !(s.toList.head?.map Char.isDigit).getD false && isIdentifier (Text.snakeCase s)

/-- Refuses a text that cannot be the name of a field. -/
def checkName (s : String) (pos : Position) : Except Malformed Unit :=
  if !isFieldName s then .error ⟨.invalidName s, pos⟩
  else if reservedNames.contains (Text.snakeCase s) then .error ⟨.reservedName s, pos⟩
  else .ok ()

/-! ### Options -/

/-- The truth value an expression is. -/
def Expr.truth? (e : Expr) : Option Bool :=
  match e with
  | .atom _ (.truth b) _ => some b
  | _ => none

/-- The choice an expression is: a truth value, or the name of a choice. -/
def Expr.choice? (e : Expr) : Option Choice :=
  match e with
  | .atom _ (.truth b) _ => some (.ofBool b)
  | .atom _ (.path false names) _ =>
    match names.getLast? with
    | some "Unset" => some .unset
    | some "True" => some .yes
    | some "False" => some .no
    | _ => none
  | _ => none

/-- The names of the options. -/
def optionNames : List String :=
  ["GenerateImplicitConversionToPrimitive", "GenerateComparisonOperators",
    "GenerateMathOperators"]

/-- The value an option needs, or the complaint about it. -/
def optionValue {α : Type} (value : Option α) (option : String) (expected : OptionDomain)
    (pos : Position) : Except Malformed α :=
  match value with
  | some a => .ok a
  | none => .error ⟨.invalidOptionValue option expected, pos⟩

/-- The options after one more. An option with an unknown name has no effect. -/
def Options.apply (o : Options) (name : String) (value : Expr) (pos : Position) :
    Except Malformed Options := do
  let option := Text.upperCamelCase name
  if option == "GenerateImplicitConversionToPrimitive" then
    return { o with implicit := ← optionValue value.truth? option .truth pos }
  else if option == "GenerateComparisonOperators" then
    return { o with comparison := ← optionValue value.choice? option .choice pos }
  else if option == "GenerateMathOperators" then
    return { o with math := ← optionValue value.choice? option .choice pos }
  else return o

/-! ### Lists of arguments -/

namespace Specification

/-- What has been read: the fields, the options, and a name that waits for its type. -/
structure Partial where
  fields : List Field
  options : Options
  pending : Option (String × Position)

/-- Nothing has been read. -/
def Partial.start : Partial := ⟨[], {}, none⟩

/-- Reads one more argument. `resolve` tells what a type is. -/
def step (resolve : TypeExpr → Kind) (s : Partial) (a : Argument) : Except Malformed Partial :=
  match a.form, s.pending with
  | .name second, some (first, _) => .error ⟨.consecutiveNames first second, a.pos⟩
  | .name text, none => do
    checkName text a.pos
    return { s with pending := some (text, a.pos) }
  | .type t, pending =>
    let (name, pos) := pending.getD (Field.defaultName, a.pos)
    if s.fields.any (·.accessor == Text.snakeCase name) then
      .error ⟨.duplicateField name, pos⟩
    else if s.fields.length = Field.maximum then
      .error ⟨.tooManyFields (Field.maximum + 1) Field.maximum, a.pos⟩
    else .ok ⟨s.fields ++ [⟨name, t, resolve t⟩], s.options, none⟩
  | .option name _ _, some (field, _) => .error ⟨.optionInsidePair field name, a.pos⟩
  | .option name value pos, none => do
    return { s with options := ← s.options.apply name value pos }

/-- The specification when all arguments have been read. -/
def finish (s : Partial) : Except Malformed Specification :=
  match s.pending with
  | some (name, pos) => .error ⟨.danglingName name, pos⟩
  | none => .ok ⟨if s.fields.isEmpty then [Field.defaultId] else s.fields, s.options⟩

/-- The specification a list of arguments stands for. -/
def ofArguments (resolve : TypeExpr → Kind) (args : List Argument) :
    Except Malformed Specification := do
  finish (← args.foldlM (step resolve) Partial.start)

/-- The specification a list of tokens stands for. -/
def ofTokens (resolve : TypeExpr → Kind) (ts : List Tree) : Except Malformed Specification :=
  match readArguments ts with
  | .error f => .error (.ofFault f)
  | .ok args => ofArguments resolve args

end Specification
end Newtype
