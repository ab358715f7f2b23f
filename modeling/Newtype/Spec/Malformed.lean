import Newtype.Spec.Field
import Newtype.Syntax.Fault

/-!
# Malformed specifications

Why a list of arguments gives no fields and options, and where.

* `MalformedCause` — what is wrong.
* `Malformed` — the cause with its place.
* `Malformed.message` — its wording.
-/

namespace Newtype

/-- The values an option may have. -/
inductive OptionDomain where
  | truth
  | choice
  deriving DecidableEq

/-- How the values of an option are worded. -/
def OptionDomain.phrase : OptionDomain → String
  | .truth => "`true` or `false`"
  | .choice => "`Unset`, `True` or `False`"

/-- What is wrong with a list of arguments. -/
inductive MalformedCause where
  | syntactic (fault : SyntaxFault)
  /-- a name at the end -/
  | danglingName (name : String)
  /-- two names without a type between them -/
  | consecutiveNames (first second : String)
  /-- an option between a name and its type -/
  | optionInsidePair (name option : String)
  /-- two fields with the same accessor -/
  | duplicateField (name : String)
  /-- a name that gives no identifier -/
  | invalidName (name : String)
  /-- a name that is needed for a generated member -/
  | reservedName (name : String)
  /-- more types than a wrapper may have fields -/
  | tooManyFields (count max : Nat)
  /-- a value that is not one of the option's -/
  | invalidOptionValue (option : String) (expected : OptionDomain)
  deriving DecidableEq

/-- The wording of a cause. -/
def MalformedCause.message : MalformedCause → String
  | .syntactic f => f.message
  | .danglingName n => "field name `" ++ n ++ "` is not followed by a type"
  | .consecutiveNames a b =>
    "field name `" ++ b ++ "` follows field name `" ++ a ++ "` without a type in between"
  | .optionInsidePair n o =>
    "option `" ++ o ++ "` separates field name `" ++ n ++ "` from its type"
  | .duplicateField n => "field `" ++ n ++ "` is declared more than once"
  | .invalidName n => "`" ++ n ++ "` is not a valid field name"
  | .reservedName n => "field name `" ++ n ++ "` collides with a generated member"
  | .tooManyFields count max =>
    "a wrapper may combine at most " ++ toString max ++ " fields, found " ++ toString count
  | .invalidOptionValue o e => "option `" ++ o ++ "` expects " ++ e.phrase

/-- A malformed list of arguments: what is wrong, and where. -/
structure Malformed where
  cause : MalformedCause
  pos : Position
  deriving DecidableEq

namespace Malformed

/-- The full wording. -/
def message (m : Malformed) : String :=
  "malformed wrapper_value_object arguments: " ++ m.cause.message

/-- A syntax fault as a malformed list of arguments. -/
def ofFault (f : SyntaxFault) : Malformed := ⟨.syntactic f, f.pos⟩

end Malformed
end Newtype
