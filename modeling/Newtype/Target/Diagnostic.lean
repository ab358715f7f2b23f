import Newtype.Spec.Malformed
import Newtype.Target.Basic

/-!
# Diagnostics

Why a declaration gets no wrapper.

* `DiagnosticCode`, `Diagnostic` — what is reported.
* `Rejection` — the causes, with their code and wording.
* `Target.check` — the causes that lie in the struct itself.
-/

namespace Newtype

/-- The codes of diagnostics. -/
inductive DiagnosticCode where
  | nested
  | notFieldless
  | malformed
  | generic
  | duplicate
  deriving DecidableEq

/-- The text of a code. -/
def DiagnosticCode.text : DiagnosticCode → String
  | .nested => "WVO001"
  | .notFieldless => "WVO002"
  | .malformed => "WVO003"
  | .generic => "WVO004"
  | .duplicate => "WVO005"

/-- A report: its code, its message and the place it is about. -/
structure Diagnostic where
  code : DiagnosticCode
  message : String
  location : Location
  deriving DecidableEq

/-- The report as one line. -/
def Diagnostic.text (d : Diagnostic) : String :=
  "error[" ++ d.code.text ++ "]: " ++ d.message ++ " at " ++ d.location.text

/-- The file with the members of a type. -/
def artifactName (type : String) : String := type ++ "_implementation.rs"

/-- Why a declaration gets no wrapper. -/
inductive Rejection where
  | nested
  | notFieldless
  | generic
  | malformed (m : Malformed)
  | duplicate
  deriving DecidableEq

namespace Rejection

/-- The code of a cause. -/
def code : Rejection → DiagnosticCode
  | nested => .nested
  | notFieldless => .notFieldless
  | generic => .generic
  | malformed _ => .malformed
  | duplicate => .duplicate

/-- The wording of a cause for a type. -/
def message (type : String) : Rejection → String
  | nested =>
    "`" ++ type ++ "` is declared inside a function body; " ++
      "wrapper value objects must be module-level items"
  | notFieldless =>
    "`" ++ type ++ "` already declares fields; declare it as `struct " ++ type ++
      ";` so the storage can be generated"
  | generic =>
    "`" ++ type ++ "` has generic parameters, which wrapper value objects do not support"
  | malformed m => "`" ++ type ++ "`: " ++ m.message
  | duplicate =>
    "another wrapper value object named `" ++ type ++ "` already owns `" ++
      artifactName type ++ "`"

/-- The report about a target. Arguments are reported at their own place, everything
else at the place of the struct. -/
def diagnostic (r : Rejection) (t : Target) : Diagnostic :=
  let location := match r with
    | malformed m => .ofPosition t.location.file m.pos
    | _ => t.location
  ⟨r.code, r.message t.name, location⟩

end Rejection

/-- What is wrong with a struct itself; only the first cause counts. -/
def Target.check (t : Target) : Option Rejection :=
  if t.nested then some .nested
  else if !t.fieldless then some .notFieldless
  else if t.generic then some .generic
  else none

end Newtype
