import Newtype.Spec.Basic
import Newtype.Target.Diagnostic
import Newtype.Text.Quoted

/-!
# Expanding a declaration

The struct that replaces one with the marker: it has a field for the storage, and
the file with its members is included behind it.

* `ExpandFault` — why a declaration cannot be expanded.
* `expand` — the tokens of the new struct.
-/

namespace Newtype

/-- Why a declaration cannot be expanded. -/
inductive ExpandFault where
  /-- what follows the marker is no struct -/
  | notStruct (fault : SyntaxFault)
  | rejected (type : String) (r : Rejection) (pos : Position)
  | malformed (m : Malformed)

namespace ExpandFault

/-- The wording of a fault. -/
def message : ExpandFault → String
  | notStruct f => f.message
  | rejected type r _ => r.code.text ++ ": " ++ r.message type
  | malformed m => m.message

/-- The place of a fault. -/
def pos : ExpandFault → Position
  | notStruct f => f.pos
  | rejected _ _ p => p
  | malformed m => m.pos

end ExpandFault

/-! ### Tokens -/

/-- A word. -/
def wordToken (w : String) : Tree := .word w .start

/-- A punctuation character that stands alone. -/
def markToken (c : Char) : Tree := .punct c false .start

/-- A text literal. -/
def textToken (s : String) : Tree := .literal (Text.quoted s) .start

/-- A group. -/
def groupToken (d : Delimiter) (ts : List Tree) : Tree := .group d ts .start .start

/-- A macro call. -/
def callTokens (name : String) (ts : List Tree) : List Tree :=
  [wordToken name, markToken '!', groupToken .paren ts]

/-- The storage: the type of a single field, otherwise a tuple. -/
def storageTokens (fields : List Field) : List Tree :=
  match fields with
  | [f] => f.type.spelling
  | fs => [groupToken .paren ([markToken ','].intercalate (fs.map (·.type.spelling)))]

/-- The struct with its storage, and the inclusion of its members. -/
def expansion (s : StructItem) (fields : List Field) : List Tree :=
  s.attributes.flatMap (·.spelling) ++ s.visibility ++
    [wordToken "struct", wordToken s.name,
      groupToken .brace
        ([wordToken "value", markToken ':'] ++ storageTokens fields ++ [markToken ','])] ++
    callTokens "include"
      (callTokens "concat"
        (callTokens "env" [textToken "OUT_DIR"] ++
          [markToken ',', textToken "/", markToken ',', textToken (artifactName s.name)])) ++
    [markToken ';']

/-! ### Expanding -/

/-- The place of what is wrong with a struct. -/
def StructItem.placeOf (s : StructItem) : Rejection → Position
  | .generic => s.generics.getD s.pos
  | .notFieldless => s.fields.getD s.pos
  | _ => s.pos

/-- The new struct for a struct and the tokens of its arguments. -/
def expandStruct (args : List Tree) (s : StructItem) : Except ExpandFault (List Tree) :=
  match (Target.ofStruct s false none).check with
  | some r => .error (.rejected s.name r (s.placeOf r))
  | none =>
    match Specification.ofTokens Registry.builtin.resolve args with
    | .error m => .error (.malformed m)
    | .ok spec => .ok (expansion s spec.fields)

/-- The new struct for the tokens of a struct and of its arguments. -/
def expand (args item : List Tree) : Except ExpandFault (List Tree) :=
  match readStruct item with
  | .error f => .error (.notStruct f)
  | .ok s => expandStruct args s

end Newtype
