import Newtype.Member.Plan
import Newtype.Text.Layout
import Newtype.Text.Quoted
import Newtype.Target.Diagnostic

/-!
# The text of a wrapper

The members of a wrapper as source text. Members of the type itself stand in one
block; each trait has a block of its own. All names of the standard library are
written in full, since the text is included next to the struct.

* `inherentMember`, `traitImpl` — the text of a member.
* `Plan.layout`, `Plan.text` — the text of a plan.
* `sharedText` — the text all wrappers share.
* `rejectionText` — the text in place of a wrapper that is rejected.
-/

namespace Newtype

open Layout

/-! ### Members of the type itself -/

namespace Plan

/-- What making a wrapper gives. -/
def constructorOutput (p : Plan) : String :=
  match p.check.error? with
  | some e => "::core::result::Result<Self, " ++ e ++ ">"
  | none => "Self"

/-- The member stands in the block of the type itself. -/
def isInherent : Member → Bool
  | .constructor _ | .accessor _ | .compareTo _ | .intoInner | .tryFormat | .generate => true
  | _ => false

/-- The names of the slots, with commas. -/
def slotNames (p : Plan) : String := ", ".intercalate (p.storage.slots.map (·.accessor))

/-- The parameters of the constructor. -/
def parameters (p : Plan) : String :=
  ", ".intercalate (p.storage.slots.map fun s => s.accessor ++ ": " ++ s.type)

/-- The wrapper made from the parameters. -/
def literal (p : Plan) : String :=
  match p.storage.slots with
  | [s] =>
    if s.accessor = "value" then "Self \x7b value \x7d"
    else "Self \x7b value: " ++ s.accessor ++ " \x7d"
  | _ => "Self \x7b value: (" ++ p.slotNames ++ ") \x7d"

/-- The arguments of the hook. -/
def validateArguments (p : Plan) : String :=
  ", ".intercalate ((List.range p.storage.slots.length).map fun i =>
    "&" ++ p.storage.slotExpr "this" i)

/-- The constructor. -/
def constructorLayout (p : Plan) (check : Check) : List Layout :=
  [.line ("/// Creates a new `" ++ p.typeName ++ "`.")] ++
    (if check = .none then [.line "#[inline]"] else []) ++
    [.block ("pub fn new(" ++ p.parameters ++ ") -> " ++ p.constructorOutput)
      (match check with
        | .none => [.line p.literal]
        | .fallible _ =>
          [.line ("let this = " ++ p.literal ++ ";"),
            .line ("Self::validate(" ++ p.validateArguments ++ ")?;"),
            .line "::core::result::Result::Ok(this)"]
        | .panicking =>
          [.line ("let this = " ++ p.literal ++ ";"),
            .line ("Self::validate(" ++ p.validateArguments ++ ");"),
            .line "this"])]

/-- The function that reads a slot; nothing if there is no such slot. -/
def accessorLayout (p : Plan) (index : Nat) : List Layout :=
  match p.storage.slots[index]? with
  | none => []
  | some s =>
    let expr := p.storage.slotExpr "self" index
    if s.copy then
      [.line "#[inline]",
        .block ("pub fn " ++ s.accessor ++ "(&self) -> " ++ s.type) [.line expr]]
    else
      [.line "#[inline]",
        .block ("pub fn " ++ s.accessor ++ "(&self) -> &" ++ s.type) [.line ("&" ++ expr)]]

/-- Comparison by a function. -/
def compareToLayout (total : Bool) : List Layout :=
  [.line "/// Three-way comparison of the wrapped values.",
    if total then
      .block "pub fn compare_to(&self, other: &Self) -> ::core::cmp::Ordering"
        [.line "::core::cmp::Ord::cmp(&self.value, &other.value)"]
    else
      .block ("pub fn compare_to(&self, other: &Self) -> " ++
          "::core::option::Option<::core::cmp::Ordering>")
        [.line "::core::cmp::PartialOrd::partial_cmp(&self.value, &other.value)"]]

/-- Writing the text form of a number into a buffer. -/
def tryFormatLayout : List Layout :=
  [.line ("/// Writes the value's `Display` form into `buffer`, " ++
      "returning the number of bytes written."),
    .line "///",
    .line "/// Fails without a partial guarantee when `buffer` is too small.",
    .block ("pub fn try_format(&self, buffer: &mut [u8]) -> " ++
        "::core::result::Result<usize, ::core::fmt::Error>")
      [.block "struct Cursor<'a>"
          [.line "buffer: &'a mut [u8],", .line "written: usize,"],
        .blank,
        .block "impl ::core::fmt::Write for Cursor<'_>"
          [.block "fn write_str(&mut self, s: &str) -> ::core::fmt::Result"
            [.line "let end = self.written.checked_add(s.len()).ok_or(::core::fmt::Error)?;",
              .line ("let target = self.buffer.get_mut(self.written..end)" ++
                ".ok_or(::core::fmt::Error)?;"),
              .line "target.copy_from_slice(s.as_bytes());",
              .line "self.written = end;",
              .line "::core::result::Result::Ok(())"]],
        .blank,
        .line "let mut cursor = Cursor \x7b buffer, written: 0 \x7d;",
        .line ("::core::fmt::Write::write_fmt(&mut cursor, " ++
          "::core::format_args!(\"\x7b\x7d\", self.value))?;"),
        .line "::core::result::Result::Ok(cursor.written)"]]

/-- The body of the function that makes a wrapper of a new identifier. -/
def generateBody (p : Plan) : List Layout :=
  [.line ("Self::new(<" ++ p.storage.type ++ ">::new_v4())")]

/-- The text of a member of the type itself. -/
def inherentMember (p : Plan) : Member → List Layout
  | .constructor check => p.constructorLayout check
  | .accessor slot => p.accessorLayout slot
  | .compareTo total => compareToLayout total
  | .intoInner =>
    [.line "/// Unwraps the stored value.", .line "#[inline]",
      .block ("pub fn into_inner(self) -> " ++ p.storage.type) [.line "self.value"]]
  | .tryFormat => tryFormatLayout
  | .generate =>
    [.line "/// Creates a wrapper around a new random identifier.",
      .block ("pub fn generate() -> " ++ p.constructorOutput) p.generateBody]
  | _ => []

/-! ### Traits -/

/-- A function with the attribute that asks for inlining. -/
def inlined (head : String) (body : List Layout) : List Layout :=
  [.line "#[inline]", .block head body]

/-- The head of the functions that write a text form. -/
def formatHead : String :=
  "fn fmt(&self, f: &mut ::core::fmt::Formatter<'_>) -> ::core::fmt::Result"

/-- The relations with their methods. -/
def relations : List (String × String) := [("lt", "<"), ("le", "<="), ("gt", ">"), ("ge", ">=")]

/-- Comparison by operators. -/
def relationalLayout (p : Plan) (total : Bool) : Layout :=
  .block ("impl ::core::cmp::PartialOrd for " ++ p.typeName)
    (inlined ("fn partial_cmp(&self, other: &Self) -> " ++
        "::core::option::Option<::core::cmp::Ordering>")
      [.line (if total then "::core::option::Option::Some(::core::cmp::Ord::cmp(self, other))"
        else "::core::cmp::PartialOrd::partial_cmp(&self.value, &other.value)")] ++
    relations.flatMap fun r =>
      .blank :: inlined ("fn " ++ r.1 ++ "(&self, other: &Self) -> bool")
        [.line ("self.value " ++ r.2 ++ " other.value")])

/-- The body of an operator that gives a wrapper again. -/
def operatorBody (op : BinaryOp) : List Layout :=
  [.line ("Self::new(self.value " ++ op.symbol ++ " rhs.value)")]

/-- An arithmetic operator. -/
def arithmeticLayout (p : Plan) (op : BinaryOp) (output : ArithmeticOutput) : Layout :=
  .block ("impl ::core::ops::" ++ op.traitName ++ " for " ++ p.typeName)
    (match output with
      | .widened =>
        [.line "type Output = i32;", .blank] ++
          inlined ("fn " ++ op.method ++ "(self, rhs: Self) -> i32")
            [.line ("::core::primitive::i32::from(self.value) " ++ op.symbol ++
              " ::core::primitive::i32::from(rhs.value)")]
      | .wrapper =>
        [.line ("type Output = " ++ p.constructorOutput ++ ";"), .blank] ++
          inlined ("fn " ++ op.method ++ "(self, rhs: Self) -> Self::Output") (operatorBody op))

/-- The body of the function that makes a wrapper from a plain value. -/
def unpackedBody (p : Plan) : List Layout :=
  if p.storage.isCompound then
    [.line ("let (" ++ p.slotNames ++ ") = value;"), .line ("Self::new(" ++ p.slotNames ++ ")")]
  else [.line "Self::new(value)"]

/-- Making a wrapper from a plain value. -/
def fromStorageLayout (p : Plan) : Layout :=
  match p.check.error? with
  | some e =>
    .block ("impl ::core::convert::TryFrom<" ++ p.storage.type ++ "> for " ++ p.typeName)
      [.line ("type Error = " ++ e ++ ";"), .blank,
        .block ("fn try_from(value: " ++ p.storage.type ++ ") -> " ++
          "::core::result::Result<Self, " ++ e ++ ">") p.unpackedBody]
  | none =>
    .block ("impl ::core::convert::From<" ++ p.storage.type ++ "> for " ++ p.typeName)
      (inlined ("fn from(value: " ++ p.storage.type ++ ") -> Self") p.unpackedBody)

/-- The line that shows a value. -/
def displayLine (p : Plan) (i : Nat) : Layout :=
  .line ("::core::fmt::Display::fmt(&" ++ p.storage.slotExpr "self" i ++ ", f)?;")

/-- The lines that show all values, with commas between them. -/
def displayLines (p : Plan) : List Layout :=
  (List.range p.storage.slots.length).flatMap fun i =>
    (if i = 0 then [] else [.line "f.write_str(\", \")?;"]) ++ [p.displayLine i]

/-- The body of the function that shows a wrapper: its value, or all values in parentheses. -/
def displayBody (p : Plan) : List Layout :=
  if p.storage.isCompound then
    [.line "f.write_str(\"(\")?;"] ++ p.displayLines ++ [.line "f.write_str(\")\")"]
  else [.line "::core::fmt::Display::fmt(&self.value, f)"]

/-- The ordinary text form. -/
def displayLayout (p : Plan) : Layout :=
  .block ("impl ::core::fmt::Display for " ++ p.typeName) [.block formatHead p.displayBody]

/-- The line that names a value and shows it. -/
def debugLine (p : Plan) (i : Nat) (s : Slot) : Layout :=
  .line (".field(\"" ++ s.accessor ++ "\", &" ++ p.storage.slotExpr "self" i ++ ")")

/-- The body of the function that shows a wrapper for debugging. -/
def debugBody (p : Plan) : List Layout :=
  if p.storage.isCompound then
    [.line ("f.debug_struct(\"" ++ p.typeName ++ "\")"),
      .indented (p.storage.slots.mapIdx p.debugLine ++ [.line ".finish()"])]
  else [.line ("f.debug_tuple(\"" ++ p.typeName ++ "\").field(&self.value).finish()")]

/-- The text form for debugging. -/
def debugLayout (p : Plan) : Layout :=
  .block ("impl ::core::fmt::Debug for " ++ p.typeName) [.block formatHead p.debugBody]

/-- The text of a trait; members of the type itself have none. -/
def traitImpl (p : Plan) (m : Member) : List Layout :=
  let name := p.typeName
  let storage := p.storage.type
  match m with
  | .copyConstructor bitwise =>
    [.block ("impl ::core::convert::From<&" ++ name ++ "> for " ++ name)
      (inlined ("fn from(other: &" ++ name ++ ") -> Self")
        [.line (if bitwise then "*other"
          else "Self \x7b value: ::core::clone::Clone::clone(&other.value) \x7d")])]
  | .equality =>
    [.block ("impl ::core::cmp::PartialEq for " ++ name)
      (inlined "fn eq(&self, other: &Self) -> bool" [.line "self.value == other.value"])]
  | .totalEquality => [.line ("impl ::core::cmp::Eq for " ++ name ++ " \x7b\x7d")]
  | .hash =>
    [.block ("impl ::core::hash::Hash for " ++ name)
      [.block "fn hash<H: ::core::hash::Hasher>(&self, state: &mut H)"
        [.line "::core::hash::Hash::hash(&self.value, state);"]]]
  | .storageEquality =>
    [.block ("impl ::core::cmp::PartialEq<" ++ storage ++ "> for " ++ name)
      (inlined ("fn eq(&self, other: &" ++ storage ++ ") -> bool")
        [.line "self.value == *other"])]
  | .byRefEquality =>
    [.block ("impl ::core::cmp::PartialEq<&" ++ name ++ "> for " ++ name)
      (inlined ("fn eq(&self, other: &&" ++ name ++ ") -> bool")
        [.line "self.value == other.value"])]
  | .relationalOperators total => [p.relationalLayout total]
  | .totalOrder =>
    [.block ("impl ::core::cmp::Ord for " ++ name)
      (inlined "fn cmp(&self, other: &Self) -> ::core::cmp::Ordering"
        [.line "::core::cmp::Ord::cmp(&self.value, &other.value)"])]
  | .arithmetic op output => [p.arithmeticLayout op output]
  | .fromStorage => [p.fromStorageLayout]
  | .intoStorage =>
    [.block ("impl ::core::convert::From<" ++ name ++ "> for " ++ storage)
      (inlined ("fn from(value: " ++ name ++ ") -> Self") [.line "value.value"])]
  | .display => [p.displayLayout]
  | .debug => [p.debugLayout]
  | .numericFormat format =>
    [.block ("impl ::core::fmt::" ++ format.traitName ++ " for " ++ name)
      [.block formatHead
        [.line ("::core::fmt::" ++ format.traitName ++ "::fmt(&self.value, f)")]]]
  | .constructor _ | .accessor _ | .compareTo _ | .intoInner | .tryFormat | .generate => []

/-! ### Whole texts -/

/-- Pieces with a blank line between them. -/
def spaced : List (List Layout) → List Layout
  | [] => []
  | [b] => b
  | b :: bs => b ++ .blank :: spaced bs

/-- The text of all members: the block of the type itself, then one for each
trait. -/
def layout (p : Plan) : List Layout :=
  .block ("impl " ++ p.typeName)
      (spaced ((p.members.filter isInherent).map p.inherentMember)) ::
    (p.members.filter (!isInherent ·)).flatMap fun m =>
      .blank :: .line "#[automatically_derived]" :: p.traitImpl m

/-- The text of all members. -/
def text (p : Plan) : String := Layout.text p.layout

end Plan

/-- The file all wrappers share. -/
def sharedName : String := "wrapper_value_object_options.rs"

/-- The text all wrappers share: the type of the options and their names. -/
def sharedText : String := Layout.text
  [.line "/// Value of the `GenerateComparisonOperators` and `GenerateMathOperators` options.",
    .line "#[derive(Debug, Clone, Copy, Default, PartialEq, Eq, Hash)]",
    .block "pub enum TriBool"
      [.line "#[default]", .line "Unset,", .line "True,", .line "False,"],
    .blank,
    .line "/// Option names understood by `#[wrapper_value_object(..)]`.",
    .line "pub const WRAPPER_VALUE_OBJECT_OPTIONS: [&str; 3] = [",
    .indented (optionNames.map fun n => .line ("\"" ++ n ++ "\",")),
    .line "];"]

/-- The text in place of a wrapper that is rejected. -/
def rejectionText (d : Diagnostic) : String :=
  "::core::compile_error!(" ++ Text.quoted (d.code.text ++ ": " ++ d.message) ++ ");\n"

end Newtype
