import Newtype.Token.Basic

/-!
# Syntax faults

Why a sequence of tokens is not what was asked for, and where. The wording of
every fault is given in one place, `SyntaxFault.message`.

* `Expected` — one thing that could have stood at a place.
* `SyntaxCause` — what is wrong.
* `SyntaxFault` — the cause with its place.
-/

namespace Newtype

/-- One thing that could have stood at a place. -/
inductive Expected where
  | token (spelling : String)
  | identifier
  | lifetime
  | literal
  | textLiteral
  | group (d : Delimiter)
  deriving DecidableEq

/-- The name of a kind of brackets. -/
def Delimiter.noun : Delimiter → String
  | .paren => "parentheses"
  | .bracket => "square brackets"
  | .brace => "curly braces"

/-- How an expectation is worded. -/
def Expected.noun : Expected → String
  | .token s => "`" ++ s ++ "`"
  | .identifier => "identifier"
  | .lifetime => "lifetime"
  | .literal => "literal"
  | .textLiteral => "string literal"
  | .group d => d.noun

/-- What may not be attached to a cast. -/
inductive CastTail where
  | await
  | method
  | field
  | question
  | index
  | call
  deriving DecidableEq

/-- How something attached to a cast is worded. -/
def CastTail.noun : CastTail → String
  | .await => "`.await`"
  | .method => "a method call"
  | .field => "a field access"
  | .question => "`?`"
  | .index => "indexing"
  | .call => "a function call"

/-- What is wrong with a sequence of tokens. -/
inductive SyntaxCause where
  /-- a punctuation token is missing -/
  | punctuation (spelling : String)
  /-- none of the things that could stand here does -/
  | oneOf (options : List Expected)
  /-- a keyword stands where a name is needed -/
  | keywordAsName (word : String)
  /-- no expression starts here -/
  | expression
  /-- an object type of lifetimes only -/
  | objectWithoutTrait
  /-- an anonymous type of lifetimes only -/
  | anonymousWithoutTrait
  /-- a path ends in `::` -/
  | segmentAfterColons
  /-- `a < b < c` -/
  | chainedComparison
  /-- a cast with something attached behind -/
  | attachedToCast (tail : CastTail)
  /-- a label before something that is no loop or block -/
  | labelTarget
  /-- `break` with a labelled loop that has no parentheses -/
  | parenthesesRequired
  /-- a closed range without its end -/
  | rangeEnd
  /-- neither a comma nor a semicolon in square brackets -/
  | commaOrSemicolon
  /-- two statements without a semicolon between them -/
  | semicolon
  /-- a field is neither named nor numbered -/
  | member
  /-- a part of a number behind a point is no whole number -/
  | fieldInteger
  /-- the number of a field has a suffix -/
  | fieldSuffix
  /-- the number of a field is too large -/
  | fieldTooLarge
  /-- the number of a field has a sign -/
  | fieldSign
  /-- a `self` parameter that is not the first -/
  | receiver
  /-- a second `self` parameter -/
  | secondReceiver
  /-- no name after `as` -/
  | renaming
  /-- no bracketed input after a macro name -/
  | delimiter
  /-- an attribute as the value of an attribute -/
  | attributeInAttribute
  /-- `impl !Type` without a trait -/
  | negativeInherent
  /-- attributes on a range without a lower end -/
  | attributedRange
  /-- a range with one end in a slice pattern -/
  | openRangeInSlice
  /-- a list of captured parameters that no anonymous type has -/
  | capture
  /-- `const` before a bound of an object type -/
  | constBound
  /-- `[const]` before a bound of an object type -/
  | conditionalBound
  /-- `for<…>` on a bound with `?` -/
  | binderWithQuestion
  /-- generic parameters behind `where` -/
  | whereParameters
  /-- tokens are left over in a group, or behind everything -/
  | leftover (d : Option Delimiter)
  /-- the value form of the marker attribute -/
  | markerForm
  /-- the nesting is deeper than the text is long -/
  | depth
  deriving DecidableEq

/-- A cause and its place. `atEnd` tells that the tokens ran out. -/
structure SyntaxFault where
  cause : SyntaxCause
  atEnd : Bool
  pos : Position
  deriving DecidableEq

/-- How a list of possibilities is worded. -/
def Expected.phrase : List Expected → String
  | [] => "unexpected token"
  | [a] => "expected " ++ a.noun
  | [a, b] => "expected " ++ a.noun ++ " or " ++ b.noun
  | options => "expected one of: " ++ ", ".intercalate (options.map Expected.noun)

/-- The wording of a cause at a place with tokens left. -/
def SyntaxCause.phrase : SyntaxCause → String
  | .punctuation s => "expected `" ++ s ++ "`"
  | .oneOf options => Expected.phrase options
  | .keywordAsName w => "expected identifier, found keyword `" ++ w ++ "`"
  | .expression => "expected an expression"
  | .objectWithoutTrait => "at least one trait is required for an object type"
  | .anonymousWithoutTrait => "at least one trait must be specified"
  | .segmentAfterColons => "expected path segment after `::`"
  | .chainedComparison => "comparison operators cannot be chained"
  | .attachedToCast tail => "casts cannot be followed by " ++ tail.noun
  | .labelTarget => "expected loop or block expression"
  | .parenthesesRequired => "parentheses required"
  | .rangeEnd => "expected range upper bound"
  | .commaOrSemicolon => "expected `,` or `;`"
  | .semicolon => "unexpected token, expected `;`"
  | .member => "expected identifier or integer"
  | .fieldInteger => "expected integer literal"
  | .fieldSuffix => "expected unsuffixed integer"
  | .fieldTooLarge => "number too large to fit in target type"
  | .fieldSign => "invalid digit found in string"
  | .receiver => "unexpected method receiver"
  | .secondReceiver => "unexpected second method receiver"
  | .renaming => "expected identifier or underscore"
  | .delimiter => "expected delimiter"
  | .attributeInAttribute => "unexpected attribute inside of attribute"
  | .negativeInherent => "inherent impls cannot be negative"
  | .attributedRange => "attributes are not allowed on range expressions starting with `..`"
  | .openRangeInSlice => "range pattern is not allowed unparenthesized inside slice pattern"
  | .capture => "`use<...>` precise capturing syntax is not allowed here"
  | .constBound => "`const` is not allowed here"
  | .conditionalBound => "`[const]` is not allowed here"
  | .binderWithQuestion => "`for<...>` binder not allowed with `?` trait polarity modifier"
  | .whereParameters => "generic parameters on `where` clauses are reserved for future use"
  | .leftover none => "unexpected token"
  | .leftover (some d) => "unexpected token, expected `" ++ d.closing.toString ++ "`"
  | .markerForm => "expected `#[wrapper_value_object(..)]`"
  | .depth => "the nesting is too deep"

/-- The causes that are worded alike whether or not tokens are left. -/
def SyntaxCause.plain : SyntaxCause → Bool
  | .punctuation _ | .objectWithoutTrait | .anonymousWithoutTrait | .leftover _ | .markerForm => true
  | _ => false

/-- The wording of a fault. -/
def SyntaxFault.message (f : SyntaxFault) : String :=
  if f.atEnd && !f.cause.plain then
    if f.cause = .oneOf [] then "unexpected end of input"
    else "unexpected end of input, " ++ f.cause.phrase
  else f.cause.phrase

end Newtype
