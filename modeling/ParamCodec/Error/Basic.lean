/-
This file defines the errors of the codec by their causes.
-/

import ParamCodec.Decimal.Numeral
import ParamCodec.Error.Code
import ParamCodec.Fragment.Expression
import ParamCodec.Grammar.Failure
import ParamCodec.Source
import ParamCodec.Typed.Payload

namespace ParamCodec

/-- The two kinds of fragments. -/
inductive FragmentKind where
  | type
  | literal
  deriving DecidableEq, Repr

def FragmentKind.name : FragmentKind → Text
  | type => "type".toList
  | literal => "literal".toList

/-- The place of a type that is not there. -/
inductive TypeGap where
  | element
  | field (label : Text)
  | wireField (label : Text)
  deriving DecidableEq, Repr

namespace TypeGap

/-- A field is called by its name or, without one, by its index. -/
def label (name : Text) (index : Nat) : Text := if name.isEmpty then Text.decimal index else name

def text : TypeGap → Text
  | element => "ARRAY".toList
  | field label => "STRUCT field ".toList ++ label
  | wireField label => "struct field ".toList ++ label

end TypeGap

/-- Why a fragment has no typed value, or a typed value no text. -/
inductive Error where
  | malformed (kind : FragmentKind) (location : Location) (failure : Grammar.Failure)
  | unknownTypeName (name : Text)
  | unknownTypeCode (code : Text)
  | missingElementType (gap : TypeGap)
  | invalidNumeral (literal : Literal) (fault : NumeralFault)
  | unsupported (expression : Expression)
  | mismatch (expected : TypeCode) (found : Value)
  | inParameter (name : Text) (cause : Error)
  deriving DecidableEq

namespace Error

def message : Error → Text
  | malformed kind location failure =>
    "invalid ".toList ++ kind.name ++ " syntax at ".toList ++ location.text ++ ": ".toList ++
      failure.text
  | unknownTypeName name => "unknown type name: ".toList ++ name
  | unknownTypeCode code => "unknown type: ".toList ++ code
  | missingElementType gap => "missing element type in ".toList ++ gap.text
  | invalidNumeral literal fault =>
    "invalid numeric literal ".toList ++ literal.sql ++ ": ".toList ++ fault.message
  | unsupported expression =>
    "unsupported literal (".toList ++ expression.kind ++ "): ".toList ++ expression.sql
  | mismatch expected found =>
    "failed to decode ".toList ++ found.text ++ " as ".toList ++ expected.name
  | inParameter name cause => "error on ".toList ++ name ++ ": ".toList ++ cause.message

def code : Error → ErrorCode
  | malformed .type _ _ => .typeSyntax
  | malformed .literal _ _ => .literalSyntax
  | unknownTypeName _ => .unknownTypeName
  | unknownTypeCode _ => .unknownTypeCode
  | missingElementType _ => .missingElementType
  | invalidNumeral .. => .invalidNumeral
  | unsupported _ => .unsupportedLiteral
  | mismatch .. => .mismatchedValue
  | inParameter .. => .invalidParameter

/-- The error without the names of the parameters that it was found in. -/
def rootCause : Error → Error
  | inParameter _ cause => cause.rootCause
  | error => error

/-- Only malformed fragments have a place. -/
def location? (error : Error) : Option Location :=
  match error.rootCause with
  | malformed _ location _ => some location
  | _ => none

/-- The help on the root cause comes before the help on the error itself. -/
def help? (error : Error) : Option Text := error.rootCause.code.help? <|> error.code.help?

/-- One line with the code, the message and the place. -/
def diagnostic (error : Error) : Text :=
  "error: ".toList ++ error.code.text ++ " - ".toList ++ error.message ++
    match error.location? with
    | some location => " at ".toList ++ location.text
    | none => []

end Error

end ParamCodec
