/-
This file holds the codes of errors, grouped by hundreds, with a description and sometimes a help.
-/

import ParamCodec.Text.Digits

namespace ParamCodec

structure ErrorCode where
  number : Nat
  deriving DecidableEq, Repr

namespace ErrorCode

def typeSyntax : ErrorCode := ⟨1⟩
def literalSyntax : ErrorCode := ⟨2⟩
def unknownTypeName : ErrorCode := ⟨100⟩
def unknownTypeCode : ErrorCode := ⟨101⟩
def missingElementType : ErrorCode := ⟨102⟩
def invalidNumeral : ErrorCode := ⟨200⟩
def unsupportedLiteral : ErrorCode := ⟨201⟩
def mismatchedValue : ErrorCode := ⟨202⟩
def invalidParameter : ErrorCode := ⟨300⟩

def text (code : ErrorCode) : Text := "SP".toList ++ Text.padLeft 4 (Text.decimal code.number)

def isSyntaxError (code : ErrorCode) : Bool := 1 ≤ code.number && code.number < 100

def isTypeError (code : ErrorCode) : Bool := 100 ≤ code.number && code.number < 200

def isValueError (code : ErrorCode) : Bool := 200 ≤ code.number && code.number < 300

def isParameterError (code : ErrorCode) : Bool := 300 ≤ code.number && code.number < 400

def description (code : ErrorCode) : Text :=
  if code = typeSyntax then "Invalid type syntax".toList
  else if code = literalSyntax then "Invalid literal syntax".toList
  else if code = unknownTypeName then "Unknown type name".toList
  else if code = unknownTypeCode then "Unknown type code".toList
  else if code = missingElementType then "Missing element type".toList
  else if code = invalidNumeral then "Invalid numeric literal".toList
  else if code = unsupportedLiteral then "Unsupported literal".toList
  else if code = mismatchedValue then "Value does not match its type".toList
  else if code = invalidParameter then "Invalid parameter".toList
  else "Unknown error".toList

def help? (code : ErrorCode) : Option Text :=
  if code = literalSyntax then
    some ("Parameters accept literals only: NULL, TRUE, 42, 1.5, 'text', b'bytes', ".toList ++
      "DATE '...', [..], STRUCT(..), (.., ..)".toList)
  else if code = unknownTypeName then
    some ("Supported types: BOOL, INT64, FLOAT32, FLOAT64, STRING, BYTES, DATE, TIMESTAMP, ".toList
      ++ "NUMERIC, JSON, ARRAY<T>, STRUCT<...>".toList)
  else if code = unsupportedLiteral then
    some "Only literal expressions can be bound as parameters".toList
  else none

end ErrorCode

end ParamCodec
