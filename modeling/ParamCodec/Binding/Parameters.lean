/-
This file builds parameters from named fragments and tells what it did.

With type fragments permitted, a fragment is a type if it reads as one, and a literal otherwise. A
type that does not resolve is an error all the same.
-/

import ParamCodec.Binding.Entries
import ParamCodec.Binding.LiteralMeaning
import ParamCodec.Grammar.Fragment
import ParamCodec.Text.Printable
import ParamCodec.Typed.Wire

namespace ParamCodec

/-- A result together with the messages on the way to it. -/
structure Traced (α : Type) where
  log : List Text
  result : Except Error α

/-- The same result with messages before the others. -/
def Traced.after {α : Type} (earlier : List Text) (traced : Traced α) : Traced α :=
  ⟨earlier ++ traced.log, traced.result⟩

/-- The parameters of a query. -/
abbrev Parameters := Entries TypedValue

namespace Parameters

def json (parameters : Parameters) : Json :=
  .object (parameters.map fun (name, typed) => (name, typed.json))

end Parameters

namespace Binding

def readAsType (code : Text) (fragment : TypeFragment) : Text :=
  Text.quoted code ++ " parsed as type ".toList ++ fragment.sql

def notAType (code : Text) (error : Error) : Text :=
  Text.quoted code ++ " is not a type: ".toList ++ error.message

def readAsLiteral (code : Text) (expression : Expression) : Text :=
  Text.quoted code ++ " parsed as literal ".toList ++ expression.sql

def resolvedType (typed : TypedValue) : Text :=
  "resolved type ".toList ++ typed.type.json.compact

/-- The type of a successful result is told last. -/
def concluded (first : Text) (result : Except Error TypedValue) : Traced TypedValue :=
  match result with
  | .ok typed => ⟨[first, resolvedType typed], .ok typed⟩
  | .error error => ⟨[first], .error error⟩

/-- The typed value of a literal fragment. -/
def literal (code : Text) : Traced TypedValue :=
  match parseExpression code with
  | .ok expression => concluded (readAsLiteral code expression) expression.evaluate
  | .error error => ⟨[], .error error⟩

/-- The typed value of a fragment. -/
def parameter (permitTypes : Bool) (code : Text) : Traced TypedValue :=
  if permitTypes then
    match parseType code with
    | .ok fragment => concluded (readAsType code fragment) (resolveType fragment)
    | .error error => (literal code).after [notAType code error]
  else literal code

/-- Earlier parameters and those of the entries; the first failure ends it. -/
def addAll (permitTypes : Bool) (earlier : Parameters) : List (Text × Text) → Traced Parameters
  | [] => ⟨[], .ok earlier⟩
  | (name, code) :: rest =>
    let built := parameter permitTypes code
    match built.result with
    | .ok typed => (addAll permitTypes (Entries.put name typed earlier) rest).after built.log
    | .error error => ⟨built.log, .error (.inParameter name error)⟩

/-- The parameters of named fragments. -/
def parameters (permitTypes : Bool) (entries : List (Text × Text)) : Traced Parameters :=
  addAll permitTypes [] entries

end Binding

end ParamCodec
