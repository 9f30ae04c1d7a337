/-
This file writes payloads as JSON and reads them back.
-/

import ParamCodec.Json.Writer
import ParamCodec.Typed.Value

namespace ParamCodec.Value

mutual

/-- The JSON tree of a payload; a number that is not finite has no JSON but null. -/
def json : Value → Json
  | null => .null
  | bool value => .bool value
  | number value => if value.isFinite then .float value else .null
  | string text => .string text
  | list items => .array (jsonItems items)

def jsonItems : List Value → List Json
  | [] => []
  | item :: rest => item.json :: jsonItems rest

end

/-- The payload on one line. -/
def text (value : Value) : Text := value.json.compact

mutual

/-- The payload of a JSON tree; there is none when an object is part of the tree. -/
def ofJson? : Json → Option Value
  | .null => some null
  | .bool value => some (bool value)
  | .integer value => some (number (Binary64.ofInt value))
  | .float value => some (number value)
  | .string text => some (string text)
  | .array items => (ofJsonItems? items).map list
  | .object _ => none

def ofJsonItems? : List Json → Option (List Value)
  | [] => some []
  | item :: rest =>
    match ofJson? item, ofJsonItems? rest with
    | some value, some values => some (value :: values)
    | _, _ => none

end

end ParamCodec.Value
