/-
This file reads the smallest parts of fragments: tokens, words, keywords and identifiers.
-/

import ParamCodec.Fragment.Identifier
import ParamCodec.Grammar.Trivia

namespace ParamCodec.Grammar

/-- The rest of a source after a letter that has to stand there. -/
def token (letter : Char) : Text → Except Failure Text
  | found :: rest =>
    if found = letter then .ok rest else .error ⟨.token letter, found :: rest⟩
  | [] => .error ⟨.token letter, []⟩

/-- A source goes on with a letter. -/
def startsWith (letter : Char) (source : Text) : Bool := source.head? == some letter

/-- A letter or an underscore, then letters, digits and underscores. -/
def word : Reader Text
  | letter :: rest =>
    if Identifier.isWordStart letter then
      .ok (letter :: rest.takeWhile Identifier.isWordPart, rest.dropWhile Identifier.isWordPart)
    else .error ⟨.identifier, letter :: rest⟩
  | [] => .error ⟨.identifier, []⟩

/-- The rest of a source after a keyword, if its first word is that keyword. -/
def afterKeyword? (keyword source : Text) : Option Text :=
  match word source with
  | .ok (found, rest) => if Text.sameWord found keyword then some rest else none
  | .error _ => none

/-- A word, or a name between backquotes that is not empty. -/
def identifier (source : Text) : Except Failure (Identifier × Text) :=
  match source with
  | '\x60' :: inside =>
    match Text.splitAtFirst? '\x60' inside with
    | some (letter :: name, rest) => .ok (⟨letter :: name, true⟩, rest)
    | _ => .error ⟨.closingBackquote, source⟩
  | _ => (word source).map fun (name, rest) => (⟨name, false⟩, rest)

/-- Items with commas between them up to the closing letter, at least one. After a comma and before
the closing letter there may be trivia; the reader of items takes care of the trivia before them. -/
def commaList {α : Type} (item : Reader α) (close : Char) : (steps : Nat) → Reader (List α)
  | 0, source => .error ⟨.token close, source⟩
  | steps + 1, source => do
    let (first, rest) ← item source
    let rest ← skipTrivia rest
    match rest with
    | ',' :: rest =>
      let (more, rest) ← commaList item close steps rest
      return (first :: more, rest)
    | _ =>
      let rest ← token close rest
      return ([first], rest)

/-- The items of a list up to its closing letter, possibly none. -/
def listUntil {α : Type} (item : Reader α) (close : Char) : Reader (List α) := fun source => do
  let rest ← skipTrivia source
  if startsWith close rest then return ([], rest.tail)
  else commaList item close (rest.length + 1) rest

end ParamCodec.Grammar
