/-
This file skips what may stand between the words of a fragment: blanks and comments.
-/

import ParamCodec.Grammar.Failure
import ParamCodec.Text.Blank

namespace ParamCodec.Grammar

/-- Where in the trivia a source stands. A block comment remembers its opening. -/
inductive Skipping where
  | between
  | lineComment
  | blockComment (opening : Text)

/-- The source after blanks and comments. A line comment ends before its line break, a block comment
after its closing mark; without one the failure stands at the opening. -/
def skip : Skipping → Text → Except Failure Text
  | .between, '-' :: '-' :: rest => skip .lineComment rest
  | .between, '#' :: rest => skip .lineComment rest
  | .between, '/' :: '*' :: rest => skip (.blockComment ('/' :: '*' :: rest)) rest
  | .between, letter :: rest =>
    if Text.isBlank letter then skip .between rest else .ok (letter :: rest)
  | .lineComment, letter :: rest =>
    if letter = '\n' then skip .between rest else skip .lineComment rest
  | .blockComment _, '*' :: '/' :: rest => skip .between rest
  | .blockComment opening, _ :: rest => skip (.blockComment opening) rest
  | .blockComment opening, [] => .error ⟨.endOfComment, opening⟩
  | .between, [] => .ok []
  | .lineComment, [] => .ok []

def skipTrivia (source : Text) : Except Failure Text := skip .between source

end ParamCodec.Grammar
