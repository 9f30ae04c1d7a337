/-
This file reads whole fragments. Nothing but trivia may follow the type or the literal.
-/

import ParamCodec.Error.Basic
import ParamCodec.Grammar.LiteralGrammar

namespace ParamCodec

namespace Grammar

/-- A reader that accepts only whole sources. -/
def whole {α : Type} (reader : Reader α) (source : Text) : Except Failure α := do
  let (result, rest) ← reader source
  let rest ← skipTrivia rest
  if rest.isEmpty then return result else throw ⟨.endOfInput, rest⟩

/-- A failure becomes an error at the place where the rest of the source begins. -/
def located (kind : FragmentKind) (source : Text) (failure : Failure) : Error :=
  .malformed kind (Location.after (source.take (source.length - failure.rest.length))) failure

end Grammar

/-- The type of a type fragment as it is written. -/
def parseType (source : Text) : Except Error TypeFragment :=
  (Grammar.whole Grammar.type source).mapError (Grammar.located .type source)

/-- The expression of a literal fragment. -/
def parseExpression (source : Text) : Except Error Expression :=
  (Grammar.whole Grammar.expression source).mapError (Grammar.located .literal source)

end ParamCodec
