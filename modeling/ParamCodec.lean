import ParamCodec.Command.Session
import ParamCodec.Main
import ParamCodec.Proofs.Grammar.Word
import ParamCodec.Proofs.Grammar.Lists
import ParamCodec.Proofs.Grammar.TypeForms
import ParamCodec.Proofs.Grammar.TypeRendering
import ParamCodec.Proofs.Grammar.TypeTexts
import ParamCodec.Proofs.Grammar.TypeRoundTrip
import ParamCodec.Proofs.Grammar.Numbers
import ParamCodec.Proofs.Grammar.QuotedForms
import ParamCodec.Proofs.Grammar.ExpressionForms
import ParamCodec.Proofs.Grammar.Continuation
import ParamCodec.Proofs.Grammar.ExpressionTexts
import ParamCodec.Proofs.Grammar.Composition
import ParamCodec.Proofs.Grammar.ExpressionRoundTrip
import ParamCodec.Proofs.Grammar.Overlap
import ParamCodec.Proofs.Binding.Permission
import ParamCodec.Proofs.Decimal.Rounding
import ParamCodec.Proofs.Decimal.Floats
import ParamCodec.Proofs.Json.Writer
import ParamCodec.Proofs.Typed.Payload
import ParamCodec.Proofs.Typed.Shape
import ParamCodec.Proofs.Binding.Congruence
import ParamCodec.Proofs.Binding.Annotation
import ParamCodec.Proofs.Typed.Wire
import ParamCodec.Proofs.Binding.Finite
import ParamCodec.Proofs.Binding.WireRoundTrip
import ParamCodec.Proofs.Grammar.LikeFragments
import ParamCodec.Proofs.Grammar.FailurePlace
import ParamCodec.Proofs.Source
import ParamCodec.Proofs.Grammar.ErrorPlace
import ParamCodec.Proofs.Grammar.Padding
import ParamCodec.Proofs.Binding.Blanks
import ParamCodec.Proofs.Binding.EachEntry
import ParamCodec.Proofs.Bytes.Base64
import ParamCodec.Proofs.Decimal.Integers
import ParamCodec.Proofs.Display.Evaluated
import ParamCodec.Proofs.Text.Case
import ParamCodec.Proofs.Grammar.LetterCase
import ParamCodec.Proofs.Binding.LetterCase
import ParamCodec.Proofs.Grammar.NumberFragments
import ParamCodec.Proofs.Grammar.QuotedUnits
import ParamCodec.Proofs.Decimal.Fixed
import ParamCodec.Proofs.Display.NumberLiterals
import ParamCodec.Proofs.Binding.Erasure
import ParamCodec.Proofs.FirstFault
import ParamCodec.Proofs.Binding.Obligations
import ParamCodec.Proofs.Display.Leaves
import ParamCodec.Proofs.Typed.WireFaults
import ParamCodec.Proofs.Binding.ShownTypes
import ParamCodec.Proofs.Calendar.Timestamps
import ParamCodec.Proofs.Display.Timestamps
import ParamCodec.Proofs.Decimal.Layout
import ParamCodec.Proofs.Decimal.Nearest
import ParamCodec.Proofs.Decimal.ReadBack
import ParamCodec.Proofs.Decimal.Narrowing
import ParamCodec.Proofs.Display.DecimalTexts
import ParamCodec.Proofs.Display.Floats
import ParamCodec.Proofs.Grammar.LongestTrivia
import ParamCodec.Proofs.Grammar.QuotedLines
import ParamCodec.Proofs.Grammar.Descent
import ParamCodec.Proofs.Command.Entries
