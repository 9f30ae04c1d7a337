/-
This file defines why a command fails and how that is told.
-/

import ParamCodec.Report.Layout
import ParamCodec.Report.Message

namespace ParamCodec

/-- Why a file cannot be read or written. -/
inductive FileFault where
  | missing
  | directory
  | notDirectory
  | tooLong
  | noSpace
  | memory
  | other (message : Text)
  deriving DecidableEq, Repr

def FileFault.message : FileFault → Text
  | missing => "No such file or directory (os error 2)".toList
  | directory => "Is a directory (os error 21)".toList
  | notDirectory => "Not a directory (os error 20)".toList
  | tooLong => "File name too long (os error 36)".toList
  | noSpace => "No space left on device (os error 28)".toList
  | memory => "Cannot allocate memory (os error 12)".toList
  | other message => message

/-- Why a command gives no result. -/
inductive CommandFault where
  | unseparated (argument : Text)
  | nameless (argument : Text)
  | unreadable (file : Option Text) (fault : FileFault)
  | unopened (file : Text) (fault : FileFault)
  | unwritten (file : Text) (fault : FileFault)
  | notJson
  | notCells (fault : WireFault)
  | codec (error : Error)
  | parameter (untold : Untold Text)
  | cell (untold : Untold Nat)

namespace CommandFault

/-- What the command was about when it failed. -/
def context : CommandFault → Text
  | unseparated argument =>
    "Invalid parameter format: '".toList ++ argument ++ "'. Expected 'name=code'".toList
  | nameless argument => "Missing parameter name in '".toList ++ argument ++ "'".toList
  | unreadable none _ => "Failed to read stdin".toList
  | unreadable (some file) _ => "Failed to read input file: ".toList ++ file
  | unopened file _ => "Failed to create output file: ".toList ++ file
  | unwritten file _ => "Failed to write to output file: ".toList ++ file
  | notJson => "Input is not valid JSON".toList
  | notCells _ => "Input is not a typed value or a list of typed values".toList
  | codec error => error.message
  | parameter untold => "Failed to format parameter ".toList ++ untold.place
  | cell untold => "Failed to format cell ".toList ++ Text.decimal untold.place

/-- What made it fail, where that is known. -/
def cause? : CommandFault → Option Text
  | unreadable _ fault => some fault.message
  | unopened _ fault => some fault.message
  | unwritten _ fault => some fault.message
  | notCells (.type error) => some error.message
  | parameter untold => some untold.cause.message
  | cell untold => some untold.cause.message
  | _ => none

/-- The context and the cause. -/
def chain (fault : CommandFault) : Text :=
  match fault.cause? with
  | some cause => fault.context ++ ": ".toList ++ cause
  | none => fault.context

/-- The error of the codec behind a fault. Errors about the shape of the input do not count. -/
def error? : CommandFault → Option Error
  | codec error => some error
  | parameter untold => some untold.cause
  | cell untold => some untold.cause
  | _ => none

/-- An error of the codec is told for itself, every other fault with its cause. -/
def message (colored : Bool) (fault : CommandFault) : Text :=
  match fault.error? with
  | some error => Message.error colored error
  | none => Message.failure colored fault.chain

end CommandFault

end ParamCodec
