/-
This file is the program: it reads the arguments, the input and the files, and writes the result.
-/

import ParamCodec.Command.Run

namespace ParamCodec

/-- The failure that the system gives a number, which some of its calls give a minus sign. -/
def FileFault.numbered (code : UInt32) (details : String) : FileFault :=
  let number := min code.toNat (Nat.pow 2 32 - code.toNat)
  if number = 2 then .missing
  else if number = 20 then .notDirectory
  else if number = 21 then .directory
  else if number = 36 then .tooLong
  else if number = 28 then .noSpace
  else if number = 12 then .memory
  else .other (details.toList ++ " (os error ".toList ++ Text.decimal number ++ [')'])

def FileFault.ofError : IO.Error → FileFault
  | .noFileOrDirectory _ _ _ => .missing
  | .alreadyExists _ code details => .numbered code details
  | .otherError code details => .numbered code details
  | .resourceBusy code details => .numbered code details
  | .resourceVanished code details => .numbered code details
  | .unsupportedOperation code details => .numbered code details
  | .hardwareFault code details => .numbered code details
  | .unsatisfiedConstraints code details => .numbered code details
  | .illegalOperation code details => .numbered code details
  | .protocolError code details => .numbered code details
  | .timeExpired code details => .numbered code details
  | .interrupted _ code details => .numbered code details
  | .invalidArgument _ code details => .numbered code details
  | .permissionDenied _ code details => .numbered code details
  | .resourceExhausted _ code details => .numbered code details
  | .inappropriateType _ code details => .numbered code details
  | .noSuchThing _ code details => .numbered code details
  | .unexpectedEof => .other "failed to fill whole buffer".toList
  | .userError message => .other message.toList

namespace Program

def tell (message : Text) : IO Unit := do
  (← IO.getStderr).putStrLn (String.ofList message)

def decoded (bytes : ByteArray) : Except FileFault Text :=
  match String.fromUTF8? bytes with
  | some text => .ok text.toList
  | none => .error (.other "stream did not contain valid UTF-8".toList)

/-- The input of a command: a file, the standard input or nothing. -/
def input (command : Command) : IO (Except FileFault Text) :=
  try
    match command with
    | .resolve .. => return .ok []
    | .format none => return decoded (← (← IO.getStdin).readBinToEnd)
    | .format (some file) => return decoded (← IO.FS.readBinFile (String.ofList file))
  catch failure => return .error (.ofError failure)

/-- Writes the result where it is wanted, and returns why that failed. -/
def deliver (settings : Settings) (content : Text) : IO (Option CommandFault) := do
  match settings.output with
  | none =>
    (← IO.getStdout).putStrLn (String.ofList content)
    return none
  | some file =>
    let opened ← (IO.FS.Handle.mk (String.ofList file) .write).toBaseIO
    match opened with
    | .error failure => return some (.unopened file (.ofError failure))
    | .ok handle =>
      try
        handle.putStrLn (String.ofList content)
        handle.flush
        tell (Run.written settings file)
        return none
      catch failure => return some (.unwritten file (.ofError failure))

def run (invocation : Invocation) : IO UInt32 := do
  let answer := Run.answer invocation (← input invocation.command)
  answer.messages.forM tell
  let fault ← match answer.content with
    | .ok content => deliver invocation.settings content
    | .error fault => pure (some fault)
  match fault with
  | none => return 0
  | some fault =>
    tell (fault.message (Run.isColored invocation.settings))
    return 1

end Program

end ParamCodec

def main (arguments : List String) : IO UInt32 :=
  match ParamCodec.Arguments.read? (arguments.map String.toList) with
  | some invocation => ParamCodec.Program.run invocation
  | none => return 2
