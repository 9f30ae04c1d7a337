/-
This file says what a run of the program leaves behind, given its arguments, the standard input and
the files that it finds.
-/

import ParamCodec.Command.Folder
import ParamCodec.Command.Run

namespace ParamCodec

/-- What a run leaves behind. -/
structure Outcome where
  status : Nat
  output : Text
  messages : List Text
  folder : Folder

namespace Session

/-- Lines that each end in a line feed. -/
def lines (texts : List Text) : Text := texts.flatMap fun text => text ++ ['\n']

def failed (settings : Settings) (messages : List Text) (folder : Folder) (fault : CommandFault) :
    Outcome :=
  ⟨1, [], messages ++ [fault.message (Run.isColored settings)], folder⟩

/-- The result goes to the output file, if one is asked for. -/
def delivered (settings : Settings) (messages : List Text) (folder : Folder) (content : Text) :
    Outcome :=
  match settings.output with
  | none => ⟨0, lines [content], messages, folder⟩
  | some file =>
    let told := [Run.written settings file]
    match folder.target file with
    | .error fault => failed settings messages folder (.unopened file fault)
    | .ok (.file name) => ⟨0, [], messages ++ told, Entries.put name (lines [content]) folder⟩
    | .ok (.device .full) => failed settings messages folder (.unwritten file .noSpace)
    | .ok (.device .standardOutput) => ⟨0, lines [content], messages ++ told, folder⟩
    | .ok (.device .standardError) => ⟨0, [], messages ++ content :: told, folder⟩
    | .ok _ => ⟨0, [], messages ++ told, folder⟩

def input (folder : Folder) (standardInput : Text) (command : Command) : Except FileFault Text :=
  match Run.inputFile? command with
  | some file => folder.read standardInput file
  | none => .ok standardInput

/-- The run of an invocation. -/
def run (folder : Folder) (standardInput : Text) (invocation : Invocation) : Outcome :=
  let answer := Run.answer invocation (input folder standardInput invocation.command)
  match answer.content with
  | .ok content => delivered invocation.settings answer.messages folder content
  | .error fault => failed invocation.settings answer.messages folder fault

/-- The run with arguments, if they are accepted. -/
def ofArguments? (folder : Folder) (standardInput : Text) (arguments : List Text) :
    Option Outcome :=
  (Arguments.read? arguments).map (run folder standardInput)

end Session

end ParamCodec
