/-
This file carries out commands, up to the reading and writing of files.
-/

import ParamCodec.Command.Arguments
import ParamCodec.Command.Fault

namespace ParamCodec

/-- What a command has to say on the error stream, and its result. -/
structure Answer where
  messages : List Text
  content : Except CommandFault Text

namespace Run

/-- An argument split at its first equals sign, both sides trimmed. -/
def entry (argument : Text) : Except CommandFault (Text × Text) :=
  match Text.splitAtFirst? '=' argument with
  | none => .error (.unseparated argument)
  | some (name, code) =>
    if (Text.trim name).isEmpty then .error (.nameless argument)
    else .ok (Text.trim name, Text.trim code)

/-- Earlier entries and those of the arguments; a repeated name keeps its place and takes its last
code. -/
def addEntries (earlier : Entries Text) : List Text → Except CommandFault (Entries Text)
  | [] => .ok earlier
  | argument :: rest => do
    let (name, code) ← entry argument
    addEntries (Entries.put name code earlier) rest

/-- The names and codes of the arguments of a command. -/
def entries (arguments : List Text) : Except CommandFault (Entries Text) := addEntries [] arguments

/-- Colors are used only on demand. -/
def isColored (settings : Settings) : Bool :=
  (settings.color.map Text.lower).getD [] == "always".toList

def form (settings : Settings) : OutputForm := OutputForm.ofName (settings.form.getD [])

/-- The first message on the parameters that are built. -/
def announcement (count : Nat) (permitTypes : Bool) : Text :=
  "Resolving ".toList ++ Text.decimal count ++ " parameter(s), type fragments ".toList ++
    (if permitTypes then "permitted" else "not permitted").toList

/-- Parameters in a form of output. As JSON they are in key order, in a table in their own. -/
def parametersText (form : OutputForm) (parameters : Parameters) : Except CommandFault Text :=
  match form with
  | .table => (Layout.parametersTable parameters).mapError .parameter
  | .json => .ok parameters.json.sorted.compact
  | .pretty => .ok (parameters.json.sorted.indented 0)

def resolve (settings : Settings) (arguments : List Text) (permitTypes : Bool) : Answer :=
  match entries arguments with
  | .error fault => ⟨[], .error fault⟩
  | .ok entries =>
    let traced := Binding.parameters permitTypes entries
    let messages :=
      if settings.verbose then
        announcement entries.length permitTypes ::
          traced.log.map (Message.debug (isColored settings))
      else []
    match traced.result with
    | .error error => ⟨messages, .error (.codec error)⟩
    | .ok parameters => ⟨messages, parametersText (form settings) parameters⟩

/-- The typed values of a JSON text. -/
def cells (input : Text) : Except CommandFault (List TypedValue) :=
  match Json.parse? input with
  | none => .error .notJson
  | some json => (TypedValue.cellsOfJson json).mapError .notCells

/-- Cells in a form of output; the pretty form has one line for each. -/
def cellsText (form : OutputForm) (cells : List TypedValue) : Except CommandFault Text := do
  let texts ← (Layout.cellTexts 0 cells).mapError .cell
  return match form with
    | .pretty => List.intercalate ['\n'] texts
    | .json => (Json.array (texts.map .string)).compact
    | .table => Layout.cellsTable cells texts

def format (settings : Settings) (input : Text) : Answer :=
  ⟨[], (cells input).bind (cellsText (form settings))⟩

/-- The file that a command reads; none when it reads the standard input or nothing. -/
def inputFile? : Command → Option Text
  | .format file => file
  | .resolve .. => none

/-- The answer to an invocation, given what could be read. -/
def answer (invocation : Invocation) (input : Except FileFault Text) : Answer :=
  match invocation.command with
  | .resolve arguments permitTypes => resolve invocation.settings arguments permitTypes
  | .format file =>
    match input with
    | .ok text => format invocation.settings text
    | .error fault => ⟨[], .error (.unreadable file fault)⟩

/-- What is told when a file was written. -/
def written (settings : Settings) (file : Text) : Text :=
  Message.success (isColored settings) ("Output written to ".toList ++ file)

end Run

end ParamCodec
