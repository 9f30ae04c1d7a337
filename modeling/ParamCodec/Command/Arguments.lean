/-
This file reads the arguments of the command line.

Options may stand before or after the name of the command. The value of an option is the next
argument, or follows an equals sign, or is glued to the short form. Arguments that are not accepted
have no reading.
-/

import ParamCodec.Text.Basic

namespace ParamCodec

/-- The options that every command has. -/
structure Settings where
  verbose : Bool
  form : Option Text
  output : Option Text
  color : Option Text
  deriving DecidableEq, Repr

/-- What is to be done. -/
inductive Command where
  | resolve (parameters : List Text) (permitTypes : Bool)
  | format (file : Option Text)
  deriving DecidableEq, Repr

structure Invocation where
  settings : Settings
  command : Command
  deriving DecidableEq, Repr

namespace Arguments

inductive OptionName where
  | verbose
  | form
  | output
  | color
  | parameter
  | permitTypes
  deriving DecidableEq, Repr

def OptionName.takesValue : OptionName → Bool
  | verbose => false
  | permitTypes => false
  | _ => true

/-- Where an argument stands: before the name of the command or after it. -/
inductive Level where
  | top
  | resolve
  | format
  deriving DecidableEq, Repr

/-- The long names of the options of a level. -/
def longOption? (level : Level) (name : Text) : Option OptionName :=
  if name = "verbose".toList then some .verbose
  else if name = "format".toList then some .form
  else if name = "output".toList then some .output
  else if name = "color".toList then some .color
  else if level = .resolve ∧ name = "param".toList then some .parameter
  else if level = .resolve ∧ name = "permit-type".toList then some .permitTypes
  else none

/-- The one-letter names of the options of a level. -/
def shortOption? (level : Level) (letter : Char) : Option OptionName :=
  if letter = 'v' then some .verbose
  else if letter = 'f' then some .form
  else if letter = 'o' then some .output
  else if level = .resolve ∧ letter = 'p' then some .parameter
  else none

/-- What the arguments say one after the other. The name of a command comes with all that
follows. -/
inductive Item where
  | flag (name : OptionName)
  | value (name : OptionName) (text : Text)
  | positional (text : Text)
  | command (name : Text) (rest : List Text)
  deriving DecidableEq, Repr

/-- What one argument says; the value of its last option may still be missing. -/
structure Said where
  items : List Item
  open? : Option OptionName

/-- An argument of the form `--name` or `--name=value`. -/
def long? (level : Level) (body : Text) : Option Said :=
  match Text.splitAtFirst? '=' body with
  | some (name, value) =>
    (longOption? level name).bind fun option =>
      if option.takesValue then some ⟨[.value option value], none⟩ else none
  | none =>
    (longOption? level body).map fun option =>
      if option.takesValue then ⟨[], some option⟩ else ⟨[.flag option], none⟩

/-- One-letter options behind one hyphen. The first that takes a value takes all that follows. -/
def short? (level : Level) : Text → Option Said
  | [] => some ⟨[], none⟩
  | letter :: rest =>
    match shortOption? level letter with
    | none => none
    | some option =>
      if option.takesValue then
        match rest with
        | [] => some ⟨[], some option⟩
        | '=' :: value => some ⟨[.value option value], none⟩
        | value => some ⟨[.value option value], none⟩
      else (short? level rest).map fun said => ⟨.flag option :: said.items, said.open?⟩

/-- An argument that begins with a hyphen is no value, unless it is the hyphen alone. -/
def looksLikeOption : Text → Bool
  | '-' :: _ :: _ => true
  | _ => false

/-- What the arguments of a level say. After two hyphens all are positional. -/
def items? (level : Level) : List Text → Option (List Item)
  | [] => some []
  | argument :: rest =>
    if argument = "--".toList then some (rest.map .positional)
    else if !looksLikeOption argument then
      if level = .top then some [.command argument rest]
      else (items? level rest).map fun items => .positional argument :: items
    else
      let said := match argument with
        | '-' :: '-' :: body => long? level body
        | _ :: body => short? level body
        | [] => none
      match said, rest with
      | none, _ => none
      | some ⟨items, none⟩, rest => (items? level rest).map fun more => items ++ more
      | some ⟨_, some _⟩, [] => none
      | some ⟨items, some option⟩, value :: rest =>
        if looksLikeOption value then none
        else (items? level rest).map fun more => items ++ .value option value :: more

/-- All values of an option. -/
def valuesOf (option : OptionName) (items : List Item) : List Text :=
  items.filterMap fun item =>
    match item with
    | .value name text => if name = option then some text else none
    | _ => none

/-- The value of an option that may be there once. -/
def atMostOnce? (option : OptionName) (items : List Item) : Option (Option Text) :=
  match valuesOf option items with
  | [] => some none
  | [value] => some (some value)
  | _ => none

/-- A flag that may be there once. -/
def flag? (option : OptionName) (items : List Item) : Option Bool :=
  match items.count (.flag option) with
  | 0 => some false
  | 1 => some true
  | _ => none

/-- The name of a file is not empty. -/
def isFileName (name : Option Text) : Bool := name != some []

def settings? (items : List Item) : Option Settings := do
  let verbose ← flag? .verbose items
  let form ← atMostOnce? .form items
  let output ← atMostOnce? .output items
  let color ← atMostOnce? .color items
  if isFileName output then some ⟨verbose, form, output, color⟩ else none

/-- Settings after the name of the command win over those before it. -/
def Settings.over (inner outer : Settings) : Settings :=
  ⟨outer.verbose || inner.verbose, inner.form <|> outer.form, inner.output <|> outer.output,
    inner.color <|> outer.color⟩

def positionals (items : List Item) : List Text :=
  items.filterMap fun item =>
    match item with
    | .positional text => some text
    | _ => none

def resolveCommand? (items : List Item) : Option Command := do
  let permitTypes ← flag? .permitTypes items
  if (positionals items).isEmpty then
    some (.resolve (valuesOf .parameter items) permitTypes)
  else none

def formatCommand? (items : List Item) : Option Command :=
  match positionals items with
  | [] => some (.format none)
  | [file] => if file.isEmpty then none else some (.format (some file))
  | _ => none

/-- The name of a command and the arguments after it. -/
def command? (name : Text) (arguments : List Text) : Option (Settings × Command) := do
  if name = "resolve".toList then
    let items ← items? .resolve arguments
    let settings ← settings? items
    let command ← resolveCommand? items
    some (settings, command)
  else if name = "format".toList then
    let items ← items? .format arguments
    let settings ← settings? items
    let command ← formatCommand? items
    some (settings, command)
  else none

/-- The invocation that the arguments of the program describe. -/
def read? (arguments : List Text) : Option Invocation := do
  let items ← items? .top arguments
  let outer ← settings? items
  let (name, rest) ← items.findSome? fun item =>
    match item with
    | .command name rest => some (name, rest)
    | _ => none
  let (inner, command) ← command? name rest
  some ⟨Settings.over inner outer, command⟩

end Arguments

end ParamCodec
