/-
This file defines a folder of text files, and where the names of files lead from it.

A name is a path: its steps are taken one after another, each in a folder. Of what lies outside the
folder only the devices and the folders that every system has are known.
-/

import ParamCodec.Binding.Entries
import ParamCodec.Command.Fault

namespace ParamCodec

/-- Names of files with their contents. A slash in a name separates a folder from what is in it. -/
abbrev Folder := Entries Text

/-- The files that are no stores of text. -/
inductive Device where
  | null
  | full
  | standardInput
  | standardOutput
  | standardError
  deriving DecidableEq, Repr

def Device.ofName? (name : Text) : Option Device :=
  [("null", null), ("full", full), ("stdin", standardInput), ("stdout", standardOutput),
    ("stderr", standardError)].lookup (String.ofList name)

namespace Folder

/-- The pieces of a text between slashes. -/
def pieces : Text → List Text
  | [] => [[]]
  | letter :: text =>
    match letter, pieces text with
    | '/', found => [] :: found
    | letter, [] => [[letter]]
    | letter, first :: rest => (letter :: first) :: rest

/-- The steps of a path. Repeated slashes are one. -/
def steps (name : Text) : List Text := (pieces name).filter fun piece => !piece.isEmpty

/-- A single point leads nowhere else. -/
def isStay (step : Text) : Bool := step == ['.']

/-- Two points lead to the folder around. -/
def isUp (step : Text) : Bool := step == ['.', '.']

/-- No single step has more bytes. -/
def longestStep : Nat := 255

/-- No path has more bytes. -/
def longestPath : Nat := 4095

/-- The name of the file at the end of a path. -/
def nameOf (path : List Text) : Text := List.intercalate ['/'] path

/-- The path to a kept file. -/
def pathOf (name : Text) : List Text := (steps name).filter fun step => !isStay step

/-- Where a name leads. -/
inductive Place where
  | file (name : Text)
  | folder
  | device (device : Device)
  /-- Nothing is there yet, in a folder that is. -/
  | free (name : Text)
  /-- Nothing is known there, in some folder outside. -/
  | outside
  | nowhere
  | belowFile
  /-- A step is too long, the last or another. -/
  | tooLong (last : Bool)
  deriving DecidableEq, Repr

/-- A folder on the way. -/
inductive Position where
  | inside (path : List Text)
  | root
  | devices
  | elsewhere
  deriving DecidableEq, Repr

/-- The folders that every system has, apart from that of the devices. -/
def systemFolders : List Text :=
  ["bin", "boot", "etc", "home", "lib", "media", "mnt", "opt", "proc", "root", "run", "sbin", "srv",
    "sys", "tmp", "usr", "var"].map String.toList

/-- The name under which the file at a path is kept. -/
def fileAt? (folder : Folder) (path : List Text) : Option Text :=
  (folder.find? fun entry => pathOf entry.1 == path).map Prod.fst

def isFolder (folder : Folder) (path : List Text) : Bool :=
  folder.any fun entry => path.isPrefixOf (pathOf entry.1) && pathOf entry.1 != path

/-- The folder around a folder. -/
def above : Position → Position
  | .inside path => if path.isEmpty then .elsewhere else .inside path.dropLast
  | .root => .root
  | .devices => .root
  | .elsewhere => .elsewhere

/-- What a step in a folder leads to: a folder to go on from, or an end of the way. -/
def stepFrom (folder : Folder) (position : Position) (step : Text) (last : Bool) :
    Position ⊕ Place :=
  if isStay step then .inl position
  else if isUp step then .inl (above position)
  else if longestStep < Text.utf8Length step then .inr (.tooLong last)
  else
    match position with
    | .inside path =>
      match fileAt? folder (path ++ [step]) with
      | some name => .inr (if last then .file name else .belowFile)
      | none =>
        if isFolder folder (path ++ [step]) then .inl (.inside (path ++ [step]))
        else .inr (if last then .free (nameOf (path ++ [step])) else .nowhere)
    | .root =>
      if step = "dev".toList then .inl .devices
      else if systemFolders.contains step then .inl .elsewhere
      else .inr (if last then .outside else .nowhere)
    | .devices =>
      match Device.ofName? step with
      | some device => .inr (if last then .device device else .belowFile)
      | none => .inr (if last then .outside else .nowhere)
    | .elsewhere => .inr (if last then .outside else .nowhere)

def walk (folder : Folder) : Position → List Text → Place
  | _, [] => .folder
  | position, step :: rest =>
    match stepFrom folder position step rest.isEmpty with
    | .inl next => walk folder next rest
    | .inr place => place

def place (folder : Folder) (name : Text) : Place :=
  walk folder (if name.head? = some '/' then .root else .inside []) (steps name)

def isTooLong (name : Text) : Bool := longestPath < Text.utf8Length name

/-- A name that ends in a slash can only be that of a folder. -/
def namesFolder (name : Text) : Bool := name.getLast? == some '/'

/-- The text that is read under a name, given what the standard input holds. -/
def read (folder : Folder) (standardInput name : Text) : Except FileFault Text :=
  if isTooLong name then .error .tooLong
  else
    match place folder name with
    | .file kept =>
      if namesFolder name then .error .notDirectory
      else match folder.lookup kept with
        | some content => .ok content
        | none => .error .missing
    | .device device =>
      if namesFolder name then .error .notDirectory
      else match device with
        | .standardInput => .ok standardInput
        | .full => .error .memory
        | _ => .ok []
    | .folder => .error .directory
    | .free _ => .error .missing
    | .outside => .error .missing
    | .nowhere => .error .missing
    | .belowFile => .error .notDirectory
    | .tooLong _ => .error .tooLong

/-- Where a text goes that is written under a name. -/
inductive Target where
  | file (name : Text)
  | device (device : Device)
  | outside
  deriving DecidableEq, Repr

/-- The target of a name, whether a file was there before or not. -/
def target (folder : Folder) (name : Text) : Except FileFault Target :=
  let unlessFolder (target : Target) : Except FileFault Target :=
    if namesFolder name then .error .directory else .ok target
  if isTooLong name then .error .tooLong
  else
    match place folder name with
    | .file kept => unlessFolder (.file kept)
    | .free fresh => unlessFolder (.file fresh)
    | .device device => unlessFolder (.device device)
    | .outside => unlessFolder .outside
    | .folder => .error .directory
    | .nowhere => .error .missing
    | .belowFile => .error .notDirectory
    | .tooLong last => .error (if last && namesFolder name then .directory else .tooLong)

end Folder

end ParamCodec
