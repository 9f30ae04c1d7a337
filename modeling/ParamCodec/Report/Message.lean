/-
This file words what is told on the error stream, with or without colors.
-/

import ParamCodec.Error.Basic

namespace ParamCodec

/-- How serious a message is, the most serious first. -/
inductive LogLevel where
  | error
  | warn
  | info
  | debug
  | trace
  deriving DecidableEq, Repr

namespace LogLevel

def all : List LogLevel := [error, warn, info, debug, trace]

def name : LogLevel → Text
  | error => "ERROR".toList
  | warn => "WARN".toList
  | info => "INFO".toList
  | debug => "DEBUG".toList
  | trace => "TRACE".toList

def rank : LogLevel → Nat
  | error => 1
  | warn => 2
  | info => 3
  | debug => 4
  | trace => 5

/-- The least serious level that is told. -/
def threshold (verbose : Bool) : LogLevel := if verbose then debug else warn

/-- The levels that are told. -/
def enabled (verbose : Bool) : List LogLevel :=
  all.filter fun level => level.rank ≤ (threshold verbose).rank

end LogLevel

namespace Message

/-- The part of the program that tells how parameters were built. -/
def source : Text := "sqlparam::params".toList

/-- A text in a color of the terminal, if colors are wanted. -/
def painted (colored : Bool) (color : String) (text : String) : Text :=
  if colored then
    "\x1b[".toList ++ color.toList ++ 'm' :: text.toList ++ "\x1b[0m".toList
  else text.toList

def debug (colored : Bool) (message : Text) : Text :=
  painted colored "34" "debug" ++ ' ' :: painted colored "2" (String.ofList source) ++
    ' ' :: message

def success (colored : Bool) (message : Text) : Text :=
  painted colored "1;32" "Success:" ++ ' ' :: message

/-- A failure that no error of the codec is part of. -/
def failure (colored : Bool) (message : Text) : Text :=
  painted colored "1;31" "Error:" ++ ' ' :: message

/-- An error of the codec with its code and, on a second line, its help. -/
def error (colored : Bool) (error : Error) : Text :=
  failure colored (error.message ++ " [".toList ++ error.code.text ++ [']']) ++
    match error.help? with
    | some help => "\n  ".toList ++ painted colored "1;36" "help:" ++ ' ' :: help
    | none => []

end Message

end ParamCodec
