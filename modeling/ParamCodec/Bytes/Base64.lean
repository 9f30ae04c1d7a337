/-
This file writes and reads bytes in the standard base 64 alphabet, four symbols for three bytes.

Reading is strict: the last group is filled up with `=`, and the bits that no byte uses are zero.
-/

import ParamCodec.Text.Basic

namespace ParamCodec.Base64

/-- The symbols in the order of their values. -/
def alphabet : Text :=
  "ABCDEFGHIJKLMNOPQRSTUVWXYZabcdefghijklmnopqrstuvwxyz0123456789+/".toList

def symbol (value : Nat) : Char := (alphabet[value]?).getD '='

def symbolValue? (letter : Char) : Option Nat := alphabet.findIdx? (· == letter)

def encode : List UInt8 → Text
  | [] => []
  | [first] =>
    [symbol (first.toNat / 4), symbol (first.toNat % 4 * 16), '=', '=']
  | [first, second] =>
    [symbol (first.toNat / 4), symbol (first.toNat % 4 * 16 + second.toNat / 16),
      symbol (second.toNat % 16 * 4), '=']
  | first :: second :: third :: rest =>
    symbol (first.toNat / 4) :: symbol (first.toNat % 4 * 16 + second.toNat / 16) ::
      symbol (second.toNat % 16 * 4 + third.toNat / 64) :: symbol (third.toNat % 64) :: encode rest

def decode? : Text → Option (List UInt8)
  | [] => some []
  | [first, second, '=', '='] => do
    let high ← symbolValue? first
    let low ← symbolValue? second
    if low % 16 = 0 then some [UInt8.ofNat (high * 4 + low / 16)] else none
  | [first, second, third, '='] => do
    let high ← symbolValue? first
    let middle ← symbolValue? second
    let low ← symbolValue? third
    if low % 4 = 0 then
      some [UInt8.ofNat (high * 4 + middle / 16), UInt8.ofNat (middle % 16 * 16 + low / 4)]
    else none
  | first :: second :: third :: fourth :: rest => do
    let high ← symbolValue? first
    let upper ← symbolValue? second
    let lower ← symbolValue? third
    let low ← symbolValue? fourth
    let bytes ← decode? rest
    some (UInt8.ofNat (high * 4 + upper / 16) :: UInt8.ofNat (upper % 16 * 16 + lower / 4) ::
      UInt8.ofNat (lower % 4 * 64 + low) :: bytes)
  | _ => none

end ParamCodec.Base64
