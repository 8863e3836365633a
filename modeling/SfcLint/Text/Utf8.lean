/-
# Bytes of a text

A text is stored as bytes, between one and four for each character. The first byte of a character
says how many follow and within which bounds the next one must lie; the others lie within common
bounds. Reading stops at the first byte that breaks these rules, and the failure tells which bytes
of a character were read before it.
-/

import SfcLint.Text.Quoted

namespace SfcLint

/-- Why bytes are no text. -/
inductive Utf8Fault
  | start
  | continuation
  | unfinished
  deriving DecidableEq, Repr

/-- How a fault is named. -/
def Utf8Fault.reason : Utf8Fault → String
  | start => "invalid start byte"
  | continuation => "invalid continuation byte"
  | unfinished => "unexpected end of data"

/-- A fault, the place of the character that has it, its first byte, and how many of its bytes
could be read. -/
structure Utf8Error where
  fault : Utf8Fault
  offset : Nat
  byte : UInt8
  count : Nat
  deriving DecidableEq, Repr

/-- How a failure to read bytes is reported. -/
def Utf8Error.message (error : Utf8Error) : String :=
  if error.count ≤ 1 then
    let byte := String.ofList (Text.hexadecimal 2 error.byte.toNat)
    s!"'utf-8' codec can't decode byte 0x{byte} in position {error.offset}: {error.fault.reason}"
  else
    let last := error.offset + error.count - 1
    s!"'utf-8' codec can't decode bytes in position {error.offset}-{last}: {error.fault.reason}"

namespace Utf8

/-- The bounds of the bytes that follow the first byte of a character, and what the first byte
adds to its code. -/
def followers? (byte : Nat) : Option (Nat × List (Nat × Nat)) :=
  let tail := (0x80, 0xbf)
  if byte < 0x80 then some (byte, [])
  else if byte < 0xc2 then none
  else if byte < 0xe0 then some (byte - 0xc0, [tail])
  else if byte = 0xe0 then some (0, [(0xa0, 0xbf), tail])
  else if byte = 0xed then some (0xd, [(0x80, 0x9f), tail])
  else if byte < 0xf0 then some (byte - 0xe0, [tail, tail])
  else if byte = 0xf0 then some (0, [(0x90, 0xbf), tail, tail])
  else if byte < 0xf4 then some (byte - 0xf0, [tail, tail, tail])
  else if byte = 0xf4 then some (4, [(0x80, 0x8f), tail, tail])
  else none

/-- The code that further bytes lead to, or the fault and how many of them could be read. -/
def readTail (code : Nat) : List (Nat × Nat) → List UInt8 → Except (Utf8Fault × Nat) Nat
  | [], _ => .ok code
  | _ :: _, [] => .error (.unfinished, 0)
  | (low, high) :: bounds, byte :: bytes =>
      if low ≤ byte.toNat ∧ byte.toNat ≤ high then
        (readTail (code * 64 + (byte.toNat - 0x80)) bounds bytes).mapError
          fun (fault, count) => (fault, count + 1)
      else .error (.continuation, 0)

/-- The text of bytes from an offset on. The first argument counts the bytes of a character that
are still to be passed over. -/
def decodeFrom (offset : Nat) : Nat → List UInt8 → Except Utf8Error Text
  | _, [] => .ok []
  | skip + 1, _ :: bytes => decodeFrom (offset + 1) skip bytes
  | 0, byte :: bytes =>
      match followers? byte.toNat with
      | none => .error ⟨.start, offset, byte, 1⟩
      | some (code, bounds) =>
          match readTail code bounds bytes with
          | .error (fault, count) => .error ⟨fault, offset, byte, count + 1⟩
          | .ok code =>
              (decodeFrom (offset + 1) bounds.length bytes).map fun t => Char.ofNat code :: t

/-- The text that bytes hold. -/
def decode (bytes : List UInt8) : Except Utf8Error Text := decodeFrom 0 0 bytes

/-- The bytes that hold a text. -/
def encode (t : Text) : List UInt8 := (String.ofList t).toUTF8.toList

end Utf8

namespace Text

/-- The text with every line end of either kind as one line break. -/
def withLineBreaks : Text → Text
  | [] => []
  | '\r' :: '\n' :: t => '\n' :: withLineBreaks t
  | c :: t => (if c = '\r' then '\n' else c) :: withLineBreaks t

end Text

end SfcLint
