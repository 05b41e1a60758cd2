import CharacterTables.Text.Numeral

/-!
# Decoding UTF-8

A decoder that reads one byte at a time and stops at the first byte that cannot be part
of well-formed text. Overlong forms, surrogates and values above U+10FFFF are refused at
their second byte at the latest.
-/

set_option autoImplicit false

namespace CharacterTables.Text

abbrev Bytes := List UInt8

/-- Why bytes are not well-formed text. -/
inductive Utf8Fault.Reason where
  | invalidStart
  /-- A character was begun and the next byte cannot continue it. -/
  | invalidContinuation
  | endOfData
  deriving DecidableEq, Repr

/-- The first place where bytes stop being text: the first byte of the broken character,
its position, and how many bytes of it were in order. -/
structure Utf8Fault where
  lead : UInt8
  position : Nat
  length : Nat
  reason : Utf8Fault.Reason
  deriving DecidableEq, Repr

def Utf8Fault.Reason.message : Utf8Fault.Reason → String
  | .invalidStart => "invalid start byte"
  | .invalidContinuation => "invalid continuation byte"
  | .endOfData => "unexpected end of data"

/-- The wording of a fault: a lone byte is shown, a longer stretch only located. -/
def Utf8Fault.message (fault : Utf8Fault) : String :=
  let place :=
    if fault.length = 1 then
      "byte 0x" ++ String.ofList (hexLower 2 fault.lead.toNat) ++ " in position " ++
        toString fault.position
    else
      "bytes in position " ++ toString fault.position ++ "-" ++
        toString (fault.position + fault.length - 1)
  let quote := String.singleton (Char.ofNat 0x27)
  quote ++ "utf-8" ++ quote ++ " codec can" ++ quote ++ "t decode " ++ place ++ ": " ++
    fault.reason.message

/-- A character under way: where it began, the value of its bytes so far, the range of
the next byte, and the ranges of those after it. -/
structure Utf8Pending where
  lead : UInt8
  start : Nat
  value : Nat
  next : UInt8 × UInt8
  later : List (UInt8 × UInt8)
  deriving DecidableEq, Repr

/-- What a first byte promises: the bits it contributes and the ranges of the bytes that
follow. No character starts with a byte that gives none. -/
def utf8Lead? (byte : UInt8) : Option (Nat × List (UInt8 × UInt8)) :=
  let tail : UInt8 × UInt8 := (0x80, 0xBF)
  if byte < 0x80 then some (byte.toNat, [])
  else if byte < 0xC2 then none
  else if byte < 0xE0 then some (byte.toNat - 0xC0, [tail])
  else if byte = 0xE0 then some (0, [(0xA0, 0xBF), tail])
  else if byte = 0xED then some (0xD, [(0x80, 0x9F), tail])
  else if byte < 0xF0 then some (byte.toNat - 0xE0, [tail, tail])
  else if byte = 0xF0 then some (0, [(0x90, 0xBF), tail, tail])
  else if byte < 0xF4 then some (byte.toNat - 0xF0, [tail, tail, tail])
  else if byte = 0xF4 then some (4, [(0x80, 0x8F), tail, tail])
  else none

/-- The state behind a byte: a character under way if further bytes are expected, and
otherwise a finished one in front of those decoded so far. -/
def settle (lead : UInt8) (start value : Nat) (expected : List (UInt8 × UInt8))
    (done : List Char) : Option Utf8Pending × List Char :=
  match expected with
  | [] => (none, Char.ofNat value :: done)
  | next :: later => (some { lead, start, value, next, later }, done)

/-- Decodes bytes from a position on, behind characters already decoded (last first). -/
def decodeUtf8From (position : Nat) (pending : Option Utf8Pending) (done : List Char) :
    Bytes → Except Utf8Fault (List Char)
  | [] =>
      match pending with
      | none => .ok done.reverse
      | some begun => .error ⟨begun.lead, begun.start, position - begun.start, .endOfData⟩
  | byte :: rest =>
      match pending with
      | none =>
          match utf8Lead? byte with
          | none => .error ⟨byte, position, 1, .invalidStart⟩
          | some (value, expected) =>
              let (pending, done) := settle byte position value expected done
              decodeUtf8From (position + 1) pending done rest
      | some begun =>
          if begun.next.1 ≤ byte ∧ byte ≤ begun.next.2 then
            let value := begun.value * 64 + (byte.toNat - 0x80)
            let (pending, done) := settle begun.lead begun.start value begun.later done
            decodeUtf8From (position + 1) pending done rest
          else
            .error ⟨begun.lead, begun.start, position - begun.start, .invalidContinuation⟩

def decodeUtf8 (bytes : Bytes) : Except Utf8Fault (List Char) :=
  decodeUtf8From 0 none [] bytes

end CharacterTables.Text
