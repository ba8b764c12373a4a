import PointerBindings.Text.Basic
import PointerBindings.Text.Numeral
import PointerBindings.Text.Quoted

/-! # UTF-8 — bytes read as characters

    A character takes one to four bytes: the first says how many follow and the
    second is held to the range that keeps every character at its shortest form
    and out of the surrogates.  A run of bytes that is no character is a fault:
    its first byte, how many bytes it covers and what is wrong with it.  Bytes
    that begin a character and then end are told apart from all other faults,
    because more bytes might still have completed them. -/

namespace PointerBindings.Text

/-- What is wrong with a run of bytes. -/
inductive Utf8Cause where
  /-- The byte begins no character. -/
  | badStart
  /-- A byte that should continue the character does not. -/
  | badContinuation
  /-- The bytes end inside a character. -/
  | cutShort
deriving DecidableEq

/-- A run of bytes that is no character. -/
structure Utf8Fault where
  cause : Utf8Cause
  /-- The first byte of the run. -/
  byte : Nat
  /-- Where the run begins, counted in bytes from 0. -/
  position : Nat
  /-- How many bytes the run covers; at least one. -/
  length : Nat
deriving DecidableEq

/-- The cause in words. -/
def Utf8Cause.message : Utf8Cause → Text
  | .badStart => "invalid start byte".toList
  | .badContinuation => "invalid continuation byte".toList
  | .cutShort => "unexpected end of data".toList

/-- The fault in words: a single byte is shown, a longer run by its two ends. -/
def Utf8Fault.message (f : Utf8Fault) : Text :=
  "'utf-8' codec can't decode byte".toList
    ++ (if f.length ≤ 1 then
          " 0x".toList ++ hexDigits 2 f.byte ++ " in position ".toList ++ decimal f.position
        else
          "s in position ".toList ++ decimal f.position ++ ['-']
            ++ decimal (f.position + f.length - 1))
    ++ ": ".toList ++ f.cause.message

/-- The byte is one that continues a character. -/
def continues (b : UInt8) : Bool :=
  b.toNat / 64 == 2

/-- The bytes that may stand second after a given first byte. -/
def secondFits (first second : UInt8) : Bool :=
  continues second &&
    (match first.toNat with
      | 224 => Nat.ble 160 second.toNat
      | 237 => Nat.ble second.toNat 159
      | 240 => Nat.ble 144 second.toNat
      | 244 => Nat.ble second.toNat 143
      | _ => true)

/-- How many bytes a character takes that begins with the given byte. -/
def characterWidth? (first : UInt8) : Option Nat :=
  let n := first.toNat
  if n < 128 then some 1
  else if n < 194 then none
  else if n < 224 then some 2
  else if n < 240 then some 3
  else if n < 245 then some 4
  else none

/-- The low six bits that a continuing byte carries. -/
def carried (b : UInt8) : Nat :=
  b.toNat % 64

/-- The first character and the bytes it takes, or why there is none. -/
def firstCharacter (first : UInt8) (rest : List UInt8) : Except (Utf8Cause × Nat) (Char × Nat) :=
  match characterWidth? first with
  | none => .error (.badStart, 1)
  | some 1 => .ok (Char.ofNat first.toNat, 1)
  | some width =>
      match rest with
      | [] => .error (.cutShort, 1)
      | second :: rest =>
          if !secondFits first second then .error (.badContinuation, 1)
          else if width = 2 then
            .ok (Char.ofNat (first.toNat % 32 * 64 + carried second), 2)
          else
            match rest with
            | [] => .error (.cutShort, 2)
            | third :: rest =>
                if !continues third then .error (.badContinuation, 2)
                else if width = 3 then
                  .ok (Char.ofNat
                    ((first.toNat % 16 * 64 + carried second) * 64 + carried third), 3)
                else
                  match rest with
                  | [] => .error (.cutShort, 3)
                  | fourth :: _ =>
                      if !continues fourth then .error (.badContinuation, 3)
                      else
                        .ok (Char.ofNat
                          (((first.toNat % 8 * 64 + carried second) * 64 + carried third) * 64
                            + carried fourth), 4)

/-- The characters up to the first fault, and the fault; `skip` bytes still belong
    to the character read last. -/
def readUtf8 (position skip : Nat) : List UInt8 → Text × Option Utf8Fault
  | [] => ([], none)
  | first :: rest =>
      match skip with
      | s + 1 => readUtf8 (position + 1) s rest
      | 0 =>
          match firstCharacter first rest with
          | .error (cause, length) => ([], some ⟨cause, first.toNat, position, length⟩)
          | .ok (c, width) =>
              let (chars, fault) := readUtf8 (position + 1) (width - 1) rest
              (c :: chars, fault)

/-- The bytes that spell a text. -/
def toUtf8 (t : Text) : List UInt8 :=
  t.flatMap String.utf8EncodeChar

/-- The characters that the bytes spell up to the first fault, and that fault. -/
def ofUtf8 (bytes : List UInt8) : Text × Option Utf8Fault :=
  readUtf8 0 0 bytes

end PointerBindings.Text
