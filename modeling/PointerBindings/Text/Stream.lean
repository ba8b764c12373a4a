import PointerBindings.Text.Basic
import PointerBindings.Text.Utf8

/-! # Text streams — lines read one at a time

    A stream is the text still to be read and what lies behind it: the end or, for a
    file whose bytes stop being characters, a fault.  Reading a line takes everything
    up to the next line feed, or up to the end; a line that would run into a fault
    cannot be read.  A fault in the middle of a file is met once, and the stream goes
    on with the bytes behind what was read together with it; a fault at the very end
    is met again and again.  Files use all three line ends and a stream only one, so
    a file's text is normalised first. -/

namespace PointerBindings.Text

/-- What lies behind the text of a stream. -/
inductive StreamEnd where
  | ended
  /-- A fault that the stream stays at. -/
  | stuck (fault : Utf8Fault)
  /-- A fault, the text that is read on with, and what lies behind that. -/
  | broken (fault : Utf8Fault) (text : Text) (behind : StreamEnd)
deriving DecidableEq

/-- Text still to be read, and what lies behind it. -/
structure Stream where
  text : Text
  behind : StreamEnd := .ended
deriving DecidableEq

/-- Carriage returns, alone or before a line feed, become line feeds. -/
def unifyLineEnds : Text → Text
  | [] => []
  | '\r' :: '\n' :: rest => '\n' :: unifyLineEnds rest
  | '\r' :: rest => '\n' :: unifyLineEnds rest
  | c :: rest => c :: unifyLineEnds rest

/-- A stream over the characters of a text. -/
def Stream.ofText (t : Text) : Stream :=
  ⟨t, .ended⟩

/-- The stream with more text in front of it. -/
def Stream.prepend (t : Text) (s : Stream) : Stream :=
  { s with text := t ++ s.text }

/-- How many bytes of a file are read at a time. -/
def blockSize : Nat :=
  8192

/-- The blocks that bytes are read in; at most the given number of them. -/
def blocksOf : Nat → List UInt8 → List (List UInt8)
  | 0, _ => []
  | n + 1, bytes =>
      if bytes.isEmpty then [] else bytes.take blockSize :: blocksOf n (bytes.drop blockSize)

/-- More bytes might turn the fault into a character, or are awaited before it is told:
    the bytes from the fault on begin a character, or a surrogate. -/
def Utf8Fault.awaitsMore (f : Utf8Fault) (bytes : List UInt8) : Bool :=
  f.cause = .cutShort ||
    match bytes with
    | [first, second] => first == 237 && continues second
    | _ => false

/-- The characters of blocks and the faults among them.  The bytes of a character that a
    block has begun are read with the next block, and a fault is counted from the first
    byte that is read with it; it hides the block that it is met in, and what the blocks
    before have begun is read with the one behind.  If no block is left, the fault of what
    is begun stays. -/
def readBlocks (begun : List UInt8) : List (List UInt8) → Stream
  | [] =>
      match (ofUtf8 begun).2 with
      | none => ⟨[], .ended⟩
      | some fault => ⟨[], .stuck fault⟩
  | block :: rest =>
      match ofUtf8 (begun ++ block) with
      | (text, none) => (readBlocks [] rest).prepend text
      | (text, some fault) =>
          let left := (begun ++ block).drop fault.position
          if fault.awaitsMore left then (readBlocks left rest).prepend text
          else
            let more := readBlocks begun rest
            ⟨[], .broken fault more.text more.behind⟩

/-- A carriage return at the end of a text, which may be the first half of a line end. -/
def heldBack (t : Text) : Text :=
  if t.getLast? = some '\r' then ['\r'] else []

/-- A text and what lies behind it with line feeds for all line ends.  A carriage return just
    before a fault is not yet a line end, but is read with the text behind. -/
def unifyStream (t : Text) : StreamEnd → Stream
  | .ended => ⟨unifyLineEnds t, .ended⟩
  | .stuck fault => ⟨unifyLineEnds (dropFinal '\r' t), .stuck fault⟩
  | .broken fault more behind =>
      let rest := unifyStream (heldBack t ++ more) behind
      ⟨unifyLineEnds (dropFinal '\r' t), .broken fault rest.text rest.behind⟩

/-- A stream over the bytes of a file. -/
def Stream.ofFile (bytes : List UInt8) : Stream :=
  let s := readBlocks [] (blocksOf bytes.length bytes)
  unifyStream s.text s.behind

/-- The next line and the stream behind it; the end of the stream is an empty line.  What
    stands between the last line end and a fault is lost with the fault. -/
def Stream.readLine (s : Stream) : Except Utf8Fault Text × Stream :=
  match cutFirst '\n' s.text, s.behind with
  | some (line, rest), _ => (.ok line, { s with text := rest })
  | none, .ended => (.ok s.text, { s with text := [] })
  | none, .stuck fault => (.error fault, { s with text := [] })
  | none, .broken fault text behind => (.error fault, ⟨text, behind⟩)

end PointerBindings.Text
