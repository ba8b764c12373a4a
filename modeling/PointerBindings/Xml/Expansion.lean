import PointerBindings.Xml.Encoding
import PointerBindings.Xml.Origin
import PointerBindings.Xml.Reference

/-! # Expansion — how much text entities may bring

    A short document can stand for a text without end in sight if entities refer to
    entities.  Therefore what entities bring is counted: the bytes of each replacement
    text every time it is read, those of the references in it included, and one byte for
    each entity that needs no declaration.  Together with the bytes of the document read
    so far that may come to a certain number; beyond it, it may be no more than a
    certain multiple of those bytes.

    What an entity costs is computed from what the entities inside it cost, so that it is
    known before anything is replaced. -/

namespace PointerBindings.Xml

open Text

/-- What an entity stands for. -/
inductive Entity where
  | text (replacement : Text)
  /-- The entity stands outside the document. -/
  | outside
deriving DecidableEq

/-! ## Costs -/

/-- What the members of a list come to together. -/
def totalOf {α : Type} (amount : α → Nat) (members : List α) : Nat :=
  members.foldr (fun member total => amount member + total) 0

/-- What is known of the costs of entities. -/
abbrev Costs := List (Text × Nat)

/-- The known cost of an entity. -/
def costIn (costs : Costs) (name : Text) : Nat :=
  (costs.lookup name).getD 0

/-- The cost of naming an entity. -/
def nameCost (costOf : Text → Nat) (name : Text) : Nat :=
  if (predefined? name).isSome then 1 else costOf name

/-- The cost of the references in a value. -/
def referenceCost (a : Alphabet) (costOf : Text → Nat) (raw : Text) : Nat :=
  match valuePieces? a raw with
  | none => 0
  | some pieces =>
      totalOf (fun
        | .reference (.entity name) => nameCost costOf name
        | _ => 0) pieces

/-- No document may bring so much; costs are not told apart beyond it. -/
def costCap : Nat :=
  Nat.pow 2 64

/-- The costs with that of one entity found from its own text and what others cost, in
    front of what was known of it. -/
def withCost (own : (Text → Nat) → Text → Nat) (costs : Costs) : Text × Entity → Costs
  | (name, .text t) => (name, min costCap ((toUtf8 t).length + own (costIn costs) t)) :: costs
  | (name, .outside) => (name, 0) :: costs

/-- Goes through the entities forth and back, for entities that name earlier ones and
    for those that name later ones, and keeps the last cost found for each. -/
def sweepCosts (own : (Text → Nat) → Text → Nat) (entities : List (Text × Entity))
    (costs : Costs) : Costs :=
  ((entities ++ entities.reverse).foldl (withCost own) costs).take entities.length

/-- Sweeps until that changes nothing, a given number of times at most. -/
def settledCosts (sweep : Costs → Costs) : Nat → Costs → Costs
  | 0, costs => costs
  | n + 1, costs => if sweep costs = costs then costs else settledCosts sweep n (sweep costs)

/-- What the entities cost, each from its own text and what others cost. -/
def costsOf (own : (Text → Nat) → Text → Nat) (entities : List (Text × Entity)) : Costs :=
  settledCosts (sweepCosts own entities) (entities.length + 1) []

/-- What the entities cost inside a value. -/
def valueCosts (entities : List (Text × Entity)) : Costs :=
  costsOf (referenceCost Origin.entity.alphabet) entities

/-! ## The limit -/

/-- The value stands for itself, whatever its kind: nothing in it is replaced, and its
    only blanks are single spaces between words. -/
def isSettledValue (raw : Text) : Bool :=
  raw.all (fun c => c ≠ '&' && (c = ' ' || !isSpace c)) && collapseSpaces raw = raw

/-- The bytes of the values that do not stand for themselves. -/
def unsettledBytes (width : Char → Nat) (raws : List Text) : Nat :=
  totalOf (totalOf width) (raws.filter fun raw => !isSettledValue raw)

/-- The bytes that are never too many. -/
def expansionLimit : Nat :=
  8388608

/-- How many bytes may stand for each byte of the document. -/
def expansionRatio : Nat :=
  100

/-- What was counted. -/
structure Tally where
  /-- The bytes of the document that were read twice. -/
  reread : Nat := 0
  /-- The bytes that entities have brought. -/
  spent : Nat := 0
deriving DecidableEq

/-- The bytes of a document in front of the rest of its text. -/
def Extent.bytesBefore (e : Extent) (rest : Text) : Nat :=
  e.size - totalOf e.encoding.width rest

/-- What was counted is tolerated by the time that only the given rest of the document is
    left. -/
def Extent.tolerates (e : Extent) (rest : Text) (tally : Tally) : Bool :=
  e.size + tally.reread + tally.spent < expansionLimit ||
    let read := e.bytesBefore rest + tally.reread
    read + tally.spent < expansionLimit || read + tally.spent ≤ expansionRatio * read

end PointerBindings.Xml
