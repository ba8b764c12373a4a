import PointerBindings.Xml.DoctypeText
import PointerBindings.Xml.Element
import PointerBindings.Xml.Encoding
import PointerBindings.Xml.Namespace

/-! # Documents — the element tree of a text

    Content is a run of pieces: tags, character data, remarks and references.  The tree
    grows along them on a stack of open elements.  An entity inside content brings
    pieces of its own, which must close what they open; entities nest no deeper than
    there are entities, because none may hold itself.  A document is an optional
    declaration, an optional document type and one element, with only remarks and
    blanks around them.

    Before the tree grows, the pieces of the document are gone through for what entities
    are going to bring, so that the tree never grows beyond what is tolerated. -/

namespace PointerBindings.Xml

open Text

/-! ## Pieces of content -/

/-- What content is made of. -/
inductive Piece where
  | opening (name : Text) (attributes : List (Text × Text)) (isEmpty : Bool)
  | closing (name : Text)
  | entity (name : Text)
  /-- Character data. -/
  | data
  /-- Blanks, a comment or an instruction. -/
  | aside
deriving DecidableEq

/-- Takes an attribute off, unless the tag ends here. -/
def readAttribute? (o : Origin) : Reader (Option (Text × Text)) := do
  let space ← Reader.run isSpace
  match ← Reader.next? with
  | none => failure
  | some c =>
      if c = '>' || c = '/' then return none
      else if space.isEmpty then failure
      else
        let name ← readName o.alphabet
        skipSpace
        Reader.literal ['=']
        skipSpace
        let quote ← Reader.character
        if quote = '"' || quote = Char.ofNat 39 then
          let raw ← Reader.upTo [quote]
          return some (name, o.literal raw)
        else failure

/-- Takes an opening tag off, its first angle already gone. -/
def readOpening (o : Origin) : Reader Piece := do
  let name ← readName o.alphabet
  let attributes ← Reader.many (readAttribute? o)
  let isEmpty ← Reader.optional ['/']
  Reader.literal ['>']
  return .opening name attributes isEmpty

/-- Takes a piece off that begins with an opening angle. -/
def readMarkup (o : Origin) : Reader Piece := do
  if ← Reader.optional "<!--".toList then
    readComment
    return .aside
  if ← Reader.optional "<![CDATA[".toList then
    let _ ← Reader.upTo "]]>".toList
    return .data
  if ← Reader.optional "<?".toList then
    readInstruction o.alphabet
    return .aside
  if ← Reader.optional "</".toList then
    let name ← readName o.alphabet
    skipSpace
    Reader.literal ['>']
    return .closing name
  Reader.literal ['<']
  readOpening o

/-- The character is plain character data wherever it stands. -/
def isPlain (c : Char) : Bool :=
  c != '<' && c != '&' && c != ']'

/-- Takes a piece off, if there is one left. -/
def Piece.read? (o : Origin) : Reader (Option Piece) := do
  match ← Reader.next? with
  | none => return none
  | some '<' => return some (← readMarkup o)
  | some '&' =>
      Reader.literal ['&']
      match ← Reference.read o.alphabet with
      | .character _ => return some .data
      | .entity name => return some (.entity name)
  | some ']' =>
      if ← Reader.sees "]]>".toList then failure
      Reader.literal [']']
      return some .data
  | some _ =>
      let text ← Reader.run1 isPlain
      return some (if text.all isSpace then .aside else .data)

/-- Takes a piece off, if there is one left, together with what stands behind it. -/
def Piece.readPlaced? (o : Origin) : Reader (Option (Piece × Text)) := do
  match ← Piece.read? o with
  | none => return none
  | some piece => return some (piece, ← get)

/-- The pieces of content, each with what stands behind it. -/
def placedPieces? (o : Origin) (content : Text) : Option (List (Piece × Text)) :=
  Reader.whole? (Reader.many (Piece.readPlaced? o)) content

/-- The pieces of an entity's text. -/
def entityPieces? (replacement : Text) : Option (List Piece) :=
  (placedPieces? .entity replacement).map fun placed => placed.map Prod.fst

/-- What entities stand for inside content: pieces, unless their texts have none or stand
    outside. -/
abbrev Contents := List (Text × List Piece)

/-- What the declared entities stand for inside content. -/
def Doctype.contents (d : Doctype) : Contents :=
  d.entities.filterMap fun (name, e) =>
    match e with
    | .text t => (entityPieces? t).map fun pieces => (name, pieces)
    | .outside => none

/-! ## What entities bring -/

/-- The cost of a piece, where entities have the given costs in values and in content. -/
def Piece.cost (a : Alphabet) (inValue inContent : Text → Nat) : Piece → Nat
  | .entity name => nameCost inContent name
  | .opening _ attributes _ =>
      totalOf (fun (_, raw) => referenceCost a inValue raw) attributes
  | _ => 0

/-- The bytes of a piece that are read twice. -/
def Piece.reread (width : Char → Nat) : Piece → Nat
  | .opening _ attributes false => unsettledBytes width (attributes.map Prod.snd)
  | _ => 0

/-- What the entities cost inside content. -/
def contentCosts (inValue : Text → Nat) (entities : List (Text × Entity)) : Costs :=
  costsOf
    (fun inContent t =>
      totalOf
        (fun piece =>
          piece.cost Origin.entity.alphabet inValue inContent + piece.reread Char.utf8Size)
        ((entityPieces? t).getD []))
    entities

/-- Everything that the pieces bring is tolerated at the place where it comes. -/
def isTolerated (extent : Extent) (cost : Piece → Nat) (tally : Tally) :
    List (Piece × Text) → Bool
  | [] => true
  | (piece, behind) :: rest =>
      let tally : Tally :=
        { reread := tally.reread + piece.reread extent.encoding.width
          spent := tally.spent + cost piece }
      extent.tolerates behind tally && isTolerated extent cost tally rest

/-- Everything that the pieces of the document bring is tolerated. -/
def Doctype.tolerates (d : Doctype) (placed : List (Piece × Text)) : Bool :=
  let inValue := valueCosts d.entities
  let inContent := contentCosts (costIn inValue) d.entities
  isTolerated d.extent (Piece.cost d.alphabet (costIn inValue) (costIn inContent))
    { spent := d.spent } placed

/-! ## Growing the tree -/

/-- An element still open: how its tag is written, what it opens, the bindings around it
    and the elements before it, the last one first. -/
structure OpenElement where
  name : Text
  opening : Opening
  around : Bindings
  before : List Element

/-- The elements that pieces make up between the bindings around them: `done` holds
    those since the innermost open element, the last one first. -/
def grow (d : Doctype) (a : Alphabet) (contentOf : Bindings → Text → Option (List Element))
    (bindings : Bindings) (done : List Element) :
    List OpenElement → List Piece → Option (List Element)
  | [], [] => some done.reverse
  | _ :: _, [] => none
  | stack, piece :: rest =>
      match piece with
      | .data | .aside => grow d a contentOf bindings done stack rest
      | .entity name => do
          let elements ← contentOf bindings name
          grow d a contentOf bindings (elements.reverse ++ done) stack rest
      | .opening name attributes isEmpty => do
          let opening ← Opening.ofTag d a bindings name attributes
          if isEmpty then
            grow d a contentOf bindings (.node opening.tag opening.attributes [] :: done) stack rest
          else
            grow d a contentOf opening.bindings [] (⟨name, opening, bindings, done⟩ :: stack) rest
      | .closing name =>
          match stack with
          | [] => none
          | innermost :: outer =>
              if innermost.name = name then
                grow d a contentOf innermost.around
                  (.node innermost.opening.tag innermost.opening.attributes done.reverse
                    :: innermost.before)
                  outer rest
              else none

/-- The elements of an entity inside content, with entities nested in it to a given
    depth. -/
def entityContent (d : Doctype) (contents : Contents) :
    Nat → Bindings → Text → Option (List Element)
  | 0, _, _ => none
  | depth + 1, bindings, name =>
      match predefined? name with
      | some _ => some []
      | none =>
          match contents.lookup name with
          | some pieces =>
              grow d Origin.entity.alphabet (entityContent d contents depth) bindings [] [] pieces
          | none => none

/-- Nothing but remarks and blanks stands around the outermost element. -/
def isSingle : Nat → List Piece → Bool
  | _, [] => true
  | depth, .opening _ _ isEmpty :: rest =>
      if isEmpty then if depth = 0 then rest.all (· = .aside) else isSingle depth rest
      else isSingle (depth + 1) rest
  | depth, .closing _ :: rest =>
      if depth = 1 then rest.all (· = .aside) else isSingle (depth - 1) rest
  | depth, _ :: rest => isSingle depth rest

/-! ## The document -/

/-- Takes a remark or blanks off, if they come next. -/
def readAside? (a : Alphabet) : Reader (Option Unit) := do
  let space ← Reader.run isSpace
  if !space.isEmpty then return some ()
  if ← Reader.optional "<!--".toList then
    readComment
    return some ()
  if ← Reader.optional "<?".toList then
    readInstruction a
    return some ()
  return none

/-- Takes everything before the outermost element off. -/
def readHead (extent : Extent) : Reader Doctype := do
  let a := extent.encoding.alphabet
  let opening ← OpeningDeclaration.read a
  let _ ← Reader.many (readAside? a)
  if ← Reader.optional "<!DOCTYPE".toList then
    let d ← Doctype.read extent opening.standalone
    let _ ← Reader.many (readAside? a)
    return d
  else return { extent, standalone := opening.standalone }

/-- The element that the pieces of a document make up. -/
def Doctype.rootElement? (d : Doctype) (pieces : List Piece) : Option Element :=
  match pieces with
  | .opening .. :: _ =>
      if isSingle 0 pieces then
        match grow d d.alphabet (entityContent d d.contents d.depthBound) Bindings.initial [] []
            pieces with
        | some [root] => some root
        | _ => none
      else none
  | _ => none

/-- The element tree of a document's text. -/
def DocumentText.root? (t : DocumentText) : Option Element := do
  let (d, rest) ← readHead t.extent t.text
  let placed ← placedPieces? (.document d.alphabet) rest
  if d.tolerates placed then d.rootElement? (placed.map Prod.fst) else none

/-- The element tree of a document. -/
def Element.ofBytes (bytes : List UInt8) : Except DocumentFault Element := do
  let t ← DocumentText.ofBytes bytes
  match t.root? with
  | some root => return root
  | none => throw .notWellFormed

end PointerBindings.Xml
