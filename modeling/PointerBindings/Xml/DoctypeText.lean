import PointerBindings.Xml.Doctype

/-! # The text of a document type — declarations word by word

    A declaration is a list of marks up to a closing angle: words, quoted texts, signs.
    What separates two marks is settled while they are taken off, so that which
    declaration they make up is a question about the list alone. -/

namespace PointerBindings.Xml

open Text

/-! ## Remarks -/

/-- Takes a comment off, its opening already gone. -/
def readComment : Reader Unit := do
  let _ ← Reader.upTo "--".toList
  Reader.literal ['>']

/-- Takes an instruction off, its opening already gone. -/
def readInstruction (a : Alphabet) : Reader Unit := do
  let target ← readSimpleName a
  if target.map Char.toLower = "xml".toList then failure
  if ← Reader.optional "?>".toList then return
  needSpace
  let _ ← Reader.upTo "?>".toList

/-! ## Marks -/

/-- How far a word is a name. -/
inductive WordKind where
  | name
  /-- A name with a label. -/
  | labelled
  /-- A word that is no name. -/
  | other
deriving DecidableEq

/-- A mark in a declaration. -/
inductive Mark where
  | word (kind : WordKind) (t : Text)
  /-- A name with a sign for how often it may come. -/
  | counted
  | quoted (t : Text)
  /-- A word behind a number sign. -/
  | keyword (t : Text)
  | opens
  /-- A closing bracket, with a sign for how often the group may come. -/
  | closes (count : Option Char)
  | bar
  | comma
  | percent
deriving DecidableEq

/-- The character may stand in a word. -/
def isWordChar (a : Alphabet) (c : Char) : Bool :=
  a.isNameChar c || c == ':'

/-- How far a word is a name: a colon inside it sets a label off, a second or a last one
    leaves no name. -/
def wordKind (a : Alphabet) (t : Text) : WordKind :=
  match t with
  | [] => .other
  | c :: _ =>
      if !a.isNameStart c then .other
      else
        match t.count ':' with
        | 0 => .name
        | 1 => if t.getLast? = some ':' then .other else .labelled
        | _ => .other

/-- The sign says how often something may come. -/
def isCount (c : Char) : Bool :=
  c == '?' || c == '*' || c == '+'

/-- What comes next is in a class of characters. -/
def needNext (belongs : Char → Bool) : Reader Unit := do
  match ← Reader.next? with
  | some c => if belongs c then return else failure
  | none => failure

/-- The character may follow a word. -/
def endsWord (c : Char) : Bool :=
  isSpace c || ">),|[%".toList.contains c

/-- Takes a word off. -/
def readWord (a : Alphabet) : Reader Mark := do
  let t ← Reader.run (isWordChar a)
  let kind := wordKind a t
  match ← Reader.next? with
  | some c =>
      if isCount c && kind ≠ .other then
        let _ ← Reader.character
        return .counted
      else if endsWord c then return .word kind t
      else failure
  | none => failure

/-- Takes a sign, a quoted text or a word off. -/
def readMark (a : Alphabet) : Char → Reader Mark
  | '(' => Reader.literal ['('] >>= fun _ => return .opens
  | '|' => Reader.literal ['|'] >>= fun _ => return .bar
  | ',' => Reader.literal [','] >>= fun _ => return .comma
  | ')' => do
      Reader.literal [')']
      match ← Reader.next? with
      | some c =>
          if isCount c then
            let _ ← Reader.character
            return .closes (some c)
          else if isSpace c || ">,|)".toList.contains c then return .closes none
          else failure
      | none => failure
  | '%' => do
      Reader.literal ['%']
      needNext fun c => isSpace c || c == '%'
      return .percent
  | '#' => do
      Reader.literal ['#']
      let t ← readSimpleName a
      needNext fun c => isSpace c || ">)|%".toList.contains c
      return .keyword t
  | c =>
      if c = '"' || c = Char.ofNat 39 then do
        Reader.literal [c]
        let t ← Reader.upTo [c]
        needNext fun c => isSpace c || ">%[".toList.contains c
        return .quoted ((Origin.document a).literal t)
      else readWord a

/-- Takes a mark off, unless the marks end here. -/
def readMark? (a : Alphabet) : Reader (Option Mark) := do
  skipSpace
  match ← Reader.next? with
  | none => failure
  | some c => if c = '>' || c = '[' then return none else return some (← readMark a c)

/-! ## Elements -/

/-- The word names an element or an attribute. -/
def WordKind.isName : WordKind → Bool
  | .other => false
  | _ => true

/-- The rest of a group of elements between which text may stand. -/
def endsMixed : List Mark → Bool
  | [.bar, .word kind _, .closes (some '*')] => kind.isName
  | .bar :: .word kind _ :: rest => kind.isName && endsMixed rest
  | _ => false

/-- A group of elements: one kind of sign between the members, groups inside groups.
    The stack holds the sign of each open group once there is one. -/
def endsGroup : Bool → List (Option Mark) → List Mark → Bool
  | true, stack, .opens :: rest => endsGroup true (none :: stack) rest
  | true, stack, .word kind _ :: rest => kind.isName && endsGroup false stack rest
  | true, stack, .counted :: rest => endsGroup false stack rest
  | false, [_], [.closes _] => true
  | false, _ :: outer :: stack, .closes _ :: rest => endsGroup false (outer :: stack) rest
  | false, sign :: stack, mark :: rest =>
      (mark = .bar || mark = .comma) && (sign = none || sign = some mark)
        && endsGroup true (some mark :: stack) rest
  | _, _, _ => false

/-- The marks say what an element may hold. -/
def isContentModel : List Mark → Bool
  | [.word .name t] => t = "EMPTY".toList || t = "ANY".toList
  | .opens :: .keyword t :: rest =>
      t = "PCDATA".toList
        && (rest = [.closes none] || rest = [.closes (some '*')] || endsMixed rest)
  | .opens :: rest => endsGroup true [none] rest
  | _ => false

/-- The marks declare an element. -/
def isElementDeclaration : List Mark → Bool
  | .word kind _ :: rest => kind.isName && isContentModel rest
  | _ => false

/-! ## Outside texts -/

/-- The character may stand in a public identifier. -/
def isPublicChar (c : Char) : Bool :=
  c.isAlphanum || " \r\n-'()+,./:=?;!*#@$_%".toList.contains c

/-- The marks say where a text stands outside the document. -/
def isOutside : List Mark → Bool
  | [.word .name t, .quoted _] => t = "SYSTEM".toList
  | [.word .name t, .quoted identifier, .quoted _] =>
      t = "PUBLIC".toList && identifier.all isPublicChar
  | _ => false

/-- The marks declare a notation. -/
def isNotationDeclaration : List Mark → Bool
  | [.word .name _, .word .name t, .quoted identifier] =>
      t = "SYSTEM".toList || t = "PUBLIC".toList && identifier.all isPublicChar
  | .word .name _ :: rest => isOutside rest
  | _ => false

/-- The marks of an outside text, without the notation it may have. -/
def withoutNotation : List Mark → List Mark
  | [a, b, .word .name t, .word .name n] =>
      if t = "NDATA".toList then [a, b] else [a, b, .word .name t, .word .name n]
  | [a, b, c, .word .name t, .word .name n] =>
      if t = "NDATA".toList then [a, b, c] else [a, b, c, .word .name t, .word .name n]
  | marks => marks

/-! ## Attributes -/

/-- The types of attributes that have a name. -/
def namedTypes : List Text :=
  ["CDATA".toList, "ID".toList, "IDREF".toList, "IDREFS".toList, "ENTITY".toList,
   "ENTITIES".toList, "NMTOKEN".toList, "NMTOKENS".toList]

/-- The marks behind a list of words in brackets, the opening one already gone. -/
def afterChoices : List Mark → Option (List Mark)
  | .word _ _ :: .closes none :: rest => some rest
  | .word _ _ :: .bar :: rest => afterChoices rest
  | _ => none

/-- The marks behind a list of names in brackets, the opening one already gone. -/
def afterNames : List Mark → Option (List Mark)
  | .word .name _ :: .closes none :: rest => some rest
  | .word .name _ :: .bar :: rest => afterNames rest
  | _ => none

/-- Whether the type of an attribute makes its value a list, and the marks behind it. -/
def attributeType : List Mark → Option (Bool × List Mark)
  | .word .name t :: rest =>
      if t = "NOTATION".toList then
        match rest with
        | .opens :: rest => (afterNames rest).map fun rest => (true, rest)
        | _ => none
      else if namedTypes.contains t then some (t ≠ "CDATA".toList, rest)
      else none
  | .opens :: rest => (afterChoices rest).map fun rest => (true, rest)
  | _ => none

/-- What is written for an attribute that is left out, if anything is, and the marks
    behind it. -/
def attributePreset : List Mark → Option (Option Text × List Mark)
  | .keyword t :: rest =>
      if t = "FIXED".toList then
        match rest with
        | .quoted raw :: rest => some (some raw, rest)
        | _ => none
      else if t = "IMPLIED".toList || t = "REQUIRED".toList then some (none, rest)
      else none
  | .quoted raw :: rest => some (some raw, rest)
  | _ => none

namespace Doctype

/-- Adds the rule for one attribute, unless declarations are suspended; the rest of the
    document tells how much entities may bring into its preset value. -/
def declareRule (d : Doctype) (rest element name : Text) (isList : Bool) (raw : Option Text) :
    Option Doctype :=
  if d.isSuspended then some d
  else
    match raw with
    | none => some (d.declareAttribute { element, name, isList })
    | some raw =>
        let d := { d with spent := d.spent + d.valueCost d.alphabet raw }
        if d.extent.tolerates rest { spent := d.spent } then
          (d.attributeValue d.alphabet isList raw).map fun value =>
            d.declareAttribute { element, name, isList, preset := some value }
        else none

/-- Adds the rules for the attributes of an element; every rule takes three marks or
    more. -/
def declareRules (behind element : Text) : Nat → Doctype → List Mark → Option Doctype
  | _, d, [] => some d
  | n + 1, d, .word kind name :: rest => do
      if !kind.isName then none
      let (isList, rest) ← attributeType rest
      let (raw, rest) ← attributePreset rest
      let d ← d.declareRule behind element name isList raw
      declareRules behind element n d rest
  | _, _, _ => none

/-- Adds what the marks of an entity declaration declare. -/
def declareEntityMarks (d : Doctype) : List Mark → Option Doctype
  | [.word .name name, .quoted raw] => d.declareText name raw
  | [.percent, .word .name _, .quoted raw] =>
      if d.isSuspended then some d else (replacementOf d.alphabet raw).map fun _ => d
  | .percent :: .word .name _ :: rest => if isOutside rest then some d else none
  | .word .name name :: rest =>
      if isOutside (withoutNotation rest) then some (d.declareEntity name .outside) else none
  | _ => none

/-- Adds what a declaration declares that has the given text behind it. -/
def declare (d : Doctype) (behind keyword : Text) (marks : List Mark) : Option Doctype :=
  if keyword = "ENTITY".toList then d.declareEntityMarks marks
  else if keyword = "ATTLIST".toList then
    match marks with
    | .word kind element :: rest =>
        if kind.isName then declareRules behind element rest.length d rest else none
    | _ => none
  else if keyword = "ELEMENT".toList then
    if isElementDeclaration marks then some d else none
  else if keyword = "NOTATION".toList then
    if isNotationDeclaration marks then some d else none
  else none

/-- Declarations stand elsewhere too, and unless the document stands alone those that
    follow may be overruled by them. -/
def refersOutside (d : Doctype) : Doctype :=
  { d with hasOutside := true, isSuspended := !d.standalone }

/-! ## Taking the declarations off -/

/-- Takes the marks of a declaration and its closing angle off. -/
def readDeclaration (d : Doctype) : Reader Doctype := do
  let keyword ← Reader.run Char.isAlpha
  needSpace
  let marks ← Reader.many (readMark? d.alphabet)
  Reader.literal ['>']
  match d.declare (← get) keyword marks with
  | some d => return d
  | none => failure

/-- Takes one of the declarations or remarks between the brackets off. -/
def readItem (d : Doctype) : Reader Doctype := do
  if ← Reader.optional "<!--".toList then
    readComment
    return d
  if ← Reader.optional "<?".toList then
    readInstruction d.alphabet
    return d
  if ← Reader.optional "<!".toList then
    return ← readDeclaration d
  Reader.literal ['%']
  let _ ← readSimpleName d.alphabet
  Reader.literal [';']
  return d.refersOutside

/-- Takes everything up to the closing bracket off. -/
def readItems : Nat → Doctype → Reader Doctype
  | 0, _ => failure
  | n + 1, d => do
      skipSpace
      if ← Reader.optional [']'] then return d
      let d ← readItem d
      readItems n d

/-- What the head of a document type says of declarations outside. -/
def ofHead (extent : Extent) (standalone : Bool) : List Mark → Option Doctype
  | [.word kind _] => if kind.isName then some { extent, standalone } else none
  | .word kind _ :: rest =>
      if kind.isName && isOutside rest then some { extent, standalone, hasOutside := true }
      else none
  | _ => none

/-- Takes a document type off, its opening already gone. -/
def read (extent : Extent) (standalone : Bool) : Reader Doctype := do
  needSpace
  let marks ← Reader.many (readMark? extent.encoding.alphabet)
  match ofHead extent standalone marks with
  | none => failure
  | some d =>
      if ← Reader.optional ['['] then
        let t ← get
        let d ← readItems (t.length + 1) d
        skipSpace
        Reader.literal ['>']
        return d
      else
        Reader.literal ['>']
        return d

end Doctype

end PointerBindings.Xml
