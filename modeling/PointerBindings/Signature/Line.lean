import PointerBindings.Signature
import PointerBindings.Text.Blank

/-! # Signature lines — one function written on one line

    A line reads `Return Name(Type a, ref Type b) Convention`.  The return type ends
    at the first space, the name at the first opening bracket, and the parameters at
    the last closing one, so the three cuts are made in that order and each looks
    only at what the one before has left.  A signature whose fields keep clear of
    the characters that the cuts look for is read back from its line. -/

namespace PointerBindings

open Text

/-- Why a line is no signature. -/
inductive LineFault where
  /-- The line has no return type followed by a bracketed list. -/
  | malformedLine (line : Text)
  /-- Nothing stands between the return type and the bracket. -/
  | missingName (line : Text)
  /-- A parameter is not a type and a name. -/
  | malformedParameter (text : Text)
  /-- A parameter of three words does not begin with a direction. -/
  | unknownDirection (direction next : Text)
deriving DecidableEq

/-- The directions a parameter is passed in by reference. -/
def byRefDirections : List Text :=
  ["in".toList, "ref".toList, "out".toList]

/-- The fault in words. -/
def LineFault.message : LineFault → Text
  | .malformedLine line => "Malformed function line: '".toList ++ line ++ "'".toList
  | .missingName line => "Missing function name: '".toList ++ line ++ "'".toList
  | .malformedParameter text => "Malformed parameter: '".toList ++ text ++ "'".toList
  | .unknownDirection direction next =>
      "Expected one of ".toList ++ joined ", ".toList byRefDirections ++ " before '".toList
        ++ next ++ "', got '".toList ++ direction ++ "'".toList

/-! ## Reading -/

/-- A parameter from its text: a type and a name, with a direction in front or
    without. -/
def Parameter.ofText (text : Text) : Except LineFault Parameter :=
  match words text with
  | [type, name] => .ok ⟨type, name⟩
  | [direction, type, name] =>
      if direction ∈ byRefDirections then .ok ⟨direction ++ ' ' :: type, name⟩
      else .error (.unknownDirection direction type)
  | _ => .error (.malformedParameter text)

/-- The pieces of a line: return type, the text up to the bracket, the text between
    the brackets and the text behind them. -/
structure LinePieces where
  returnType : Text
  nameText : Text
  parameterText : Text
  conventionText : Text
deriving DecidableEq

/-- Cuts a line at the first space, the first opening bracket and the last closing
    one; the bracket may not come before the space. -/
def LinePieces.ofLine? (line : Text) : Option LinePieces := do
  let (returnType, rest) ← cutFirst ' ' line
  if '(' ∈ returnType then none
  let (nameText, rest) ← cutFirst '(' rest
  let (parameterText, conventionText) ← cutLast ')' rest
  return ⟨returnType, nameText, parameterText, conventionText⟩

/-- The parameters of a list: none if it is blank or says `void`, else one for each
    piece between commas. -/
def parametersOfText (text : Text) : Except LineFault (List Parameter) :=
  let list := trim text
  if list = [] || list = Signature.voidType then .ok []
  else (splitAt ',' list).mapM Parameter.ofText

/-- The signature a trimmed line spells. -/
def Signature.ofTrimmed (line : Text) : Except LineFault Signature :=
  match LinePieces.ofLine? line with
  | none => .error (.malformedLine line)
  | some pieces =>
      let name := trim pieces.nameText
      if name = [] then .error (.missingName line)
      else do
        let convention := trim pieces.conventionText
        let parameters ← parametersOfText pieces.parameterText
        return {
          name
          returnType := pieces.returnType
          convention := if convention = [] then none else some convention
          parameters }

/-- The signature a line spells; blanks at its ends do not count. -/
def Signature.ofLine (line : Text) : Except LineFault Signature :=
  Signature.ofTrimmed (trim line)

/-! ## Writing -/

/-- A parameter as it is written in a list. -/
def Parameter.toText (p : Parameter) : Text :=
  p.type ++ ' ' :: p.name

/-- A signature written on one line. -/
def Signature.toLine (s : Signature) : Text :=
  s.returnType ++ ' ' :: s.name ++ '(' :: joined ", ".toList (s.parameters.map Parameter.toText)
    ++ ')' :: (match s.convention with
      | some convention => ' ' :: convention
      | none => [])

end PointerBindings
