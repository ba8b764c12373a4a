import PointerBindings.LooseValue
import PointerBindings.Text.Blank

/-! # Settings — what one generated class is to look like

    The settings name the class and its namespace and choose between static and
    instance members, between three ways of loading the pointers, and between
    layouts.  A caller may fill them in with anything; checking them demands the two
    names and a sensible indentation, and supplies the line end that was left open.
    A choice that is none of the known ones passes the check and is told apart only
    where the choice is made. -/

namespace PointerBindings

open Text

/-- Whether members belong to the class or to its instances. -/
inductive Scope where
  | static
  | perInstance
deriving DecidableEq, Inhabited

/-- How the function pointers are filled in. -/
inductive Loader where
  /-- They are left to the caller. -/
  | none
  /-- An initialising method does it. -/
  | function
  /-- The constructor does it. -/
  | constructor
deriving DecidableEq, Inhabited

/-- The scope as an option spells it. -/
def Scope.spelling : Scope → Text
  | .static => "static".toList
  | .perInstance => "instance".toList

/-- The loader as an option spells it. -/
def Loader.spelling : Loader → Text
  | .none => "none".toList
  | .function => "function".toList
  | .constructor => "constructor".toList

/-- Every scope, in the order they are offered. -/
def Scope.all : List Scope :=
  [.static, .perInstance]

/-- Every loader, in the order they are offered. -/
def Loader.all : List Loader :=
  [.none, .function, .constructor]

/-- One of the known choices, or whatever was given instead. -/
inductive Choice (α : Type) where
  | known (choice : α)
  | unknown (value : LooseValue)
deriving Inhabited

/-- The choice is the given one. -/
def Choice.chooses {α : Type} [DecidableEq α] (choice : α) : Choice α → Bool
  | .known c => c = choice
  | .unknown _ => false

/-- The settings of one generated class. -/
structure Settings where
  namespaceName : Option Text := none
  className : Option Text := none
  scope : Choice Scope := .known .static
  loader : Choice Loader := .known .function
  /-- Wrappers are marked for aggressive inlining. -/
  inlined : Bool := true
  /-- The convention of functions that name none themselves. -/
  convention : Option Text := none
  lineEnd : Option Text := none
  /-- Spaces for each level of nesting; none stands for one tab. -/
  indentation : LooseValue := .whole 0
deriving Inhabited

/-! ## Checking -/

/-- Why settings are refused. -/
inductive SettingsFault where
  | noClassName
  | noNamespace
  /-- The indentation is no whole number. -/
  | indentationKind (value : LooseValue)
  /-- The indentation is out of its range. -/
  | indentationRange (value : Int)

/-- The fault in words. -/
def SettingsFault.message : SettingsFault → Text
  | .noClassName => "Class name is required".toList
  | .noNamespace => "Namespace is required".toList
  | .indentationKind value => "Indentation must be a number, got ".toList ++ value.shown
  | .indentationRange value =>
      "Indentation must be between 0 and 255, got ".toList ++ signedDecimal value

/-- A name is missing, empty or blank. -/
def isUnnamed (name : Option Text) : Bool :=
  match name with
  | none => true
  | some t => allBlank t

/-- The line end of a file that no setting decides. -/
def defaultLineEnd : Text :=
  ['\n']

/-- The settings with a line end, where none or an empty one was given. -/
def Settings.withLineEnd (s : Settings) : Settings :=
  { s with lineEnd :=
      match s.lineEnd with
      | none | some [] => some defaultLineEnd
      | some t => some t }

/-- The settings checked and completed; the class name is looked at first, the
    indentation last. -/
def Settings.validated (s : Settings) : Except SettingsFault Settings :=
  if isUnnamed s.className then .error .noClassName
  else if isUnnamed s.namespaceName then .error .noNamespace
  else
    match s.indentation with
    | .whole n =>
        if 0 ≤ n ∧ n ≤ 255 then .ok s.withLineEnd else .error (.indentationRange n)
    | value => .error (.indentationKind value)

/-! ## Indentation -/

/-- How many spaces an indentation stands for; only whole numbers and truth values
    count. -/
def LooseValue.count : LooseValue → Nat
  | .whole n => n.toNat
  | .truth true => 1
  | _ => 0

/-- What one level of nesting is indented by. -/
def Settings.indentUnit (s : Settings) : Text :=
  match s.indentation.count with
  | 0 => ['\t']
  | n => List.replicate n ' '

/-! ## Changing one field -/

/-- A new value for one of the fields. -/
inductive SettingsEdit where
  | namespaceName (value : Option Text)
  | className (value : Option Text)
  | scope (value : Choice Scope)
  | loader (value : Choice Loader)
  | inlined (value : Bool)
  | convention (value : Option Text)
  | lineEnd (value : Option Text)
  | indentation (value : LooseValue)

/-- The settings with the new value in place. -/
def Settings.edit (s : Settings) : SettingsEdit → Settings
  | .namespaceName value => { s with namespaceName := value }
  | .className value => { s with className := value }
  | .scope value => { s with scope := value }
  | .loader value => { s with loader := value }
  | .inlined value => { s with inlined := value }
  | .convention value => { s with convention := value }
  | .lineEnd value => { s with lineEnd := value }
  | .indentation value => { s with indentation := value }

end PointerBindings
