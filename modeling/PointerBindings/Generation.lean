import PointerBindings.ClassWriter
import PointerBindings.Source

/-! # Generation — a source traversed, a class written

    The class is generated in passes over its source: one for the fields, one for the
    loader if there is one, one for the wrappers.  A pass resets the source and asks for
    signatures until it is exhausted, and every reset and every question is written down.
    Nothing is written before the whole text stands, so a pass that fails leaves no
    output behind. -/

namespace PointerBindings

open Text

/-! ## Counted sources -/

/-- A source with the steps that were made with it. -/
structure CountedSource where
  source : Source
  /-- The steps, the latest first. -/
  steps : List SourceStep := []

namespace CountedSource

/-- How often the source was reset. -/
def resets (c : CountedSource) : Nat :=
  c.steps.count .reset

/-- How many questions the source was asked. -/
def questions (c : CountedSource) : Nat :=
  c.steps.count .next

/-- The source reset once more. -/
def reset (c : CountedSource) : CountedSource :=
  { source := c.source.reset, steps := .reset :: c.steps }

/-- The source asked once more. -/
def next (c : CountedSource) : Answer × CountedSource :=
  (c.source.next.1, { source := c.source.next.2, steps := .next :: c.steps })

/-- Asks until the source is exhausted or fails. -/
def drain (c : CountedSource) : Except SourceFault (List Signature) × CountedSource :=
  match _h : c.source.next with
  | (.error fault, rest) => (.error fault, { source := rest, steps := .next :: c.steps })
  | (.ok none, rest) => (.ok [], { source := rest, steps := .next :: c.steps })
  | (.ok (some f), rest) =>
      match drain { source := rest, steps := .next :: c.steps } with
      | (.ok fs, done) => (.ok (f :: fs), done)
      | (.error fault, done) => (.error fault, done)
termination_by c.source.remaining
decreasing_by exact Source.remaining_next_lt _h

/-- One pass from the first signature to the last. -/
def pass (c : CountedSource) : Except SourceFault (List Signature) × CountedSource :=
  c.reset.drain

end CountedSource

/-! ## Generators -/

/-- Why no class is generated. -/
inductive GenerationFault where
  | source (fault : SourceFault)
  /-- The settings name no line end. -/
  | noLineEnd
deriving DecidableEq

/-- The fault in words. -/
def GenerationFault.message : GenerationFault → Text
  | .source fault => fault.message
  | .noLineEnd => []

/-- Why no generator can be made from the settings. -/
inductive GeneratorFault where
  | settings (fault : SettingsFault)
  | scope (fault : UnknownScope)

/-- The fault in words. -/
def GeneratorFault.message : GeneratorFault → Text
  | .settings fault => fault.message
  | .scope fault => fault.message

/-- A generator: what writes the class and where the functions come from. -/
structure Generator where
  writer : ClassWriter
  source : CountedSource

namespace Generator

/-- A generator for a source, once the settings are checked. -/
def ofSettings (s : Settings) (source : Source) : Except GeneratorFault Generator :=
  match s.validated with
  | .error fault => .error (.settings fault)
  | .ok checked =>
      match ClassWriter.ofSettings checked with
      | .error fault => .error (.scope fault)
      | .ok writer => .ok { writer, source := { source } }

/-- The lines of the loader, from a pass of their own; none without a loader. -/
def loaderPass (w : ClassWriter) (c : CountedSource) :
    Except SourceFault (List Text) × CountedSource :=
  if w.hasLoader then
    match c.pass with
    | (.error fault, c) => (.error fault, c)
    | (.ok functions, c) => (.ok (w.loaderSection functions), c)
  else (.ok [], c)

/-- The lines of the class, each section from a pass of its own. -/
def linesOfPasses (w : ClassWriter) (c : CountedSource) :
    Except SourceFault (List Text) × CountedSource :=
  match c.pass with
  | (.error fault, c) => (.error fault, c)
  | (.ok fields, c) =>
      match loaderPass w c with
      | (.error fault, c) => (.error fault, c)
      | (.ok loaderLines, c) =>
          match c.pass with
          | (.error fault, c) => (.error fault, c)
          | (.ok wrapped, c) =>
              (.ok (w.preamble ++ w.fieldSection fields ++ loaderLines
                ++ w.wrapperSection wrapped ++ w.epilogue), c)

/-- The text of the class. -/
def generate (g : Generator) : Except GenerationFault Text × Generator :=
  match linesOfPasses g.writer g.source with
  | (.error fault, c) => (.error (.source fault), { g with source := c })
  | (.ok lines, c) =>
      match g.writer.settings.lineEnd with
      | none => (.error .noLineEnd, { g with source := c })
      | some lineEnd => (.ok (joined lineEnd lines), { g with source := c })

end Generator

/-- The text that a writer makes of the given functions, its line end supplied. -/
def ClassWriter.classText (w : ClassWriter) (lineEnd : Text) (functions : List Signature) : Text :=
  joined lineEnd (w.classLines functions)

end PointerBindings
