import PointerBindings.Generation

/-! # Sessions — a generator in use

    Between two runs of a generator its source can be asked and reset and its settings can
    be changed, and the next run sees all of that.  What a run writes goes to one sink:
    the one that comes with the request, else the one the generator was given, else
    standard output.  A run that fails writes nothing. -/

namespace PointerBindings

open Text

/-- A generator in use, and what has been written to the sink it was given, if it was
    given one. -/
structure Session where
  generator : Generator
  ownSink : Option Text := none

/-- What may be asked of a session. -/
inductive Request where
  /-- The text of the class. -/
  | generate
  /-- The text, written to a sink that comes with the request or to the usual one. -/
  | process (withSink : Bool)
  | edit (change : SettingsEdit)
  | validate
  | next
  | reset

/-- What a request wrote, sink by sink. -/
structure Writing where
  /-- To the sink that came with the request. -/
  argument : Text := []
  /-- To standard output. -/
  standard : Text := []
deriving DecidableEq, Inhabited

/-- What comes of a request. -/
inductive Response where
  | text (result : Except GenerationFault Text)
  | written (result : Except GenerationFault Text) (writing : Writing)
  | done
  | checked (result : Except SettingsFault Unit)
  | answer (result : Answer)

namespace Session

/-- Puts other settings into the generator; what its writer has settled stays. -/
def withSettings (s : Session) (settings : Settings) : Session :=
  { s with generator :=
      { s.generator with writer := { s.generator.writer with settings } } }

/-- Puts a source that has been used into the generator. -/
def withSource (s : Session) (source : CountedSource) : Session :=
  { s with generator := { s.generator with source } }

/-- Writes a text to one sink: the one that comes with the request, else the session's own,
    else standard output. -/
def write (s : Session) (withSink : Bool) (text : Text) : Writing × Session :=
  if withSink then ({ argument := text }, s)
  else
    match s.ownSink with
    | some written => ({}, { s with ownSink := some (written ++ text) })
    | none => ({ standard := text }, s)

/-- Answers one request. -/
def respond (s : Session) : Request → Response × Session
  | .generate =>
      let (result, generator) := s.generator.generate
      (.text result, { s with generator })
  | .process withSink =>
      match s.generator.generate with
      | (.error fault, generator) => (.written (.error fault) {}, { s with generator })
      | (.ok text, generator) =>
          let (writing, s) := { s with generator }.write withSink text
          (.written (.ok text) writing, s)
  | .edit change => (.done, s.withSettings (s.generator.writer.settings.edit change))
  | .validate =>
      match s.generator.writer.settings.validated with
      | .error fault => (.checked (.error fault), s)
      | .ok checked => (.checked (.ok ()), s.withSettings checked)
  | .next =>
      let (answer, source) := s.generator.source.next
      (.answer answer, s.withSource source)
  | .reset => (.done, s.withSource s.generator.source.reset)

end Session

end PointerBindings
