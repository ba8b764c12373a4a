import PointerBindings.Proofs.Session.History

/-! # Sinks — where the texts of a session go

    A run of a session has three sinks in sight: the one that may come with the request,
    the one that the session may own, and standard output.  A text that is made goes to
    one of them as a whole (`Session.writes_of_text`); a run that fails leaves all three as
    they are, and so does everything else that can be asked (`Session.writes_of_fault`,
    `Session.writes_of_not_run`).  So the own sink holds the texts of the runs that were left
    to it, one behind the other (`Session.own_sink_holds_texts`). -/

namespace PointerBindings

open Text

/-- Where a text may go. -/
inductive Sink where
  /-- The sink that comes with the request. -/
  | argument
  /-- The sink that the session owns. -/
  | own
  /-- Standard output. -/
  | standard
deriving DecidableEq

/-- The request asks for a text to be written. -/
def Request.isRun : Request → Bool
  | .process _ => true
  | _ => false

/-- What a response wrote to the sink of its request and to standard output. -/
def Response.writing : Response → Writing
  | .written _ writing => writing
  | _ => {}

/-- Nothing for any sink. -/
def nothing : Sink → Text :=
  fun _ => []

/-- A text for one sink, and nothing for the others. -/
def onlyTo (sink : Sink) (text : Text) : Sink → Text :=
  fun other => if other = sink then text else []

namespace Session

/-- The sink that a run writes to: the one that comes with the request, else the session's
    own, else standard output. -/
def sinkFor (s : Session) (withSink : Bool) : Sink :=
  if withSink then .argument
  else if s.ownSink.isSome then .own
  else .standard

/-- A request writes the given texts: what the own sink held stays before its text. -/
structure Writes (s : Session) (request : Request) (texts : Sink → Text) : Prop where
  argument : (s.respond request).1.writing.argument = texts .argument
  own : (s.respond request).2.ownSink = s.ownSink.map (· ++ texts .own)
  standard : (s.respond request).1.writing.standard = texts .standard

/-! ## One request -/

/-- Adding nothing to a sink leaves it, and there being none, as it is. -/
private theorem map_append_nil (sink : Option Text) : sink.map (· ++ []) = sink := by
  cases sink with
  | none => rfl
  | some written => exact congrArg some (List.append_nil written)

/-- A request that leaves the own sink and tells of no writing writes nothing. -/
private theorem writes_nothing {s : Session} {request : Request}
    (hwriting : (s.respond request).1.writing = {})
    (hown : (s.respond request).2.ownSink = s.ownSink) : s.Writes request nothing where
  argument := by rw [hwriting]; rfl
  own := hown.trans (map_append_nil s.ownSink).symm
  standard := by rw [hwriting]; rfl

/-- A run answers with what its generation comes to. -/
theorem respond_process_result (s : Session) (withSink : Bool) :
    ∃ writing, (s.respond (.process withSink)).1 = .written s.generator.generate.1 writing := by
  rw [respond]
  cases s.generator.generate with
  | mk result generator =>
      cases result with
      | error fault => exact ⟨_, rfl⟩
      | ok text => exact ⟨_, rfl⟩

/-- A run that fails writes nothing. -/
theorem writes_of_fault {s : Session} {fault : GenerationFault}
    (h : s.generator.generate.1 = .error fault) (withSink : Bool) :
    s.Writes (.process withSink) nothing := by
  have hgenerate : s.generator.generate = (.error fault, s.generator.generate.2) := Prod.ext h rfl
  have hrespond : s.respond (.process withSink)
      = (.written (.error fault) {}, { s with generator := s.generator.generate.2 }) := by
    rw [respond, hgenerate]
  exact writes_nothing (by rw [hrespond]; rfl) (by rw [hrespond])

/-- A run that succeeds writes its text to one sink. -/
theorem writes_of_text {s : Session} {text : Text} (h : s.generator.generate.1 = .ok text)
    (withSink : Bool) : s.Writes (.process withSink) (onlyTo (s.sinkFor withSink) text) := by
  have hgenerate : s.generator.generate = (.ok text, s.generator.generate.2) := Prod.ext h rfl
  have hrespond : s.respond (.process withSink)
      = (.written (.ok text) (write { s with generator := s.generator.generate.2 } withSink text).1,
        (write { s with generator := s.generator.generate.2 } withSink text).2) := by
    rw [respond, hgenerate]
  cases withSink with
  | true =>
      refine ⟨by rw [hrespond]; rfl, ?_, by rw [hrespond]; rfl⟩
      rw [hrespond]
      exact (map_append_nil s.ownSink).symm
  | false =>
      obtain ⟨generator, ownSink⟩ := s
      cases ownSink with
      | none => exact ⟨by rw [hrespond]; rfl, by rw [hrespond]; rfl, by rw [hrespond]; rfl⟩
      | some written => exact ⟨by rw [hrespond]; rfl, by rw [hrespond]; rfl, by rw [hrespond]; rfl⟩

/-- Nothing but a run writes. -/
theorem writes_of_not_run (s : Session) {request : Request} (h : request.isRun = false) :
    s.Writes request nothing := by
  cases request with
  | process withSink => exact nomatch h
  | generate => exact writes_nothing rfl rfl
  | edit change => exact writes_nothing rfl rfl
  | validate =>
      cases hchecked : s.generator.writer.settings.validated with
      | error fault =>
          exact writes_nothing (by rw [respond, hchecked]; rfl) (by rw [respond, hchecked])
      | ok checked =>
          exact writes_nothing (by rw [respond, hchecked]; rfl) (by rw [respond, hchecked]; rfl)
  | next => exact writes_nothing rfl rfl
  | reset => exact writes_nothing rfl rfl

/-! ## A history of requests -/

/-- The text that a run without a sink of its own returned. -/
def keptText : Request → Response → Option Text
  | .process false, .written (.ok text) _ => some text
  | _, _ => none

/-- The texts that the runs without sinks of their own returned, in order. -/
def keptTexts (s : Session) : List Request → List Text
  | [] => []
  | request :: history =>
      (keptText request (s.respond request).1).toList
        ++ (s.respond request).2.keptTexts history

/-- A request adds to the own sink what it returned without a sink that came with it. -/
theorem respond_ownSink (s : Session) (request : Request) :
    (s.respond request).2.ownSink
      = s.ownSink.map (· ++ (keptText request (s.respond request).1).toList.flatten) := by
  cases request with
  | process withSink =>
      obtain ⟨writing, hresponse⟩ := s.respond_process_result withSink
      rw [hresponse]
      cases hresult : s.generator.generate.1 with
      | error fault =>
          rw [(writes_of_fault hresult withSink).own]
          cases withSink with
          | true => rfl
          | false => rfl
      | ok text =>
          rw [(writes_of_text hresult withSink).own]
          cases withSink with
          | true => rfl
          | false =>
              rw [sinkFor, if_neg Bool.false_ne_true]
              cases s.ownSink with
              | none => rfl
              | some written => simp [onlyTo, keptText]
  | generate => exact (writes_of_not_run s rfl).own
  | edit change => exact (writes_of_not_run s rfl).own
  | validate =>
      rw [(writes_of_not_run s rfl).own, respond]
      cases s.generator.writer.settings.validated with
      | error fault => rfl
      | ok checked => rfl
  | next => exact (writes_of_not_run s rfl).own
  | reset => exact (writes_of_not_run s rfl).own

/-- **The own sink of a session** holds what it held at first and then the texts that were
    left to it. -/
theorem after_ownSink (s : Session) (history : List Request) :
    (s.after history).ownSink = s.ownSink.map (· ++ (s.keptTexts history).flatten) := by
  induction history generalizing s with
  | nil => exact (map_append_nil s.ownSink).symm
  | cons request history ih =>
      rw [show s.after (request :: history) = (s.respond request).2.after history from rfl, ih,
        respond_ownSink, Option.map_map, keptTexts, List.flatten_append]
      refine congrArg (Option.map · s.ownSink) (funext fun written => ?_)
      exact List.append_assoc written _ _

/-- **A text goes to one sink.**  After any history a run answers with what its generation
    comes to: if it fails it writes nothing, and if it succeeds it writes its text to one
    sink, the one that comes with it or else the session's own or else standard output.
    No other request writes, so the own sink holds the texts that were left to it. -/
theorem own_sink_holds_texts (s : Session) (history : List Request) :
    (∀ withSink, ∃ writing, ((s.after history).respond (.process withSink)).1
      = .written (s.after history).generator.generate.1 writing)
    ∧ (∀ withSink fault, (s.after history).generator.generate.1 = .error fault →
        (s.after history).Writes (.process withSink) nothing)
    ∧ (∀ withSink text, (s.after history).generator.generate.1 = .ok text →
        (s.after history).Writes (.process withSink)
          (onlyTo ((s.after history).sinkFor withSink) text))
    ∧ (∀ request : Request, request.isRun = false → (s.after history).Writes request nothing)
    ∧ (s.after history).ownSink = s.ownSink.map (· ++ (s.keptTexts history).flatten) :=
  ⟨respond_process_result _, fun withSink _ h => writes_of_fault h withSink,
    fun withSink _ h => writes_of_text h withSink, fun _ h => writes_of_not_run _ h,
    after_ownSink s history⟩

/-- A session with a sink of its own: its line end is taken away between two runs and given
    back before a run with another sink. -/
theorem own_sink_holds_texts_line_end :
    ∃ g, Generator.ofSettings { namespaceName := some "N".toList, className := some "C".toList }
        (.ofStream (.ofText "int f()".toList)) = .ok g
      ∧ (after ⟨g, some []⟩ [.process false, .edit (.lineEnd none)]).Writes (.process false) nothing
      ∧ (after ⟨g, some []⟩ [.process false, .edit (.lineEnd none), .process false]).ownSink
        = some (g.writer.classText ['\n'] [⟨"f".toList, "int".toList, none, []⟩])
      ∧ (after ⟨g, some []⟩ [.edit (.lineEnd none), .edit (.lineEnd (some ['\n']))]).Writes
        (.process true)
        (onlyTo .argument (g.writer.classText ['\n'] [⟨"f".toList, "int".toList, none, []⟩]))
      ∧ (after ⟨g, some []⟩ [.process false]).Writes .next nothing := by
  obtain ⟨g, hg⟩ : ∃ g, Generator.ofSettings
      { namespaceName := some "N".toList, className := some "C".toList }
      (.ofStream (.ofText "int f()".toList)) = .ok g := ⟨_, rfl⟩
  refine ⟨g, hg, ?_⟩
  cases hg
  refine ⟨?_, ?_, ?_, ?_⟩
  · exact (own_sink_holds_texts _ _).2.1 false .noLineEnd (by decide +kernel)
  · exact (own_sink_holds_texts _ _).2.2.2.2.trans (by decide +kernel)
  · exact (own_sink_holds_texts _ _).2.2.1 true _ (by decide +kernel)
  · exact (own_sink_holds_texts _ _).2.2.2.1 .next rfl

end Session

end PointerBindings
