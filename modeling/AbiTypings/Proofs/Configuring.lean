import AbiTypings.Log

/-!
# Configuring a logger

A request is refused for its level before anything changes, refused for its pattern when the former
handlers are gone, or carried out. From this follow what a refused request leaves behind, and what
every run of requests preserves: the logger has its first handler and at most one other, provided no
caller gives a handler that discards.
-/

namespace AbiTypings

/-- Whether the caller gives a handler that discards everything. -/
def LogRequest.givesDiscard (request : LogRequest) : Bool := request.given.any Sink.isDiscard

/-- If the caller gives none that discards, then the new handler of the request does not. -/
theorem LogRequest.isDiscard_sink {request : LogRequest} {sink : Sink}
    (writer : request.givesDiscard = false) (good : request.sink = .ok sink) :
    sink.isDiscard = false := by
  unfold LogRequest.sink at good
  unfold LogRequest.givesDiscard at writer
  cases given : request.given with
  | some other =>
    rw [given] at good writer
    have same : other = sink := Except.ok.inj good
    rw [← same]
    exact writer
  | none =>
    rw [given] at good
    cases pattern : request.pattern.pattern? with
    | error fault =>
      rw [pattern] at good
      contradiction
    | ok text =>
      rw [pattern] at good
      have same : Sink.console text = sink := Except.ok.inj good
      rw [← same]
      rfl

/-- Only the pattern of a console is refused, and only if the caller gives no handler. -/
theorem LogRequest.sink_eq_error_iff {request : LogRequest} {fault : LogFault} :
    request.sink = .error fault ↔
      request.given = none ∧ request.pattern.pattern? = .error fault := by
  unfold LogRequest.sink
  cases request.given with
  | some other => simp
  | none => cases request.pattern.pattern? <;> simp [Except.map]

namespace Logger

/-! ## One request -/

/-- A request is refused for its level, refused for its pattern, or carried out. -/
theorem configure_cases (logger : Logger) (request : LogRequest) :
    (∃ fault, request.level.level? = .error fault ∧
      logger.configure request = (.error fault, logger)) ∨
    (∃ level fault, request.level.level? = .ok level ∧ request.sink = .error fault ∧
      logger.configure request =
        (.error fault, ⟨level, logger.handlers.filter Handler.isDiscard⟩)) ∨
    ∃ level sink, request.level.level? = .ok level ∧ request.sink = .ok sink ∧
      logger.configure request =
        (.ok (), ((⟨level, logger.handlers.filter Handler.isDiscard⟩ : Logger).withLevel
          ⟨sink, level⟩).add ⟨sink, level⟩) := by
  cases known : request.level.level? with
  | error fault => exact .inl ⟨fault, rfl, configure_of_unknownLevel known⟩
  | ok level =>
    cases good : request.sink with
    | error fault => exact .inr (.inl ⟨level, fault, rfl, rfl, configure_of_badPattern known good⟩)
    | ok sink => exact .inr (.inr ⟨level, sink, rfl, rfl, configure_of_ok known good⟩)

/-- A refused request leaves the logger as it was if its level is refused. If its pattern is, then the
logger has the level of the request and only its discarding handlers, so that it is as it was only if
it had that level and no other handlers. -/
theorem configure_refused {logger : Logger} {request : LogRequest} {fault : LogFault}
    (refused : (logger.configure request).1 = .error fault) :
    (request.level.level? = .error fault ∧ (logger.configure request).2 = logger) ∨
    ∃ level, request.level.level? = .ok level ∧ request.given = none ∧
      request.pattern.pattern? = .error fault ∧
      (logger.configure request).2 = ⟨level, logger.handlers.filter Handler.isDiscard⟩ ∧
      ((logger.configure request).2 = logger ↔
        logger.level = level ∧ ∀ handler ∈ logger.handlers, handler.isDiscard = true) := by
  rcases configure_cases logger request with
    ⟨found, unknown, result⟩ | ⟨level, found, known, bad, result⟩ | ⟨level, sink, -, -, result⟩
  · rw [result] at refused ⊢
    have same : found = fault := Except.error.inj refused
    rw [← same]
    exact .inl ⟨unknown, rfl⟩
  · rw [result] at refused ⊢
    have same : found = fault := Except.error.inj refused
    rw [same] at bad
    have ⟨ungiven, pattern⟩ := LogRequest.sink_eq_error_iff.mp bad
    refine .inr ⟨level, known, ungiven, pattern, rfl, ?_⟩
    constructor
    · intro unchanged
      have kept : logger.handlers.filter Handler.isDiscard = logger.handlers :=
        congrArg Logger.handlers unchanged
      exact ⟨(congrArg Logger.level unchanged).symm, List.filter_eq_self.mp kept⟩
    · rintro ⟨sameLevel, discarding⟩
      rw [List.filter_eq_self.mpr discarding, ← sameLevel]
  · rw [result] at refused
    contradiction

/-- A pattern in another notation costs a logger its level, the handler of its caller and its console,
and leaves it the handler from the start. -/
theorem configure_refused_otherNotation :
    let logger : Logger :=
      ⟨.number 20, [.initial, ⟨.given 7, .number 20⟩, ⟨.console "%(message)s", .number 0⟩]⟩
    let request : LogRequest := ⟨.named "ERROR", .text "\x7bmessage\x7d", none⟩
    (logger.configure request).1 = .error (.badPattern "\x7bmessage\x7d") ∧
      (logger.configure request).2 = ⟨.number 40, [.initial]⟩ := by
  intro logger request
  have refused : (logger.configure request).1 = .error (.badPattern "\x7bmessage\x7d") := by rfl
  refine ⟨refused, ?_⟩
  rcases configure_refused refused with ⟨unknown, -⟩ | ⟨level, known, -, -, left, -⟩
  · contradiction
  · have same : Level.number 40 = level := Except.ok.inj known
    rw [left, ← same]
    rfl

/-- A logger that shows details on its console does not stay as it is when a request is refused for its
pattern. -/
theorem configure_refused_changed :
    let logger := (({} : Logger).configure { level := .direct (.number 10) }).2
    let request : LogRequest := ⟨.direct (.number 30), .text "no fields", none⟩
    (logger.configure request).1 = .error (.badPattern "no fields") ∧
      (logger.configure request).2 ≠ logger := by
  exact ⟨by rfl, by decide +kernel⟩

/-! ## Runs of requests -/

/-- The logger after requests that are made one after another, whether or not they are refused. -/
def run (logger : Logger) (requests : List LogRequest) : Logger :=
  requests.foldl (fun logger request => (logger.configure request).2) logger

/-- A logger has the handler from the start and at most one other, which does not discard. -/
def HasAtMostOne (logger : Logger) : Prop :=
  ∃ others, logger.handlers = .initial :: others ∧ others.length ≤ 1 ∧
    ∀ handler ∈ others, handler.isDiscard = false

namespace HasAtMostOne

variable {logger : Logger}

/-- Only the handler from the start discards. -/
theorem filter_eq (held : logger.HasAtMostOne) :
    logger.handlers.filter Handler.isDiscard = [.initial] := by
  obtain ⟨others, handlers, -, writing⟩ := held
  have discards : Handler.initial.isDiscard = true := rfl
  have removed : others.filter Handler.isDiscard = [] :=
    List.filter_eq_nil_iff.mpr fun handler member => by simp [writing handler member]
  rw [handlers, List.filter_cons_of_pos discards, removed]

/-- No handler stands in such a logger twice. -/
theorem nodup_sinks (held : logger.HasAtMostOne) : (logger.handlers.map Handler.sink).Nodup := by
  obtain ⟨others, handlers, bound, writing⟩ := held
  rw [handlers]
  match others with
  | [] => simp
  | [handler] =>
    have writes : handler.isDiscard = false := writing handler List.mem_cons_self
    have other : Handler.initial.sink ≠ handler.sink := by
      intro same
      rw [Handler.isDiscard, ← same] at writes
      contradiction
    simpa using other
  | _ :: _ :: _ =>
    simp only [List.length_cons] at bound
    omega

/-- A request that is carried out puts its handler in the place of the other one. -/
theorem configure_of_ok {request : LogRequest} (held : logger.HasAtMostOne)
    (writer : request.givesDiscard = false) (done : (logger.configure request).1 = .ok ()) :
    ∃ level sink, request.level.level? = .ok level ∧ request.sink = .ok sink ∧
      (logger.configure request).2 = ⟨level, [.initial, ⟨sink, level⟩]⟩ := by
  rcases configure_cases logger request with
    ⟨_, -, result⟩ | ⟨_, _, -, -, result⟩ | ⟨level, sink, known, good, result⟩
  · rw [result] at done
    contradiction
  · rw [result] at done
    contradiction
  · have writes : sink.isDiscard = false := LogRequest.isDiscard_sink writer good
    refine ⟨level, sink, known, good, ?_⟩
    have discarding : ∀ held ∈ [Handler.initial], held.isDiscard = true := by decide
    rw [result, held.filter_eq]
    exact add_withLevel_of_discarding discarding writes

/-- A request leaves at most one other handler, whether or not it is refused. -/
theorem configure {request : LogRequest} (held : logger.HasAtMostOne)
    (writer : request.givesDiscard = false) : (logger.configure request).2.HasAtMostOne := by
  rcases configure_cases logger request with
    ⟨_, -, result⟩ | ⟨level, _, -, -, result⟩ | ⟨_, _, -, good, result⟩
  · rw [result]
    exact held
  · rw [result, held.filter_eq]
    exact ⟨[], rfl, by simp, by simp⟩
  · obtain ⟨level, sink, -, placed, after⟩ := held.configure_of_ok writer (by rw [result])
    have writes : sink.isDiscard = false := LogRequest.isDiscard_sink writer placed
    rw [after]
    exact ⟨[⟨sink, level⟩], rfl, by simp, by simpa [Handler.isDiscard] using writes⟩

/-- A run of requests leaves at most one other handler. -/
theorem run (held : logger.HasAtMostOne) {requests : List LogRequest}
    (writers : ∀ request ∈ requests, request.givesDiscard = false) :
    (logger.run requests).HasAtMostOne := by
  induction requests generalizing logger with
  | nil => exact held
  | cons request rest ih =>
    have next := held.configure (writers request List.mem_cons_self)
    exact ih next fun later member => writers later (List.mem_cons_of_mem request member)

end HasAtMostOne

/-- A new logger has no other handler. -/
theorem hasAtMostOne_new : HasAtMostOne {} := ⟨[], rfl, by simp, by simp⟩

/-- Whatever requests a new logger was configured with, refused ones among them, it has the handler
from the start and at most one other, and none twice, as long as no caller gives a handler that
discards. After a request that is carried out the other handler is the one of the request, and it and
the logger have the level of the request. -/
theorem run_keeps_one_handler (requests : List LogRequest)
    (writers : ∀ request ∈ requests, request.givesDiscard = false) :
    (run {} requests).HasAtMostOne ∧ ((run {} requests).handlers.map Handler.sink).Nodup ∧
      ∀ earlier request, requests = earlier ++ [request] →
        ((run {} earlier).configure request).1 = .ok () →
        ∃ level sink, request.level.level? = .ok level ∧ request.sink = .ok sink ∧
          run {} requests = ⟨level, [.initial, ⟨sink, level⟩]⟩ := by
  have held : (run {} requests).HasAtMostOne := hasAtMostOne_new.run writers
  refine ⟨held, held.nodup_sinks, fun earlier request split done => ?_⟩
  subst split
  have before : (run {} earlier).HasAtMostOne :=
    hasAtMostOne_new.run fun other member => writers other (List.mem_append_left _ member)
  have last : run {} (earlier ++ [request]) = ((run {} earlier).configure request).2 := by
    rw [run, List.foldl_append, List.foldl_cons, List.foldl_nil, ← run]
  rw [last]
  exact before.configure_of_ok (writers request (by simp)) done

/-- Requests of which two are refused, one for its pattern and one for its level, and of which two
give the same handler. -/
def mixedRequests : List LogRequest := [
  ⟨.direct (.number 10), .standard, none⟩, ⟨.direct (.number 30), .text "no fields", none⟩,
  ⟨.named "INFO", .standard, some (.given 7)⟩, ⟨.named "TRACE", .standard, none⟩,
  ⟨.named "ERROR", .standard, some (.given 7)⟩]

/-- After `mixedRequests` the handler that was given twice stands in the logger once. -/
theorem run_keeps_one_handler_mixedRequests :
    (∀ request ∈ mixedRequests, request.givesDiscard = false) ∧
      ((run {} mixedRequests.dropLast).configure
        ⟨.named "ERROR", .standard, some (.given 7)⟩).1 = .ok () ∧
      run {} mixedRequests = ⟨.number 40, [.initial, ⟨.given 7, .number 40⟩]⟩ := by
  have writers : ∀ request ∈ mixedRequests, request.givesDiscard = false := by decide +kernel
  have done : ((run {} mixedRequests.dropLast).configure
      ⟨.named "ERROR", .standard, some (.given 7)⟩).1 = .ok () := by rfl
  obtain ⟨-, -, last⟩ := run_keeps_one_handler mixedRequests writers
  obtain ⟨level, sink, known, good, after⟩ := last _ _ rfl done
  have sameLevel : Level.number 40 = level := Except.ok.inj known
  have sameSink : Sink.given 7 = sink := Except.ok.inj good
  refine ⟨writers, done, ?_⟩
  rw [after, ← sameLevel, ← sameSink]

/-- A handler that discards stays when the logger is configured again. -/
example : (run {} [{ given := some (.silent 0) }, {}]).handlers.map Handler.sink =
    [.discard, .silent 0, .console Pattern.standard] := by
  decide +kernel

end Logger
end AbiTypings
