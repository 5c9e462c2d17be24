import AbiTypings.Json.Basic
import AbiTypings.Log.Pattern

/-!
# The logger

A logger has a level and handlers. An event is handled when its level reaches the level of the
logger and the level of the handler; a logger of level zero takes the level of warnings. One handler
discards everything and stays; configuring the logger sets its level, removes the handlers that do
not discard and adds a handler that it does not have yet, either a console with a pattern or one
that the caller gives. A level that is unknown is refused before anything changes, a pattern that is
no text or has no field only after the level was set and the former handlers were removed.
-/

namespace AbiTypings

/-- A level. A truth value stays what it is and counts as one or zero. -/
inductive Level where
  /-- A number. -/
  | number (value : Int)
  /-- A truth value. -/
  | truth (value : Bool)
deriving DecidableEq, Repr

/-- What a level counts as. -/
def Level.value : Level → Int
  | .number value => value
  | .truth value => if value then 1 else 0

/-- A level as a caller gives it. -/
inductive LevelChoice where
  /-- As it is. -/
  | direct (level : Level)
  /-- By its name. -/
  | named (name : String)
  /-- By something else, as that is shown. -/
  | other (shown : String)
deriving DecidableEq, Repr

/-- The levels that have names. -/
def namedLevels : List (String × Int) := [
  ("CRITICAL", 50),
  ("FATAL", 50),
  ("ERROR", 40),
  ("WARN", 30),
  ("WARNING", 30),
  ("INFO", 20),
  ("DEBUG", 10),
  ("NOTSET", 0)]

/-- The level of a logger that has none of its own. -/
def inheritedLevel : Int := 30

/-- The pattern of a console as a caller gives it. -/
inductive PatternChoice where
  /-- The pattern that is used when none is given. -/
  | standard
  /-- By its text; the empty one stands for the bare message. -/
  | text (pattern : String)
  /-- By something else of a kind. -/
  | other (kind : Json.Kind)
deriving DecidableEq, Repr

/-- Where a handler writes. It tells a handler from all others but consoles with the same pattern. -/
inductive Sink where
  /-- Nowhere, as the handler that the logger has from the start. -/
  | discard
  /-- Nowhere, as the handler of a number that a caller gives. -/
  | silent (number : Nat)
  /-- On the console, by a pattern. -/
  | console (pattern : String)
  /-- Where the handler of a number writes that a caller gives; it shows bare messages. -/
  | given (number : Nat)
deriving DecidableEq, Repr

/-- Whether nothing is written. -/
def Sink.isDiscard : Sink → Bool
  | .discard | .silent _ => true
  | .console _ | .given _ => false

/-- What handles events. -/
structure Handler where
  /-- Where the handler writes. -/
  sink : Sink
  /-- The level that events have to reach. -/
  level : Level
deriving DecidableEq, Repr

/-- Whether a handler discards everything. -/
def Handler.isDiscard (handler : Handler) : Bool := handler.sink.isDiscard

/-- The handler that a logger has from the start. -/
def Handler.initial : Handler := ⟨.discard, .number 0⟩

/-- What events are handled with. -/
structure Logger where
  /-- The level that events have to reach; zero stands for the inherited level. -/
  level : Level := .number 0
  /-- The handlers in the order in which they were added. -/
  handlers : List Handler := [.initial]
deriving DecidableEq, Repr

/-- How a logger is to be configured. -/
structure LogRequest where
  /-- The level of the logger and of its new handler. -/
  level : LevelChoice := .direct (.number 20)
  /-- The pattern of a console. -/
  pattern : PatternChoice := .standard
  /-- The handler that the caller gives in place of a console, by where it writes. -/
  given : Option Sink := none
deriving DecidableEq, Repr

/-- Why a logger is not configured. -/
inductive LogFault where
  /-- No level has the name. -/
  | unknownLevel (name : String)
  /-- The level is neither a level nor a name. -/
  | badLevel (shown : String)
  /-- The pattern is no text. -/
  | noText (kind : Json.Kind)
  /-- The pattern has no field. -/
  | badPattern (pattern : String)
deriving DecidableEq, Repr

/-- The fault in words. -/
def LogFault.message : LogFault → String
  | .unknownLevel name => "Unknown level: " ++ Text.quoted name
  | .badLevel shown => "Level not an integer or a valid string: " ++ shown
  | .noText kind => "expected string or bytes-like object, got '" ++ kind.word ++ "'"
  | .badPattern pattern => "Invalid format '" ++ pattern ++ "' for '%' style"

/-- The level that a caller gives. -/
def LevelChoice.level? : LevelChoice → Except LogFault Level
  | .direct level => .ok level
  | .named name =>
    match namedLevels.lookup name with
    | some value => .ok (.number value)
    | none => .error (.unknownLevel name)
  | .other shown => .error (.badLevel shown)

/-- The pattern that a caller gives. -/
def PatternChoice.pattern? : PatternChoice → Except LogFault String
  | .standard => .ok Pattern.standard
  | .text pattern =>
    if pattern.isEmpty then .ok Pattern.messageOnly
    else if Pattern.hasField pattern.toList then .ok pattern
    else .error (.badPattern pattern)
  | .other kind => .error (.noText kind)

/-- Where the new handler of a request writes. -/
def LogRequest.sink (request : LogRequest) : Except LogFault Sink :=
  match request.given with
  | some sink => .ok sink
  | none => request.pattern.pattern?.map .console

namespace Logger

/-- The logger without a handler. -/
def remove (logger : Logger) (handler : Handler) : Logger :=
  { logger with handlers := logger.handlers.erase handler }

/-- The logger after those of its handlers were removed that do not discard: they are gone through as
they were at the beginning, and each is removed from what is left. -/
def clear (logger : Logger) : Logger :=
  logger.handlers.foldl
    (fun left handler => if handler.isDiscard then left else left.remove handler) logger

/-- Going through the handlers that are still to come keeps the discarding ones among them, in their
order, after discarding ones that were passed. -/
theorem foldl_remove (level : Level) (passed coming : List Handler)
    (discarding : ∀ handler ∈ passed, handler.isDiscard = true) :
    coming.foldl (fun left handler => if handler.isDiscard then left else left.remove handler)
        (⟨level, passed ++ coming⟩ : Logger) =
      ⟨level, passed ++ coming.filter Handler.isDiscard⟩ := by
  induction coming generalizing passed with
  | nil => rfl
  | cons handler coming ih =>
    rw [List.foldl_cons]
    by_cases discards : handler.isDiscard = true
    · have passedOn : ∀ held ∈ passed ++ [handler], held.isDiscard = true := by
        intro held member
        rcases List.mem_append.mp member with before | here
        · exact discarding held before
        · rw [List.mem_singleton.mp here]
          exact discards
      have step := ih (passed ++ [handler]) passedOn
      rw [if_pos discards, List.filter_cons_of_pos discards]
      simpa using step
    · have fresh : handler ∉ passed := fun member => discards (discarding handler member)
      have removed : (passed ++ handler :: coming).erase handler = passed ++ coming := by
        rw [List.erase_append_right _ fresh, List.erase_cons_head]
      rw [if_neg discards, List.filter_cons_of_neg discards, remove, removed]
      exact ih passed discarding

/-- Clearing a logger keeps its level and the handlers that discard. -/
theorem clear_eq (logger : Logger) :
    logger.clear = ⟨logger.level, logger.handlers.filter Handler.isDiscard⟩ :=
  foldl_remove logger.level [] logger.handlers (by simp)

/-- The logger after the level of a handler was set, wherever the handler stands in it. -/
def withLevel (logger : Logger) (handler : Handler) : Logger :=
  { logger with handlers := logger.handlers.map fun held =>
      if held.sink = handler.sink then handler else held }

/-- The logger with a handler at the end, unless it has the handler. -/
def add (logger : Logger) (handler : Handler) : Logger :=
  if handler ∈ logger.handlers then logger
  else { logger with handlers := logger.handlers ++ [handler] }

/-- A handler that does not discard is added to handlers that do. -/
theorem add_withLevel_of_discarding {logger : Logger} {handler : Handler}
    (discarding : ∀ held ∈ logger.handlers, held.isDiscard = true)
    (writes : handler.isDiscard = false) :
    (logger.withLevel handler).add handler =
      { logger with handlers := logger.handlers ++ [handler] } := by
  have other (held : Handler) (member : held ∈ logger.handlers) : held.sink ≠ handler.sink := by
    intro same
    have discards := discarding held member
    rw [Handler.isDiscard, same, ← Handler.isDiscard, writes] at discards
    contradiction
  have unchanged : logger.withLevel handler = logger := by
    have handlers : logger.handlers.map (fun held =>
        if held.sink = handler.sink then handler else held) = logger.handlers :=
      (List.map_congr_left fun held member => if_neg (other held member)).trans (List.map_id _)
    rw [withLevel, handlers]
  have absent : handler ∉ logger.handlers := fun member => other handler member rfl
  rw [unchanged, add, if_neg absent]

/-- The logger after a request, and whether the request was carried out to its end. -/
def configure (logger : Logger) (request : LogRequest) : Except LogFault Unit × Logger :=
  match request.level.level? with
  | .error fault => (.error fault, logger)
  | .ok level =>
    let cleared := { logger with level }.clear
    match request.sink with
    | .error fault => (.error fault, cleared)
    | .ok sink =>
      let handler : Handler := ⟨sink, level⟩
      (.ok (), (cleared.withLevel handler).add handler)

/-- The level that events have to reach. -/
def effectiveLevel (logger : Logger) : Int :=
  if logger.level.value = 0 then inheritedLevel else logger.level.value

/-- Whether a handler of the logger handles events. -/
def handles (logger : Logger) (handler : Handler) : Bool :=
  logger.effectiveLevel ≤ Event.level && handler.level.value ≤ Event.level

/-- What the consoles of the logger show of events. -/
def consoleText (logger : Logger) (events : List Event) : String :=
  String.join (events.flatMap fun event =>
    (logger.handlers.filter logger.handles).filterMap fun handler =>
      match handler.sink with
      | .console pattern => (Pattern.line? pattern event).map (· ++ "\n")
      | _ => none)

/-- An unknown level leaves the logger as it was. -/
theorem configure_of_unknownLevel {logger : Logger} {request : LogRequest} {fault : LogFault}
    (unknown : request.level.level? = .error fault) :
    logger.configure request = (.error fault, logger) := by
  simp [configure, unknown]

/-- A pattern without a field leaves the level set and only the discarding handlers. -/
theorem configure_of_badPattern {logger : Logger} {request : LogRequest} {level : Level}
    {fault : LogFault} (known : request.level.level? = .ok level)
    (bad : request.sink = .error fault) :
    logger.configure request =
      (.error fault, ⟨level, logger.handlers.filter Handler.isDiscard⟩) := by
  simp [configure, known, bad, clear_eq]

/-- A request that is carried out sets the level of its handler wherever it still stands, and adds the
handler if it does not. -/
theorem configure_of_ok {logger : Logger} {request : LogRequest} {level : Level} {sink : Sink}
    (known : request.level.level? = .ok level) (good : request.sink = .ok sink) :
    logger.configure request =
      (.ok (), ((⟨level, logger.handlers.filter Handler.isDiscard⟩ : Logger).withLevel
        ⟨sink, level⟩).add ⟨sink, level⟩) := by
  simp [configure, known, good, clear_eq]

end Logger
end AbiTypings
