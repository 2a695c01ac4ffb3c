import ExprLexer.Lexer.Scan

/-!
# Log events

A run reports what it does as events: a level, a target that names the part of the tool that
speaks, a message and named fields. An event is written as one line: a time stamp, the level
right-aligned in five columns, the message, and each field as `name=value`.

The events of the tool: a configuration file was loaded, a session was made, a source file is
read, and the scan of a source, which says how long the source is, gives each token with its
span, and ends with the count of tokens or with the invalid character.
-/

namespace ExprLexer

/-- How much an event matters, from the most to the least. -/
inductive Level where
  | error
  | warn
  | info
  | debug
  | trace
  deriving DecidableEq, Repr

namespace Level

/-- The verbosity of a level: 1 for errors up to 5 for traces. -/
def rank : Level → Nat
  | .error => 1
  | .warn => 2
  | .info => 3
  | .debug => 4
  | .trace => 5

/-- The level as log lines write it. -/
def label : Level → String
  | .error => "ERROR"
  | .warn => "WARN"
  | .info => "INFO"
  | .debug => "DEBUG"
  | .trace => "TRACE"

end Level

/-- Something a run reports. -/
structure Event where
  level : Level
  target : String
  message : String
  fields : List (String × String)
  deriving DecidableEq, Repr

namespace Event

/-- The event as a log line after the time stamp `stamp`, without a line break. -/
def line (stamp : String) (e : Event) : String :=
  let label := e.level.label
  stamp ++ " " ++ String.ofList (List.replicate (5 - label.length) ' ') ++ label ++ " " ++
    e.message ++ String.join (e.fields.map fun (k, v) => " " ++ k ++ "=" ++ v)

/-- The target of the events of configuration files. -/
def configTarget : String := "uitc_drv::config"

/-- The target of the events of sessions and sources. -/
def sessionTarget : String := "uitc_drv"

/-- The target of the events of the scan. -/
def scanTarget : String := "uitc_lex::lexer::core"

/-- A configuration file was read from `path`. -/
def configLoaded (path : String) : Event :=
  ⟨.debug, configTarget, "loaded configuration", [("path", path)]⟩

/-- A source file is about to be read from `path`. -/
def readingSource (path : String) : Event :=
  ⟨.debug, sessionTarget, "reading source file", [("path", path)]⟩

end Event

/-- The events of scanning `source`: its length, each token given, then the count or the
invalid character. -/
def Scan.events (source : String) (s : Scan) : List Event :=
  let start : Event :=
    ⟨.debug, Event.scanTarget, "tokenizing", [("len", toString source.utf8ByteSize)]⟩
  let tokens := s.tokens.map fun t =>
    (⟨.trace, Event.scanTarget, "token", [("token", t.toText), ("span", t.span.toText)]⟩ : Event)
  let stop : Event := match s.error with
    | none => ⟨.debug, Event.scanTarget, "tokenized", [("count", toString s.tokens.length)]⟩
    | some e => ⟨.debug, Event.scanTarget, "invalid character",
        [("ch", Text.quoteChar e.ch), ("span", e.span.toText)]⟩
  start :: tokens ++ [stop]

end ExprLexer
