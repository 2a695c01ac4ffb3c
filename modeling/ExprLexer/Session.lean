import ExprLexer.ConfigFile
import ExprLexer.Log.Event

/-!
# Sessions

A session holds the keyword set and the dump format of a run. It is made from a configuration,
whose keyword list is checked, and a format given on its own, which wins over the configured
one. Running a session on a source scans it and, if it lexes, dumps its tokens; a source that
does not lex writes nothing.

The source of a run is an expression given as it is, or the text of a file or of standard input,
which loses one line break at its end: a line feed, and a carriage return before it.
-/

namespace ExprLexer

/-- The keyword set a configuration sets: its words checked, or the default words. A bad word
list fails as a run error of the keyword list. -/
def Config.keywordSet (c : Config) : Except RunError KeywordSet :=
  match c.keywords with
  | some ws => (KeywordSet.ofWords? ws).mapError .keywords
  | none => .ok KeywordSet.standard

/-- The settings of a run. -/
structure Session where
  keywords : KeywordSet
  format : DumpFormat
  deriving DecidableEq, Repr

/-- What a dump or a run wrote, and the error that stopped it, if any. -/
structure Outcome where
  written : List UInt8
  error : Option RunError
  deriving DecidableEq, Repr

/-- What was written, as text: the characters at its front, up to a character cut short. -/
def Outcome.output (o : Outcome) : String := String.ofList (Utf8.decodeFront o.written)

/-- The error of a write that did not fit, by its stage: the JSON body fails as a JSON error,
every other write as a failure of output. -/
def Stage.error : Stage → RunError
  | .line => .io .sinkFull
  | .body => .json .sinkFull
  | .finalBreak => .io .sinkFull

/-- Dumps `ts` in format `f` into a sink with room for `room` bytes, or without a limit. -/
def writeTokens (ts : List Token) (f : DumpFormat) (room : Option Nat) : Outcome :=
  let d := deliver room (Dump.pieces f ts)
  ⟨d.accepted, d.overflow.map Stage.error⟩

namespace Session

/-- The session of a configuration; `format` wins over the configured format. -/
def ofConfig (c : Config) (format : Option DumpFormat) : Except RunError Session :=
  match c.keywordSet with
  | .error e => .error e
  | .ok k => .ok ⟨k, format.getD c.format⟩

/-- The event of a session being made. -/
def createdEvent (s : Session) : Event :=
  ⟨.info, Event.sessionTarget, "session created",
    [("keywords", toString s.keywords.size), ("format", s.format.label)]⟩

/-- Scans `source` and dumps its tokens; a lexical error writes nothing. -/
def run (s : Session) (source : String) (room : Option Nat) : Outcome :=
  match tokenize source s.keywords with
  | .error e => ⟨[], some (.lex e)⟩
  | .ok ts => writeTokens ts s.format room

end Session

/-- Drops one line break at the end of a text: a line feed, and a carriage return before it. -/
def stripLineEnd (s : String) : String :=
  match s.toList.reverse with
  | '\n' :: '\r' :: rest => String.ofList rest.reverse
  | '\n' :: rest => String.ofList rest.reverse
  | _ => s

/-- Where the source of a run comes from. -/
inductive SourceInput where
  | expr (text : String)
  | file (path : String)
  | stdin
  deriving DecidableEq, Repr

namespace SourceInput

/-- The events of reading a source. -/
def events : SourceInput → List Event
  | .file path => [Event.readingSource path]
  | _ => []

/-- The text of bytes read, without its last line break. -/
def ofBytes (r : Except IoError (List UInt8)) : Except RunError String :=
  match r with
  | .error e => .error (.io e)
  | .ok bytes => match Utf8.decodeString? bytes with
    | some text => .ok (stripLineEnd text)
    | none => .error (.io .invalidData)

/-- The source text. -/
def read {m : Type → Type} [Monad m] (host : Host m) : SourceInput → m (Except RunError String)
  | .expr text => pure (.ok text)
  | .file path => ofBytes <$> host.readFile path
  | .stdin => ofBytes <$> host.readStdin

end SourceInput

end ExprLexer
