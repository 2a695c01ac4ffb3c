import ExprLexer.Token
import ExprLexer.Text.JsonString

/-!
# Token dumps

A dump writes a token list in one of two formats. The text format writes the line of each token
(`Token.toText`) and a line break after it. The JSON format writes a pretty-printed array of
records with the fields `kind`, `text` (for the kinds that carry text only), `start` and `end`,
indented by two spaces a level, and then a line break; an empty array is written `[]`.

A dump may go to a sink that has room for only so many bytes. The sink then holds the first
bytes of the whole dump, as many as fit, even where that cuts a character, and the write that
did not fit is reported by its stage: a text line, the JSON body, or the line break after the
body. A write of no bytes always fits.
-/

namespace ExprLexer

/-- The two formats of a token dump. -/
inductive DumpFormat where
  | text
  | json
  deriving DecidableEq, Repr

namespace DumpFormat

/-- The name of a format in configuration files and on the command line. -/
def name : DumpFormat → String
  | .text => "text"
  | .json => "json"

/-- The format of a name, which is matched exactly. -/
def ofName? : String → Option DumpFormat
  | "text" => some .text
  | "json" => some .json
  | _ => none

/-- The format as log lines show it. -/
def label : DumpFormat → String
  | .text => "Text"
  | .json => "Json"

end DumpFormat

/-- The write of a dump that a piece of output belongs to. -/
inductive Stage where
  /-- One line of a text dump. -/
  | line
  /-- The body of a JSON dump. -/
  | body
  /-- The line break after a JSON body. -/
  | finalBreak
  deriving DecidableEq, Repr

/-- A piece of output, with the write it belongs to. -/
structure Piece where
  stage : Stage
  text : String
  deriving DecidableEq, Repr

namespace Dump

/-- The JSON record of a token, indented as the second level of the array. -/
def record (t : Token) : String :=
  let text := match t.text with
    | some s => "    \"text\": " ++ Text.jsonQuote s ++ ",\n"
    | none => ""
  "  \x7b\n    \"kind\": " ++ Text.jsonQuote t.kind.name ++ ",\n" ++ text ++
    "    \"start\": " ++ toString t.span.start ++ ",\n    \"end\": " ++ toString t.span.stop ++
    "\n  \x7d"

/-- The pretty-printed JSON array of the records of `ts`, without a final line break. -/
def jsonBody : List Token → List Char
  | [] => ['[', ']']
  | ts => ("[\n" ++ ",\n".intercalate (ts.map record) ++ "\n]").toList

/-- The writes of a dump, in order. -/
def pieces : DumpFormat → List Token → List Piece
  | .text, ts => ts.map fun t => ⟨.line, t.toText ++ "\n"⟩
  | .json, ts => [⟨.body, String.ofList (jsonBody ts)⟩, ⟨.finalBreak, "\n"⟩]

/-- The whole dump. -/
def render (f : DumpFormat) (ts : List Token) : String :=
  String.join ((pieces f ts).map (·.text))

end Dump

/-- The bytes of a piece of output. -/
def Piece.bytes (p : Piece) : List UInt8 := (Utf8.bytes p.text).toList

/-- What a sink holds after a dump, and the stage of the write that did not fit, if any. -/
structure Delivery where
  accepted : List UInt8
  overflow : Option Stage
  deriving DecidableEq, Repr

/-- Writes pieces into a sink with room for `room` bytes, or without a limit. A write that does
not fit leaves as many of its first bytes as there is room for, and fails. -/
def deliver : Option Nat → List Piece → Delivery
  | none, ps => ⟨ps.flatMap Piece.bytes, none⟩
  | some _, [] => ⟨[], none⟩
  | some n, p :: ps =>
    if p.bytes.length ≤ n then
      let d := deliver (some (n - p.bytes.length)) ps
      ⟨p.bytes ++ d.accepted, d.overflow⟩
    else ⟨p.bytes.take n, some p.stage⟩

end ExprLexer
