import ExprLexer.Dump
import ExprLexer.Toml.Codec

/-!
# Configuration

A configuration sets the reserved words, `lexer.keywords`, a list of texts or absent for the
default words, and the dump format, `output.format`, `"text"` or `"json"` and text when absent;
the format may also be written as a table whose one key is its name, over an empty table or
array.
It is kept in a TOML document, written and read by a TOML library given as a `Toml.Codec`. Keys and tables that it does not know are ignored; a known key of
the wrong type, or a format of another name, makes the document no configuration. A section
written as an array instead of a table stands for its one setting by its first element.
-/

namespace ExprLexer

/-- The settings of a configuration file. -/
structure Config where
  keywords : Option (List String)
  format : DumpFormat
  deriving DecidableEq, Repr

/-- Why no configuration was read. -/
inductive ConfigError where
  /-- No file exists at `path`. -/
  | notFound (path : String)
  /-- The text is no TOML document. -/
  | unreadable (e : Toml.ParseError)
  /-- A known setting has a value of the wrong type. -/
  | mistyped
  deriving DecidableEq, Repr

namespace ConfigError

/-- The sentence that reports the error. -/
def message : ConfigError → String
  | .notFound path => "Configuration file not found: " ++ path
  | .unreadable e => "Failed to parse configuration: " ++ e.message
  | .mistyped => "Failed to parse configuration: invalid type"

/-- The sentence without the reader's own diagnostic. -/
def summary : ConfigError → String
  | .notFound path => "Configuration file not found: " ++ path
  | .unreadable _ | .mistyped => "Failed to parse configuration"

end ConfigError

namespace Config

/-- No reserved words set, and text dumps. -/
def default : Config := ⟨none, .text⟩

/-- The name of a configuration file. -/
def fileName : String := "uitc.toml"

/-- The texts of an array of strings. -/
def stringList? : Toml.Value → Option (List String)
  | .array items => items.mapM fun
    | .string s => some s
    | _ => none
  | _ => none

/-- The one setting `k` of a section: the value at `k` of a table, or the first element of an
array; `some none` when it is not set, `none` when the section is of another type. -/
def setting? (k : String) : Option Toml.Value → Option (Option Toml.Value)
  | none => some none
  | some (.table es) => some (es.lookup k)
  | some (.array items) => some items.head?
  | some _ => none

/-- The format a setting names: a name as a string, or a table of one entry whose key is the name
and whose value is empty, an empty table or an empty array. -/
def formatOf? : Toml.Value → Option DumpFormat
  | .string s => DumpFormat.ofName? s
  | .table [(name, .table [])] | .table [(name, .array [])] => DumpFormat.ofName? name
  | _ => none

/-- The configuration a TOML document sets, if its settings have the right types. -/
def ofToml? : Toml.Value → Option Config
  | .table root => do
    let keywords ← match ← setting? "keywords" (root.lookup "lexer") with
      | none => some none
      | some v => (stringList? v).map some
    let format ← match ← setting? "format" (root.lookup "output") with
      | none => some .text
      | some v => formatOf? v
    pure ⟨keywords, format⟩
  | _ => none

/-- The configuration as a TOML document: a `lexer` table with the keywords if set, and an
`output` table with the format. -/
def toToml (c : Config) : List (String × Toml.Value) :=
  let lexer := match c.keywords with
    | some ws => [("keywords", Toml.Value.array (ws.map .string))]
    | none => []
  [("lexer", .table lexer), ("output", .table [("format", .string c.format.name)])]

/-- The text of a configuration file, as the TOML library `codec` writes it. -/
def toText (codec : Toml.Codec) (c : Config) : String := codec.render c.toToml

/-- The configuration a file's text sets, as the TOML library `codec` reads it. -/
def ofText (codec : Toml.Codec) (text : String) : Except ConfigError Config :=
  match codec.parse text with
  | .error e => .error (.unreadable e)
  | .ok doc => match ofToml? doc with
    | some c => .ok c
    | none => .error .mistyped

end Config

end ExprLexer
