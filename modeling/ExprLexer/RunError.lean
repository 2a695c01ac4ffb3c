import ExprLexer.Config
import ExprLexer.Files
import ExprLexer.Lexer.Error
import ExprLexer.Keyword

/-!
# Run errors

What can stop a run of the tool: the configuration, the keyword list it sets, the source, the
files, or the sink of a JSON dump. Each is reported by one sentence, whose first words name the
part that failed; the failure inside it, if any, is its cause.
-/

namespace ExprLexer

/-- Why a run stopped. -/
inductive RunError where
  | config (e : ConfigError)
  | keywords (e : KeywordError)
  | lex (e : LexError)
  | io (e : IoError)
  /-- A JSON dump could not be written out. -/
  | json (e : IoError)
  deriving DecidableEq, Repr

namespace RunError

/-- The sentence that reports the error. -/
def message : RunError → String
  | .config e => "Configuration error: " ++ e.message
  | .keywords e => "Configuration error: " ++ e.message
  | .lex e => e.message
  | .io e => "IO error: " ++ e.message
  | .json e => "JSON error: " ++ e.message

/-- The sentence without a configuration reader's own diagnostic. -/
def summary : RunError → String
  | .config e => "Configuration error: " ++ e.summary
  | e => e.message

/-- The sentence of the failure inside, if the error wraps one. -/
def cause? : RunError → Option String
  | .config _ => none
  | .keywords e => some e.message
  | .lex e => some e.message
  | .io e => some e.message
  | .json e => some e.message

/-- The error written with its parts spelled out, for the errors of configuration and source. -/
def detail? : RunError → Option String
  | .config e => some ("Config(" ++ Text.quoteString e.message ++ ")")
  | .keywords e => some ("Keywords(" ++ e.detail ++ ")")
  | .lex e => some ("Lex(" ++ e.detail ++ ")")
  | .io _ | .json _ => none

end RunError

end ExprLexer
