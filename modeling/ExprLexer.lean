import ExprLexer.Text.CodeRanges
import ExprLexer.Text.Printable
import ExprLexer.Text.GraphemeExtend
import ExprLexer.Text.Quote
import ExprLexer.Text.Utf8
import ExprLexer.Text.Alphanumeric
import ExprLexer.CharClass
import ExprLexer.Span
import ExprLexer.Keyword
import ExprLexer.Token
import ExprLexer.Cursor
import ExprLexer.Lexer.Error
import ExprLexer.Lexer.Basic
import ExprLexer.Lexer.Scan
import ExprLexer.Lexer.Step
import ExprLexer.Lexer.Iterate
import ExprLexer.Lexer.Grammar
import ExprLexer.Diagnostic
import ExprLexer.Text.JsonString
import ExprLexer.Dump
import ExprLexer.Toml.Value
import ExprLexer.Toml.Scalar
import ExprLexer.Toml.Document
import ExprLexer.Toml.Reader
import ExprLexer.Toml.Writer
import ExprLexer.Toml.Codec
import ExprLexer.Config
import ExprLexer.Files
import ExprLexer.Host
import ExprLexer.RunError
import ExprLexer.ConfigFile
import ExprLexer.Log.Event
import ExprLexer.Session
import ExprLexer.Log.Pattern
import ExprLexer.Log.Filter
import ExprLexer.Cli.Args
import ExprLexer.Cli.Program
import ExprLexer.Main
import ExprLexer.Proofs.Utf8
import ExprLexer.Proofs.Grammar
import ExprLexer.Proofs.Cursor
import ExprLexer.Proofs.Step
import ExprLexer.Proofs.Scan
import ExprLexer.Proofs.Tokenize
import ExprLexer.Proofs.Calls
import ExprLexer.Proofs.Iterate
import ExprLexer.Proofs.Keywords
import ExprLexer.Proofs.TomlRead
import ExprLexer.Proofs.TomlRoundTrip
import ExprLexer.Proofs.Files
import ExprLexer.Proofs.ConfigFile
import ExprLexer.Proofs.Progress
import ExprLexer.Proofs.KeywordCheck
import ExprLexer.Proofs.Diagnostic
import ExprLexer.Proofs.SubScans
import ExprLexer.Proofs.Walk
import ExprLexer.Proofs.Sink
