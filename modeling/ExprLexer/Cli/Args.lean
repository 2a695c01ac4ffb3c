import ExprLexer.Session
import ExprLexer.Log.Filter

/-!
# Command-line arguments

The command line is `[OPTIONS] tokens [OPTIONS] [FILE]`. Three options hold anywhere on it:
`-v`/`--verbose`, `-c`/`--config PATH` and `--no-color`; after the command `tokens` come also
`-e`/`--expr EXPR` and `-F`/`--format text|json`, and at most one file. An option's value is the
rest of its word (after `=` for a long option, after the letter or `=` for a short one) or the
next word when that does not begin with `-`; short options may be grouped in one word. After
`--` every word is a file. An expression and a file exclude each other; with neither, the source
is standard input.

Where the command line leaves them unset, the environment gives the options: `UITC_VERBOSE` and
`UITC_NO_COLOR` hold `true` or `false`, `UITC_CONFIG` a path; an empty variable is unset.
-/

namespace ExprLexer

/-- Why a command line is not understood. -/
inductive UsageError where
  | unexpected (arg : String)
  | missingValue (option : String)
  | invalidValue (option : String) (value : String)
  | missingCommand
  | conflict
  deriving DecidableEq, Repr

/-- The sentence that reports a usage error. -/
def UsageError.message : UsageError → String
  | .unexpected a => "error: unexpected argument '" ++ a ++ "' found"
  | .missingValue o => "error: a value is required for '" ++ o ++ "' but none was supplied"
  | .invalidValue o v => "error: invalid value '" ++ v ++ "' for '" ++ o ++ "'"
  | .missingCommand => "error: 'uitc' requires a subcommand but one was not provided"
  | .conflict => "error: the argument '--expr <EXPR>' cannot be used with '[FILE]'"

/-- The options that take a value. -/
inductive ValueOption where
  | config
  | expr
  | format
  deriving DecidableEq, Repr

/-- The long name of an option, as usage errors write it. -/
def ValueOption.name : ValueOption → String
  | .config => "--config <CONFIG>"
  | .expr => "--expr <EXPR>"
  | .format => "--format <FORMAT>"

/-- What a command line asks for. -/
structure Invocation where
  verbose : Bool := false
  noColor : Bool := false
  config : Option String := none
  command : Bool := false
  expr : Option String := none
  file : Option String := none
  format : Option DumpFormat := none
  deriving DecidableEq, Repr

namespace Invocation

/-- Sets an option to its value. -/
def setValue (inv : Invocation) : ValueOption → String → Except UsageError Invocation
  | .config, v => .ok { inv with config := some v }
  | .expr, v => .ok { inv with expr := some v }
  | .format, v => match DumpFormat.ofName? v with
    | some f => .ok { inv with format := some f }
    | none => .error (.invalidValue "--format <FORMAT>" v)

/-- The option of a long name, as a flag setter or a value option. -/
def long? (inv : Invocation) (name : String) : Option (Sum Invocation ValueOption) :=
  match name with
  | "verbose" => some (.inl { inv with verbose := true })
  | "no-color" => some (.inl { inv with noColor := true })
  | "config" => some (.inr .config)
  | "expr" => if inv.command then some (.inr .expr) else none
  | "format" => if inv.command then some (.inr .format) else none
  | _ => none

/-- The option of a short letter. -/
def short? (inv : Invocation) (c : Char) : Option (Sum Invocation ValueOption) :=
  match c with
  | 'v' => some (.inl { inv with verbose := true })
  | 'c' => some (.inr .config)
  | 'e' => if inv.command then some (.inr .expr) else none
  | 'F' => if inv.command then some (.inr .format) else none
  | _ => none

/-- A grouped word of short options, without its dash: the options set, and the option that
still waits for its value in the next word, if any. -/
def shorts (arg : String) : Invocation → List Char → Except UsageError (Invocation × Option ValueOption)
  | inv, [] => .ok (inv, none)
  | inv, c :: rest =>
    match inv.short? c with
    | some (.inl inv) => shorts arg inv rest
    | some (.inr o) =>
      match rest with
      | [] => .ok (inv, some o)
      | '=' :: v | v => do
        let inv ← inv.setValue o (String.ofList v)
        pure (inv, none)
    | none => .error (.unexpected arg)

/-- Whether a word can be the value of an option. -/
def isValueWord (w : String) : Bool := !w.startsWith "-" || w == "-"

/-- A word that is no option: the command, then the file. -/
def positional (inv : Invocation) (w : String) : Except UsageError Invocation :=
  if !inv.command then
    if w == "tokens" then .ok { inv with command := true } else .error (.unexpected w)
  else if inv.file.isNone then .ok { inv with file := some w }
  else .error (.unexpected w)

/-- Reads the words of a command line after the program name. -/
def parseWords : Invocation → List String → Except UsageError Invocation
  | inv, [] => .ok inv
  | inv, "--" :: rest => rest.foldlM positional inv
  | inv, w :: rest =>
    let take (o : ValueOption) : Except UsageError Invocation :=
      match rest with
      | v :: rest' =>
        if isValueWord v then do parseWords (← inv.setValue o v) rest'
        else .error (.missingValue o.name)
      | [] => .error (.missingValue o.name)
    if w.startsWith "--" then
      let body := (w.drop 2).toString
      let (name, value) := match body.splitOn "=" with
        | n :: v :: more => (n, some ("=".intercalate (v :: more)))
        | _ => (body, none)
      match inv.long? name, value with
      | some (.inl inv), none => parseWords inv rest
      | some (.inr o), some v => do parseWords (← inv.setValue o v) rest
      | some (.inr o), none => take o
      | _, _ => .error (.unexpected w)
    else if w.startsWith "-" && w != "-" then
      match shorts w inv (w.drop 1).toString.toList with
      | .ok (inv, none) => parseWords inv rest
      | .ok (inv, some o) =>
        match rest with
        | v :: rest' =>
          if isValueWord v then do parseWords (← inv.setValue o v) rest'
          else .error (.missingValue o.name)
        | [] => .error (.missingValue o.name)
      | .error e => .error e
    else do parseWords (← inv.positional w) rest

/-- A flag's value from the environment: `true` or `false`; an empty or missing variable is
unset. -/
def envFlag (env : String → Option String) (var : String) : Except UsageError (Option Bool) :=
  match env var with
  | none | some "" => .ok none
  | some "true" => .ok (some true)
  | some "false" => .ok (some false)
  | some v => .error (.invalidValue var v)

/-- The invocation of a command line, with the environment filling what it leaves unset. -/
def parse (args : List String) (env : String → Option String) : Except UsageError Invocation := do
  let inv ← parseWords {} args
  if !inv.command then throw .missingCommand
  if inv.expr.isSome && inv.file.isSome then throw .conflict
  let verbose ← envFlag env "UITC_VERBOSE"
  let noColor ← envFlag env "UITC_NO_COLOR"
  let config := match env "UITC_CONFIG" with
    | none | some "" => none
    | some p => some p
  pure { inv with
    verbose := inv.verbose || verbose.getD false
    noColor := inv.noColor || noColor.getD false
    config := inv.config.or config }

/-- Where the source comes from: the expression, else the file, else standard input. -/
def source (inv : Invocation) : SourceInput :=
  match inv.expr, inv.file with
  | some e, _ => .expr e
  | none, some p => .file p
  | none, none => .stdin

/-- The log filter: the one `RUST_LOG` writes, if it reads as one, else debug events and worse
when verbose, warnings and worse otherwise. -/
def filter (inv : Invocation) (rustLog : Option String) : Filter :=
  let fallback := Filter.ofLevel (if inv.verbose then .debug else .warn)
  match rustLog with
  | some s => (Filter.ofText? s).getD fallback
  | none => fallback

end Invocation

end ExprLexer
