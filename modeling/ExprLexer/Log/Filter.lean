import ExprLexer.Log.Event
import ExprLexer.Log.Pattern
import ExprLexer.Text.Utf8

/-!
# Log filters

A filter decides which events are written. It is a list of directives. A directive gives a level
filter, and may restrict itself to a target (and every target that the directive's target
begins), to events inside a named span, and to events with certain fields.

A filter is written as directives separated by commas, empty ones skipped; one malformed
directive makes the whole text no filter. A directive is read character by character, with its
white space at both ends left out; the parts it cuts out are taken at the same byte offsets of
the text with that white space kept, so white space in front shifts every part, and a cut that
falls inside a character makes the directive malformed. The reading goes:

* The first character is `[`, which opens a span part, or a letter, a digit, `-`, `:` or `_`.
* Otherwise the directive's first part runs to the first `=` or `[`: the target. After `=`, all
  the rest is the level. A first part that runs to the end is a level if it reads as one, and a
  target otherwise.
* A span part is a name, then `]`, or fields in braces and then `]`; after it may come only `=`
  and a level. A field is a name, or a name, `=` and a value, which must be well-formed
  (`Pattern.isValue`); an empty field is malformed.
* A directive that ends inside a span part or its fields is malformed.

A level is `off`, `error`, `warn`, `info`, `debug` or `trace` in any ASCII case, or a decimal
number from 0 (off) to 5 (trace) with an optional `+`. An empty level after `=`, and a directive
without a level, let everything through.

Events here happen inside no span, so only the directives that name no span and no field value
decide (`Directive.isStatic`). Of those that cover an event, the most specific decides: the one
with the longest target, then the most field names, then the greatest target and field names;
of two with the same target and field names the later one counts. An event that no directive
covers is not written.
-/

namespace ExprLexer

/-- How verbose the events let through may be: none, or up to a level. -/
inductive LevelFilter where
  | off
  | upTo (l : Level)
  deriving DecidableEq, Repr

namespace LevelFilter

/-- Whether an event of level `l` passes. -/
def allows : LevelFilter → Level → Bool
  | .off, _ => false
  | .upTo m, l => l.rank ≤ m.rank

/-- The level filter of a number from 0 to 5. -/
def ofRank? : Nat → Option LevelFilter
  | 0 => some .off
  | 1 => some (.upTo .error)
  | 2 => some (.upTo .warn)
  | 3 => some (.upTo .info)
  | 4 => some (.upTo .debug)
  | 5 => some (.upTo .trace)
  | _ => none

/-- The level filter a text names: a decimal number with an optional `+`, a level name in any
ASCII case, or the empty text for errors only (which a directive never hands it). -/
def ofText? (s : String) : Option LevelFilter :=
  let digits := match s.toList with
    | '+' :: ds => ds
    | ds => ds
  if !digits.isEmpty && digits.all Char.isDigit then
    ofRank? (digits.foldl (fun n c => 10 * n + (c.toNat - '0'.toNat)) 0)
  else
    match String.ofList (s.toList.map Char.toLower) with
    | "" | "error" => some (.upTo .error)
    | "warn" => some (.upTo .warn)
    | "info" => some (.upTo .info)
    | "debug" => some (.upTo .debug)
    | "trace" => some (.upTo .trace)
    | "off" => some .off
    | _ => none

end LevelFilter

/-- A condition on a field of an event: its name, and the value it must have, if any. -/
structure FieldMatch where
  name : String
  value : Option String
  deriving DecidableEq, Repr

/-- The field condition a text writes: the name up to the first `=`, and the text after it up to
the next `=` as the value, which must be well-formed. -/
def FieldMatch.ofText? (s : String) : Option FieldMatch :=
  match s.splitOn "=" with
  | n :: v :: _ => if Pattern.isValue v then some ⟨n, some v⟩ else none
  | n :: [] => some ⟨n, none⟩
  | [] => some ⟨"", none⟩

/-- A level filter for the events of a target, a span and fields. -/
structure Directive where
  target : Option String
  span : Option String
  fields : List FieldMatch
  level : LevelFilter
  deriving DecidableEq, Repr

namespace Directive

/-- The directive that lets every event through. -/
def all : Directive := ⟨none, none, [], .upTo .trace⟩

/-- Where the reading of a directive stands, with the byte offset at which the current part
began. -/
inductive Reading where
  | start
  | levelOrTarget (start : Nat)
  | span (start : Nat)
  | field (start : Nat)
  | fields
  | target
  | level (start : Nat)
  deriving DecidableEq, Repr

/-- Reads the characters `cs`, which begin at byte `i`, into the directive `d` from the reading
`r`; the parts are cut out of the bytes `bs`. -/
def read (bs : Array UInt8) : Reading → Directive → Nat → List Char → Option (Reading × Directive)
  | r, d, _, [] => some (r, d)
  | r, d, i, c :: cs =>
    let j := i + c.utf8Size
    match r with
    | .start =>
      if c == '[' then read bs (.span j) d j cs
      else if c == '-' || c == ':' || c == '_' || Text.isAlphanumeric c then
        read bs (.levelOrTarget i) d j cs
      else none
    | .levelOrTarget s =>
      if c == '=' || c == '[' then do
        let t ← Utf8.slice? bs s i
        read bs (if c == '=' then .level j else .span j) { d with target := some t } j cs
      else read bs r d j cs
    | .span s =>
      if c == ']' then do
        let n ← Utf8.slice? bs s i
        read bs .target { d with span := some n } j cs
      else if c == '\x7b' then do
        let n ← Utf8.slice? bs s i
        read bs (.field j) { d with span := if n.isEmpty then none else some n } j cs
      else read bs r d j cs
    | .field s =>
      if c == '\x7d' then do
        let f ← Utf8.slice? bs s i
        let m ← if f.isEmpty then none else FieldMatch.ofText? f
        read bs .fields { d with fields := d.fields ++ [m] } j cs
      else read bs r d j cs
    | .fields => if c == ']' then read bs .target d j cs else none
    | .target => if c == '=' then read bs (.level j) d j cs else none
    | .level _ => read bs r d j cs

/-- The directive a text stands for. -/
def ofText? (s : String) : Option Directive :=
  let bs := Utf8.bytes s
  match read bs .start all 0 (Text.trimWhiteSpace s.toList) with
  | some (.levelOrTarget st, d) => do
    let t ← Utf8.slice? bs st bs.size
    match LevelFilter.ofText? t with
    | some l => some { d with level := l }
    | none => some { d with target := some t }
  | some (.level st, d) => do
    let t ← Utf8.slice? bs st bs.size
    if t.isEmpty then some { d with level := .upTo .trace }
    else (LevelFilter.ofText? t).map fun l => { d with level := l }
  | some (.target, d) => some d
  | _ => none

/-- Whether the directive decides outside spans: it names no span and no field value. -/
def isStatic (d : Directive) : Bool := d.span.isNone && d.fields.all (·.value.isNone)

/-- The names of the fields the directive asks for. -/
def fieldNames (d : Directive) : List String := d.fields.map (·.name)

/-- Whether the directive covers an event: its target begins the event's, and the event has
every field it names. -/
def covers (d : Directive) (e : Event) : Bool :=
  (match d.target with
    | some t => t.toList.isPrefixOf e.target.toList
    | none => true) &&
  d.fieldNames.all (fun n => n == "message" || e.fields.any (·.1 == n))

end Directive

/-- Compares two optional values, none first. -/
def compareOption {α : Type} (cmp : α → α → Ordering) : Option α → Option α → Ordering
  | none, none => .eq
  | none, some _ => .lt
  | some _, none => .gt
  | some a, some b => cmp a b

/-- Compares two lists of strings element by element, a proper prefix first. -/
def compareNames : List String → List String → Ordering
  | [], [] => .eq
  | [], _ :: _ => .lt
  | _ :: _, [] => .gt
  | a :: as, b :: bs => (compare a b).then (compareNames as bs)

/-- How specific a directive is: by the byte length of its target (none is least), the number of
its field names, its target and its field names. -/
def Directive.compareSpecific (a b : Directive) : Ordering :=
  (compareOption compare (a.target.map String.utf8ByteSize) (b.target.map String.utf8ByteSize)).then
    ((compare a.fieldNames.length b.fieldNames.length).then
      ((compareOption compare a.target b.target).then (compareNames a.fieldNames b.fieldNames)))

/-- A list of directives. -/
structure Filter where
  directives : List Directive
  deriving DecidableEq, Repr

namespace Filter

/-- The filter of one directive for all targets. -/
def ofLevel (l : Level) : Filter := ⟨[{ Directive.all with level := .upTo l }]⟩

/-- The filter a text stands for; the empty text lets nothing through. -/
def ofText? (s : String) : Option Filter :=
  ((s.splitOn ",").filter (· != "")).mapM Directive.ofText? |>.map Filter.mk

/-- The directive that decides for `e`: the most specific static directive that covers it, the
later of two equally specific ones. -/
def decider (f : Filter) (e : Event) : Option Directive :=
  f.directives.foldl (fun best d =>
    if d.isStatic && d.covers e then
      match best with
      | some b => if b.compareSpecific d == .gt then some b else some d
      | none => some d
    else best) none

/-- Whether the filter lets `e` through. -/
def allows (f : Filter) (e : Event) : Bool :=
  match f.decider e with
  | some d => d.level.allows e.level
  | none => false

end Filter

end ExprLexer
