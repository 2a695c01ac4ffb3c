import ExprLexer.Text.Alphanumeric

/-!
# Value patterns

A directive of a log filter may ask that a field have a value. The value is written as a
boolean, a number, or a *pattern*: a regular expression, which a field value matches when the
expression matches its text. This module decides which texts are well-formed values; a filter
with a value that is not is malformed as a whole.

The regular expressions have the usual operators (`|`, `*`, `+`, `?`, counted repetition
`{n}`, `{n,}` and `{n,m}`, all of them lazy with a `?` after them), groups (plain, named with
`(?P<name>…)` or `(?<name>…)`, and non-capturing with flags `(?flags:…)`), flags for the rest of
a group `(?flags)`, classes in brackets with ranges, nested classes, the named classes
`[:alpha:]` and the set operations `&&`, `--` and `~~`, and escapes: meta characters, ASCII
punctuation, control characters, hexadecimal code points, the digit, space and word classes and
the assertions. With the flag `x`, white space and comments from `#` to the end of the line are
left out between the parts, inside classes too.

What is refused, first as syntax:

* look-around and back-references;
* a repetition with nothing before it, a count that is not a decimal below 2³², and a count
  range `{n,m}` with `n > m`;
* an unknown escape or flag, and a hexadecimal escape that is no code point;
* a group or class left open, a `)` without its `(`, a group name that is empty, malformed or
  used twice;
* a class range whose ends are out of order or not characters;
* syntax that nests deeper than `nestLimit`: every group, repetition, alternation, sequence of
  two or more parts, class in brackets, union of two or more class items and set operation is
  one level deeper than the parts inside it.

Then as something the matcher cannot match. It carries no Unicode tables, so with Unicode on it
knows no digit, space or word class, no property class `\p{…}`, no case folding (so no character
or class under `i`), and no word boundary. With Unicode off (`(?-u)`) it matches bytes, and
refuses what could match a byte outside ASCII, which is no UTF-8: the dot, negated classes, the
complements of the digit, space and word classes, and escapes of bytes past 0x7F.
-/

namespace ExprLexer.Pattern

open Text (isAlphabetic isAlphanumeric isWhiteSpace)

/-- The deepest that the syntax of a pattern may nest. -/
def nestLimit : Nat := 250

/-- The flags in force where a part of a pattern is read. -/
structure Flags where
  /-- `u`: the pattern matches Unicode characters, not bytes. -/
  unicode : Bool
  /-- `i`: letters match in either case. -/
  caseless : Bool
  /-- `x`: white space and comments between the parts are left out. -/
  extended : Bool
  deriving DecidableEq, Repr

/-- The flags at the start of a pattern: Unicode on, the others off. -/
def Flags.initial : Flags := ⟨true, false, false⟩

/-- Leaves out white space and comments, which run from `#` to the end of the line; `inComment`
when reading inside one. -/
def skipSpace (inComment : Bool) : List Char → List Char
  | [] => []
  | c :: r =>
    if inComment then skipSpace (c != '\n') r
    else if isWhiteSpace c then skipSpace false r
    else if c == '#' then skipSpace true r
    else c :: r

/-- What the reader sees next under the flags: with `x`, white space and comments left out. -/
def Flags.space (fl : Flags) (cs : List Char) : List Char :=
  if fl.extended then skipSpace false cs else cs

/-- What an escape `\…` stands for. -/
inductive Escape where
  /-- One character, by its code point. -/
  | literal (code : Nat)
  /-- A digit, space or word class, or its complement when `negated`. -/
  | perl (negated : Bool)
  /-- A zero-width assertion; `wordBoundary` for those about the edges of words. -/
  | assertion (wordBoundary : Bool)
  deriving DecidableEq, Repr

/-- Whether the matcher can match an escape under the flags, inside a class or not. With
Unicode on it has no digit, space or word class and no word boundary, and outside a class it
cannot fold the case of a character (a class is refused as a whole); with Unicode off, an
escape must stand for ASCII only. -/
def Escape.allowed (fl : Flags) (inClass : Bool) : Escape → Bool
  | .literal n => if fl.unicode then inClass || !fl.caseless else n < 0x80
  | .perl negated => !fl.unicode && !negated
  | .assertion wordBoundary => !inClass && (!wordBoundary || !fl.unicode)

/-- The characters with a meaning of their own in a pattern. -/
def metaCharacters : List Char :=
  ['\\', '.', '+', '*', '?', '(', ')', '|', '[', ']', '\x7b', '\x7d', '^', '$', '#', '&', '-',
    '~']

/-- Whether `\c` stands for `c` itself: for a meta character, and for any ASCII character that is
no letter, digit, `<` or `>`. -/
def escapesToItself (c : Char) : Bool :=
  metaCharacters.contains c || (c.toNat < 0x80 && !c.isAlphanum && c != '<' && c != '>')

/-- Whether a character is a hexadecimal digit. -/
def isHexDigit (c : Char) : Bool :=
  c.isDigit || ('a'.toNat ≤ c.toNat && c.toNat ≤ 'f'.toNat) ||
    ('A'.toNat ≤ c.toNat && c.toNat ≤ 'F'.toNat)

/-- The value of a hexadecimal digit. -/
def hexDigitValue (c : Char) : Nat :=
  if c.isDigit then c.toNat - '0'.toNat
  else if c.toNat ≤ 'F'.toNat then c.toNat - 'A'.toNat + 10
  else c.toNat - 'a'.toNat + 10

/-- The number that hexadecimal digits write. -/
def hexValue (ds : List Char) : Nat := ds.foldl (fun n c => 16 * n + hexDigitValue c) 0

/-- The number that decimal digits write. -/
def decimalValue (ds : List Char) : Nat := ds.foldl (fun n c => 10 * n + (c.toNat - '0'.toNat)) 0

/-- Whether a number is a code point of a character: at most U+10FFFF, and no surrogate. -/
def isScalar (n : Nat) : Bool := n ≤ 0x10FFFF && !(0xD800 ≤ n && n ≤ 0xDFFF)

/-- Exactly `width` hexadecimal digits, and what follows them. -/
def hexDigits (fl : Flags) : Nat → List Char → Option (List Char × List Char)
  | 0, cs => some ([], cs)
  | w + 1, c :: r =>
    if isHexDigit c then (hexDigits fl w (fl.space r)).map fun (ds, rest) => (c :: ds, rest)
    else none
  | _ + 1, [] => none

/-- Hexadecimal digits up to a closing brace, and what follows the brace, within `fuel`
characters. -/
def hexBraced (fl : Flags) : Nat → List Char → Option (List Char × List Char)
  | 0, _ => none
  | _ + 1, [] => none
  | n + 1, c :: r =>
    if c == '\x7d' then some ([], r)
    else if isHexDigit c then (hexBraced fl n (fl.space r)).map fun (ds, rest) => (c :: ds, rest)
    else none

/-- A hexadecimal escape after its letter: exactly `width` digits, or any number of them in
braces, writing a code point. -/
def hexEscape (fl : Flags) (width : Nat) (cs : List Char) : Option (Escape × List Char) :=
  match fl.space cs with
  | '\x7b' :: r => do
    let (ds, rest) ← hexBraced fl (r.length + 1) (fl.space r)
    if !ds.isEmpty && isScalar (hexValue ds) then some (.literal (hexValue ds), fl.space rest)
    else none
  | cs => do
    let (ds, rest) ← hexDigits fl width cs
    if isScalar (hexValue ds) then some (.literal (hexValue ds), rest) else none

/-- Whether a character may stand in the name of a special word boundary. -/
def isBoundaryNameChar (c : Char) : Bool := c.isAlpha || c == '-'

/-- The name of a special word boundary and what follows it, within `fuel` characters. -/
def boundaryName (fl : Flags) : Nat → List Char → List Char × List Char
  | 0, cs => ([], cs)
  | _ + 1, [] => ([], [])
  | n + 1, c :: r =>
    if isBoundaryNameChar c then
      let (name, rest) := boundaryName fl n (fl.space r)
      (c :: name, rest)
    else ([], c :: r)

/-- What follows `\b`: a special word boundary `\b{start}`, `\b{end}`, `\b{start-half}` or
`\b{end-half}`, or else the plain word boundary, a brace after it then counting a repetition. -/
def wordBoundaryTail (fl : Flags) : List Char → Option (Escape × List Char)
  | '\x7b' :: r =>
    let inside := fl.space r
    match inside with
    | [] => none
    | c :: _ =>
      if isBoundaryNameChar c then
        match boundaryName fl (inside.length + 1) inside with
        | (name, '\x7d' :: rest) =>
          if ["start", "end", "start-half", "end-half"].contains (String.ofList name) then
            some (.assertion true, rest)
          else none
        | _ => none
      else some (.assertion true, '\x7b' :: r)
  | r => some (.assertion true, r)

/-- An escape after its backslash, and the rest. A property class `\p` or `\P` needs Unicode
tables, which the matcher lacks, so it is refused whatever follows. -/
def escape (fl : Flags) : List Char → Option (Escape × List Char)
  | [] => none
  | c :: r =>
    if c.isDigit then none
    else match c with
    | 'x' => hexEscape fl 2 r
    | 'u' => hexEscape fl 4 r
    | 'U' => hexEscape fl 8 r
    | 'p' | 'P' => none
    | 'd' | 's' | 'w' => some (.perl false, r)
    | 'D' | 'S' | 'W' => some (.perl true, r)
    | _ =>
      if escapesToItself c then some (.literal c.toNat, r)
      else match c with
      | 'a' => some (.literal 0x7, r)
      | 'f' => some (.literal 0xC, r)
      | 't' => some (.literal 0x9, r)
      | 'n' => some (.literal 0xA, r)
      | 'r' => some (.literal 0xD, r)
      | 'v' => some (.literal 0xB, r)
      | 'A' | 'z' => some (.assertion false, r)
      | 'b' => wordBoundaryTail fl r
      | 'B' | '<' | '>' => some (.assertion true, r)
      | _ => none

/-- The depth of a node over children of these depths: no child is an empty node, one child
stands for itself, and two or more need a node one level deeper than the deepest of them. -/
def nodeDepth : List Nat → Nat
  | [] => 0
  | [d] => d
  | ds => 1 + ds.foldl max 0

/-- The names of the ASCII classes `[:name:]`. -/
def asciiClassNames : List String :=
  ["alnum", "alpha", "ascii", "blank", "cntrl", "digit", "graph", "lower", "print", "punct",
    "space", "upper", "word", "xdigit"]

/-- An ASCII class `[:name:]` or `[:^name:]` after its `[`: whether it is negated, and the rest;
none when the text is no such class, and the `[` opens a nested class instead. -/
def asciiClass? : List Char → Option (Bool × List Char)
  | ':' :: r =>
    let (negated, r) := match r with
      | '^' :: r => (true, r)
      | r => (false, r)
    let name := String.ofList (r.takeWhile (· != ':'))
    match r.dropWhile (· != ':') with
    | ':' :: ']' :: rest => if asciiClassNames.contains name then some (negated, rest) else none
    | _ => none
  | _ => none

/-- An open class of a nest of classes: the depths of the items of its current union, the last
first, and the depth of the set before its last operator, if there was one. -/
structure ClassFrame where
  items : List Nat
  lhs : Option Nat
  deriving DecidableEq, Repr

/-- The depth of the set of an open class: its union, under the operator before it if any. -/
def ClassFrame.setDepth (f : ClassFrame) : Nat :=
  match f.lhs with
  | none => nodeDepth f.items
  | some l => 1 + max l (nodeDepth f.items)

/-- The `-` that stand for themselves at the start of a class, counted, and what follows them,
within `fuel` characters. -/
def leadingDashes (fl : Flags) : Nat → List Char → Nat × List Char
  | 0, cs => (0, cs)
  | n + 1, '-' :: r =>
    let (k, rest) := leadingDashes fl n (fl.space r)
    (k + 1, rest)
  | _ + 1, cs => (0, cs)

/-- The start of a class after its `[`: an optional `^`, then any `-` and, first of all, a `]`
as characters of the class. Negation needs Unicode on. -/
def classOpen (fl : Flags) (cs : List Char) : Option (ClassFrame × List Char) :=
  let (negated, cs) := match fl.space cs with
    | '^' :: r => (true, fl.space r)
    | r => (false, r)
  if negated && !fl.unicode then none
  else
    match leadingDashes fl (cs.length + 1) cs with
    | (0, ']' :: r) => some (⟨[0], none⟩, fl.space r)
    | (k, r) => some (⟨List.replicate k 0, none⟩, r)

/-- An item of a class: an escape, or a character standing for itself. -/
def classItem (fl : Flags) : List Char → Option (Escape × List Char)
  | '\\' :: r => escape fl r
  | c :: r => some (.literal c.toNat, r)
  | [] => none

/-- The character after a `-` in a class, as the reader peeks at it to tell a range from a
`-` that stands for itself: with `x`, past white space and a `#`, though not past what a
comment holds. -/
def peekSpace (extended : Bool) (rest : List Char) : Option Char :=
  if extended then (go false rest).orElse fun _ => rest.head? else rest.head?
where
  /-- The first character past white space and a first `#`. -/
  go : Bool → List Char → Option Char
    | _, [] => none
    | inComment, c :: r =>
      if isWhiteSpace c then go inComment r
      else if !inComment && c == '#' then go true r
      else some c

/-- The rest of a nest of classes, the innermost open one `f` and those around it `fs`, up to
and past the `]` that closes the outermost: its depth and what follows it. -/
def classBody (fl : Flags) : Nat → ClassFrame → List ClassFrame → List Char →
    Option (Nat × List Char)
  | 0, _, _, _ => none
  | n + 1, f, fs, cs =>
    match fl.space cs with
    | [] => none
    | '[' :: r =>
      match asciiClass? r with
      | some (negated, rest) =>
        if negated && !fl.unicode then none
        else classBody fl n { f with items := 0 :: f.items } fs rest
      | none => do
        let (g, rest) ← classOpen fl r
        classBody fl n g (f :: fs) rest
    | ']' :: r =>
      let d := 1 + f.setDepth
      match fs with
      | [] => some (d, r)
      | g :: gs => classBody fl n { g with items := d :: g.items } gs r
    | '&' :: '&' :: r | '-' :: '-' :: r | '~' :: '~' :: r =>
      classBody fl n ⟨[], some f.setDepth⟩ fs r
    | cs => do
      let (a, r) ← classItem fl cs
      let r := fl.space r
      let isRange := match r with
        | '-' :: rest =>
          match peekSpace fl.extended rest with
          | some ']' | some '-' => false
          | _ => true
        | _ => false
      if r.isEmpty then none
      else if isRange then do
        let (b, r2) ← classItem fl (fl.space (r.drop 1))
        match a, b with
        | .literal x, .literal y =>
          if x ≤ y && a.allowed fl true && b.allowed fl true then
            classBody fl n { f with items := 0 :: f.items } fs r2
          else none
        | _, _ => none
      else if a.allowed fl true then classBody fl n { f with items := 0 :: f.items } fs r
      else none

/-- Decimal digits, and what follows them; with `x`, white space and comments may stand between
the digits. Within `fuel` characters. -/
def spacedDigits (fl : Flags) : Nat → List Char → List Char × List Char
  | 0, cs => ([], cs)
  | _ + 1, [] => ([], [])
  | n + 1, c :: r =>
    if c.isDigit then
      let (ds, rest) := spacedDigits fl n (fl.space r)
      (c :: ds, rest)
    else ([], c :: r)

/-- A decimal count with white space around it: its value, below 2³², and the rest. -/
def decimal (fl : Flags) (cs : List Char) : Option (Nat × List Char) :=
  let cs := cs.dropWhile isWhiteSpace
  let (ds, rest) := spacedDigits fl (cs.length + 1) cs
  if ds.isEmpty || 4294967296 ≤ decimalValue ds then none
  else some (decimalValue ds, if fl.extended then rest else rest.dropWhile isWhiteSpace)

/-- A counted repetition after its `{`: `n}`, `n,}` or `n,m}` with `n ≤ m`, then an optional
`?`. -/
def counted (fl : Flags) (cs : List Char) : Option (List Char) := do
  let (m, r) ← decimal fl (fl.space cs)
  let (ok, r) ← match r with
    | ',' :: r =>
      match fl.space r with
      | '\x7d' :: r => some (true, '\x7d' :: r)
      | r => (decimal fl r).map fun (k, r) => (decide (m ≤ k), r)
    | r => some (true, r)
  match r with
  | '\x7d' :: r =>
    if ok then
      match fl.space r with
      | '?' :: r => some r
      | r => some r
    else none
  | _ => none

/-- The flags of a group `(?…)` up to the `:` or `)` that ends them: the flags they leave,
whether there were none at all, and the rest from the `:` or `)` on. A flag is one of
`imsUuxR`, each at most once; one `-` turns off the flags after it, and must have one after
it. -/
def groupFlags : Bool → Bool → List Char → Flags → List Char → Option (Flags × Bool × List Char)
  | _, _, _, _, [] => none
  | negated, lastNegation, seen, fl, c :: r =>
    if c == ':' || c == ')' then
      if lastNegation then none else some (fl, seen.isEmpty && !negated, c :: r)
    else if c == '-' then
      if negated then none else groupFlags true true seen fl r
    else if "imsUuxR".toList.contains c && !seen.contains c then
      let fl := match c with
        | 'i' => { fl with caseless := !negated }
        | 'u' => { fl with unicode := !negated }
        | 'x' => { fl with extended := !negated }
        | _ => fl
      groupFlags negated false (c :: seen) fl r
    else none

/-- Whether a group after its `(` is a look-around, `(?=`, `(?!`, `(?<=` or `(?<!`. -/
def isLookAround : List Char → Bool
  | '?' :: '=' :: _ | '?' :: '!' :: _ | '?' :: '<' :: '=' :: _ | '?' :: '<' :: '!' :: _ => true
  | _ => false

/-- Whether a text is a well-formed group name: a letter or `_`, then letters, digits, `_`, `.`,
`[` and `]`. -/
def isGroupName : List Char → Bool
  | [] => false
  | c :: cs =>
    (c == '_' || isAlphabetic c) &&
      cs.all fun c => c == '_' || c == '.' || c == '[' || c == ']' || isAlphanumeric c

/-- The name of a group after its `(`, when it opens with `?P<` or `?<`: the name and the rest
after `>`, or none inside when the name is malformed. -/
def groupName? (r : List Char) : Option (Option (String × List Char)) :=
  let body := match r with
    | '?' :: 'P' :: '<' :: b => some b
    | '?' :: '<' :: b => some b
    | _ => none
  body.map fun b =>
    let name := b.takeWhile (· != '>')
    match b.dropWhile (· != '>') with
    | _ :: rest => if isGroupName name then some (String.ofList name, rest) else none
    | [] => none

/-- A part of a sequence: the depth of its syntax, and whether a repetition may take it (all but
a change of flags). -/
structure Item where
  depth : Nat
  repeatable : Bool
  deriving DecidableEq, Repr

/-- A character, an escape, a dot or an anchor: no depth, and repeatable. -/
def Item.atom : Item := ⟨0, true⟩

/-- The depth of a sequence of items. -/
def sequenceDepth (items : List Item) : Nat := nodeDepth (items.map (·.depth))

/-- The depth of the alternatives `branches` closed so far and a last one of depth `last`: the
last alone when there were no others. -/
def alternationDepth (branches : List Nat) (last : Nat) : Nat :=
  if branches.isEmpty then last else 1 + max (branches.foldl max 0) last

/-- An open group: the sequence and the alternatives before it, and the flags outside it. -/
structure Frame where
  items : List Item
  branches : List Nat
  outer : Flags

/-- Where a reading of a pattern stands. -/
structure Scan where
  /-- The open groups, the innermost first. -/
  frames : List Frame
  /-- The items of the current sequence, the last first. -/
  items : List Item
  /-- The depths of the alternatives of the current group closed so far. -/
  branches : List Nat
  /-- The flags in force. -/
  flags : Flags
  /-- The names of the groups so far. -/
  names : List String

namespace Scan

/-- The depth of what the innermost open group, or the pattern, holds so far. -/
def depth (st : Scan) : Nat := alternationDepth st.branches (sequenceDepth st.items)

/-- The scan with an item added to its sequence. -/
def push (st : Scan) (i : Item) : Scan := { st with items := i :: st.items }

/-- The scan inside a new group, under the flags `fl`. -/
def enter (st : Scan) (fl : Flags) : Scan :=
  { st with frames := ⟨st.items, st.branches, st.flags⟩ :: st.frames, items := [], branches := [],
            flags := fl }

/-- The scan with its last item repeated, if a repetition may take it. -/
def repeatLast (st : Scan) : Option Scan :=
  match st.items with
  | i :: is => if i.repeatable then some { st with items := ⟨i.depth + 1, true⟩ :: is } else none
  | [] => none

end Scan

/-- The rest of a pattern read from a scan: the depth of the whole pattern, or none when it does
not read. -/
def scan : Nat → Scan → List Char → Option Nat
  | 0, _, _ => none
  | n + 1, st, cs =>
    match st.flags.space cs with
    | [] => if st.frames.isEmpty then some st.depth else none
    | '(' :: r =>
      let r := st.flags.space r
      if isLookAround r then none
      else match groupName? r with
        | some (some (name, rest)) =>
          if st.names.contains name then none
          else scan n { st.enter st.flags with names := name :: st.names } rest
        | some none => none
        | none =>
          match r with
          | '?' :: r =>
            match groupFlags false false [] st.flags r with
            | some (fl, empty, ')' :: rest) =>
              if empty then none else scan n { st.push ⟨0, false⟩ with flags := fl } rest
            | some (fl, _, _ :: rest) => scan n (st.enter fl) rest
            | _ => none
          | r => scan n (st.enter st.flags) r
    | ')' :: r =>
      match st.frames with
      | [] => none
      | f :: fs =>
        scan n ⟨fs, ⟨st.depth + 1, true⟩ :: f.items, f.branches, f.outer, st.names⟩ r
    | '|' :: r => scan n { st with items := [], branches := sequenceDepth st.items :: st.branches } r
    | '[' :: r =>
      if st.flags.unicode && st.flags.caseless then none
      else match classOpen st.flags r with
        | some (f, rest) =>
          match classBody st.flags (rest.length + 1) f [] rest with
          | some (d, rest) => scan n (st.push ⟨d, true⟩) rest
          | none => none
        | none => none
    | c :: r =>
      if c == '?' || c == '*' || c == '+' then
        match st.repeatLast with
        | some st => scan n st (match r with
          | '?' :: r => r
          | r => r)
        | none => none
      else if c == '\x7b' then
        match st.repeatLast, counted st.flags r with
        | some st, some rest => scan n st rest
        | _, _ => none
      else if c == '\\' then
        match escape st.flags r with
        | some (e, rest) => if e.allowed st.flags false then scan n (st.push .atom) rest else none
        | none => none
      else if c == '.' then
        if st.flags.unicode then scan n (st.push .atom) r else none
      else if c == '^' || c == '$' then scan n (st.push .atom) r
      else if st.flags.unicode && st.flags.caseless then none
      else scan n (st.push .atom) r

/-- Whether a text is a well-formed pattern: it reads, and nests no deeper than `nestLimit`. -/
def isWellFormed (s : String) : Bool :=
  match scan (s.length + 1) ⟨[], [], [], .initial, []⟩ s.toList with
  | some d => d ≤ nestLimit
  | none => false

/-- Whether a text is a number as decimal floating point reads it: an optional sign, then
`inf`, `infinity` or `nan` in any case, or digits with an optional point and fraction, at least
one digit in all, and an optional exponent. Every integer is such a text. -/
def isNumberText (s : String) : Bool :=
  let cs := match s.toList with
    | '+' :: r | '-' :: r => r
    | r => r
  let word := String.ofList (cs.map Char.toLower)
  word == "inf" || word == "infinity" || word == "nan" ||
    let whole := cs.takeWhile Char.isDigit
    let (fraction, r) := match cs.dropWhile Char.isDigit with
      | '.' :: r => (r.takeWhile Char.isDigit, r.dropWhile Char.isDigit)
      | r => ([], r)
    (!whole.isEmpty || !fraction.isEmpty) &&
      match r with
      | [] => true
      | e :: r =>
        let ds := match r with
          | '+' :: ds | '-' :: ds => ds
          | ds => ds
        (e == 'e' || e == 'E') && !ds.isEmpty && ds.all Char.isDigit

/-- Whether a text is a well-formed field value: a boolean, a number or a pattern. -/
def isValue (s : String) : Bool :=
  s == "true" || s == "false" || isNumberText s || isWellFormed s

end ExprLexer.Pattern
