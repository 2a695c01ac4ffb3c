import ExprLexer.Toml.Scalar
import ExprLexer.Toml.Document

/-!
# Reading TOML documents

A reader for TOML 1.0. A document is a sequence of lines, each blank, a comment, a key-value
pair or a table header, and the definitions are assembled by the rules of
`ExprLexer.Toml.Document`. Strings come in four forms: basic (`"…"`, with escapes), literal
(`'…'`), and the multi-line forms of both (`"""…"""`, `'''…'''`), which drop a line break right
after the opening quotes and take in up to two quotes before the closing ones; a backslash at the
end of a line of a multi-line basic string drops the line break and the blanks after it. Line
breaks are LF or CR LF and come out as LF. Control characters other than tab are refused outside
line breaks.

Arrays and inline tables nest fewer than `nestingLimit` deep, and a key has fewer parts than
that; a document past either bound is refused. Besides, the readers take a fuel argument of
four times the document's length and more, so no document can run out of it.
-/

namespace ExprLexer.Toml

/-- A character that may stand in a comment or a string: tab, or any character from the space on
other than DEL. -/
def isTextChar (c : Char) : Bool := c == '\t' || (0x20 ≤ c.toNat && c.toNat != 0x7F)

/-- Drops spaces and tabs. -/
def skipSpaces : List Char → List Char
  | ' ' :: r | '\t' :: r => skipSpaces r
  | cs => cs

/-- Drops blanks, line breaks and comments; `inComment` tells whether a comment is open. -/
def skipTrivia : Bool → List Char → Except ParseError (List Char)
  | false, ' ' :: r | false, '\t' :: r => skipTrivia false r
  | _, '\n' :: r => skipTrivia false r
  | _, '\r' :: '\n' :: r => skipTrivia false r
  | false, '#' :: r => skipTrivia true r
  | true, c :: r => if isTextChar c then skipTrivia true r else .error (.unexpected "a comment")
  | _, cs => .ok cs

/-- Drops a comment up to its line break, which stays. -/
def skipComment : List Char → Except ParseError (List Char)
  | [] => .ok []
  | '\n' :: r => .ok ('\n' :: r)
  | '\r' :: '\n' :: r => .ok ('\r' :: '\n' :: r)
  | c :: r => if isTextChar c then skipComment r else .error (.unexpected "a comment")

/-- The rest of a line after a definition: blanks, an optional comment, then a line break or the
end of the document. -/
def endOfLine (cs : List Char) : Except ParseError (List Char) := do
  let r ← match skipSpaces cs with
    | '#' :: r => skipComment r
    | r => pure r
  match r with
  | [] => pure []
  | '\n' :: r | '\r' :: '\n' :: r => pure r
  | _ => .error (.unexpected "the end of the line")

/-- Drops one line break at the start. -/
def dropNewline : List Char → List Char
  | '\n' :: r | '\r' :: '\n' :: r => r
  | cs => cs

/-- Whether the rest of a line holds only blanks before its line break. -/
def onlyBlanksToEol : List Char → Bool
  | ' ' :: r | '\t' :: r => onlyBlanksToEol r
  | '\n' :: _ | '\r' :: '\n' :: _ => true
  | _ => false

/-- Drops blanks and line breaks. -/
def dropBlankLines : List Char → List Char
  | ' ' :: r | '\t' :: r | '\n' :: r => dropBlankLines r
  | '\r' :: '\n' :: r => dropBlankLines r
  | cs => cs

theorem length_dropBlankLines_le (cs : List Char) : (dropBlankLines cs).length ≤ cs.length := by
  fun_induction dropBlankLines cs <;> simp_all <;> omega

/-- The code point written by hexadecimal digits, if it is a Unicode scalar value. -/
def codePoint? (ds : List Char) : Option Char :=
  if ds.all isHexDigit then
    let n := digitsValue 16 ds
    if n < 0xD800 || (0xDFFF < n && n ≤ 0x10FFFF) then some (Char.ofNat n) else none
  else none

/-- The rest of a basic string after its opening quote or quotes: its text and what follows the
closing quotes. `ml` tells a multi-line string. -/
def basicBody (ml : Bool) (acc : List Char) (cs : List Char) :
    Except ParseError (String × List Char) :=
  let done (s : List Char) (r : List Char) : Except ParseError (String × List Char) :=
    .ok (String.ofList (acc.reverse ++ s), r)
  match cs with
  | '"' :: '"' :: '"' :: '"' :: '"' :: r =>
    if ml then done ['"', '"'] r else done [] ('"' :: '"' :: '"' :: '"' :: r)
  | '"' :: '"' :: '"' :: '"' :: r => if ml then done ['"'] r else done [] ('"' :: '"' :: '"' :: r)
  | '"' :: '"' :: '"' :: r => if ml then done [] r else done [] ('"' :: '"' :: r)
  | '"' :: r => if ml then basicBody ml ('"' :: acc) r else done [] r
  | '\\' :: 'b' :: r => basicBody ml ('\x08' :: acc) r
  | '\\' :: 't' :: r => basicBody ml ('\t' :: acc) r
  | '\\' :: 'n' :: r => basicBody ml ('\n' :: acc) r
  | '\\' :: 'f' :: r => basicBody ml ('\x0c' :: acc) r
  | '\\' :: 'r' :: r => basicBody ml ('\r' :: acc) r
  | '\\' :: '"' :: r => basicBody ml ('"' :: acc) r
  | '\\' :: '\\' :: r => basicBody ml ('\\' :: acc) r
  | '\\' :: 'u' :: a :: b :: c :: d :: r =>
    match codePoint? [a, b, c, d] with
    | some ch => basicBody ml (ch :: acc) r
    | none => .error (.unexpected "a Unicode scalar value")
  | '\\' :: 'U' :: a :: b :: c :: d :: e :: f :: g :: h :: r =>
    match codePoint? [a, b, c, d, e, f, g, h] with
    | some ch => basicBody ml (ch :: acc) r
    | none => .error (.unexpected "a Unicode scalar value")
  | '\\' :: r =>
    if ml && onlyBlanksToEol r then
      have : (dropBlankLines r).length ≤ r.length := length_dropBlankLines_le r
      basicBody ml acc (dropBlankLines r)
    else .error (.unexpected "an escape sequence")
  | '\n' :: r => if ml then basicBody ml ('\n' :: acc) r else .error (.unexpected "a closing quote")
  | '\r' :: '\n' :: r =>
    if ml then basicBody ml ('\n' :: acc) r else .error (.unexpected "a closing quote")
  | c :: r => if isTextChar c then basicBody ml (c :: acc) r else .error (.unexpected "a string character")
  | [] => .error (.unexpected "a closing quote")
termination_by cs.length
decreasing_by all_goals (simp only [List.length_cons]; omega)

/-- The rest of a literal string after its opening quote or quotes; `ml` tells a multi-line
string. -/
def literalBody (ml : Bool) (acc : List Char) : List Char → Except ParseError (String × List Char)
  | '\'' :: '\'' :: '\'' :: '\'' :: '\'' :: r =>
    if ml then .ok (String.ofList (acc.reverse ++ ['\'', '\'']), r)
    else .ok (String.ofList acc.reverse, '\'' :: '\'' :: '\'' :: '\'' :: r)
  | '\'' :: '\'' :: '\'' :: '\'' :: r =>
    if ml then .ok (String.ofList (acc.reverse ++ ['\'']), r)
    else .ok (String.ofList acc.reverse, '\'' :: '\'' :: '\'' :: r)
  | '\'' :: '\'' :: '\'' :: r =>
    if ml then .ok (String.ofList acc.reverse, r)
    else .ok (String.ofList acc.reverse, '\'' :: '\'' :: r)
  | '\'' :: r => if ml then literalBody ml ('\'' :: acc) r else .ok (String.ofList acc.reverse, r)
  | '\n' :: r => if ml then literalBody ml ('\n' :: acc) r else .error (.unexpected "a closing quote")
  | '\r' :: '\n' :: r =>
    if ml then literalBody ml ('\n' :: acc) r else .error (.unexpected "a closing quote")
  | c :: r =>
    if isTextChar c then literalBody ml (c :: acc) r else .error (.unexpected "a string character")
  | [] => .error (.unexpected "a closing quote")

/-- One part of a key: bare, or quoted on one line. -/
def simpleKey (cs : List Char) : Except ParseError (String × List Char) :=
  match cs with
  | '"' :: r => basicBody false [] r
  | '\'' :: r => literalBody false [] r
  | _ =>
    let (k, r) := cs.span isBareKeyChar
    if k.isEmpty then .error (.unexpected "a key") else .ok (String.ofList k, r)

/-- A key of parts joined by dots, which blanks may surround. -/
def key : Nat → List Char → Except ParseError (List String × List Char)
  | 0, _ => .error .tooDeep
  | n + 1, cs => do
    let (k, r) ← simpleKey cs
    match skipSpaces r with
    | '.' :: r => do
      let (ks, r) ← key n (skipSpaces r)
      pure (k :: ks, r)
    | _ => pure ([k], r)

/-- Arrays and inline tables nest fewer than this many deep, and a key has fewer parts. -/
def nestingLimit : Nat := 80

/-- A key, refused when it has as many parts as the nesting limit or more. -/
def boundedKey (n : Nat) (cs : List Char) : Except ParseError (List String × List Char) := do
  let (ks, r) ← key n cs
  if ks.length < nestingLimit then pure (ks, r) else .error .tooDeep

/-- The `=` between a key and its value, with the blanks around it. -/
def keyValueSeparator (cs : List Char) : Except ParseError (List Char) :=
  match skipSpaces cs with
  | '=' :: r => .ok (skipSpaces r)
  | _ => .error (.unexpected "'='")

mutual
/-- A value and what follows it, inside `depth` arrays and inline tables. An inline table comes
back as a table node, so that the inline table around it can tell which of its tables dotted
keys made. -/
def value : Nat → Nat → List Char → Except ParseError (Node × List Char)
  | 0, _, _ => .error .tooDeep
  | n + 1, depth, cs =>
    match cs with
    | '"' :: '"' :: '"' :: r => do
      let (s, r) ← basicBody true [] (dropNewline r)
      pure (.leaf (.string s), r)
    | '"' :: r => do
      let (s, r) ← basicBody false [] r
      pure (.leaf (.string s), r)
    | '\'' :: '\'' :: '\'' :: r => do
      let (s, r) ← literalBody true [] (dropNewline r)
      pure (.leaf (.string s), r)
    | '\'' :: r => do
      let (s, r) ← literalBody false [] r
      pure (.leaf (.string s), r)
    | '[' :: r =>
      if depth + 1 < nestingLimit then arrayValues n (depth + 1) [] r else .error .tooDeep
    | '{' :: r =>
      if depth + 1 < nestingLimit then inlineTable n (depth + 1) [] r else .error .tooDeep
    | _ =>
      let (w, r) := splitWord cs
      if w.isEmpty then .error (.unexpected "a value")
      else do
        let v ← scalar? w
        pure (.leaf v, r)

/-- The rest of an array after `[` and the values read so far, in reverse; the array is the
`depth`-th one of its nest. -/
def arrayValues : Nat → Nat → List Value → List Char → Except ParseError (Node × List Char)
  | 0, _, _, _ => .error .tooDeep
  | n + 1, depth, acc, cs => do
    match ← skipTrivia false cs with
    | ']' :: r => pure (.leaf (.array acc.reverse), r)
    | cs => do
      let (v, r) ← value n depth cs
      match ← skipTrivia false r with
      | ',' :: r => arrayValues n depth (v.toValue :: acc) r
      | ']' :: r => pure (.leaf (.array (v.toValue :: acc).reverse), r)
      | _ => .error (.unexpected "',' or ']'")

/-- The rest of an inline table after its opening brace and the entries read so far; the table
is the `depth`-th one of its nest. -/
def inlineTable : Nat → Nat → Entries → List Char → Except ParseError (Node × List Char)
  | 0, _, _, _ => .error .tooDeep
  | n + 1, depth, es, cs =>
    match skipSpaces cs with
    | '\x7d' :: r =>
      if es.isEmpty then pure (.table .inline [], r) else .error (.unexpected "a key-value pair")
    | cs => do
      let (ks, r) ← boundedKey n cs
      let r ← keyValueSeparator r
      let (v, r) ← value n depth r
      let es ← es.insertDotted ks.dropLast (ks.getLastD "") v
      match skipSpaces r with
      | ',' :: r => inlineTable n depth es r
      | '\x7d' :: r => pure (.table .inline es, r)
      | _ => .error (.unexpected "',' or '\x7d'")
end

/-- The header `[…]` or `[[…]]` at the start of `cs` (after its opening bracket or brackets):
its key and the rest of its line. -/
def header (n : Nat) (isArray : Bool) (cs : List Char) :
    Except ParseError (List String × List Char) := do
  let (ks, r) ← boundedKey n (skipSpaces cs)
  match skipSpaces r, isArray with
  | ']' :: ']' :: r, true => pure (ks, r)
  | ']' :: r, false => pure (ks, r)
  | _, _ => .error (.unexpected "']'")

/-- The lines of a document from the current table `current` on, into the entries `root`. -/
def lines : Nat → Entries → List String → List Char → Except ParseError Entries
  | 0, _, _, _ => .error .tooDeep
  | n + 1, root, current, cs =>
    match skipSpaces cs with
    | [] => pure root
    | '\n' :: r | '\r' :: '\n' :: r => lines n root current r
    | '#' :: r => do
      let r ← endOfLine ('#' :: r)
      lines n root current r
    | '[' :: '[' :: r => do
      let (ks, r) ← header n true r
      let root ← root.openHeader ks true
      let r ← endOfLine r
      lines n root ks r
    | '[' :: r => do
      let (ks, r) ← header n false r
      let root ← root.openHeader ks false
      let r ← endOfLine r
      lines n root ks r
    | cs => do
      let (ks, r) ← boundedKey n cs
      let r ← keyValueSeparator r
      let (v, r) ← value n 0 r
      let root ← root.modifyAt (·.insertDotted ks.dropLast (ks.getLastD "") (.leaf v.toValue))
        current
      let r ← endOfLine r
      lines n root current r

/-- Reads a TOML document into its table of entries. A byte order mark at the start is
skipped. -/
def parse (text : String) : Except ParseError Value := do
  let cs := match text.toList with
    | '﻿' :: r => r
    | cs => cs
  let root ← lines (4 * cs.length + 8) [] [] cs
  pure (.table (entriesToValue root))

end ExprLexer.Toml
