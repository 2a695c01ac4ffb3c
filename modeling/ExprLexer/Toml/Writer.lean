import ExprLexer.Toml.Value
import ExprLexer.Toml.Scalar

/-!
# Writing TOML documents

Writes a table as a TOML document: its plain entries as `key = value` lines, then each entry
that is a table as a section under its header `[key]`, sections separated by a blank line, with
tables deeper down written inline.
Keys made of bare-key characters are written bare, others quoted. Strings are basic strings in
which the quote, the backslash and every control character are escaped, so that every text is
read back as it was.
-/

namespace ExprLexer.Toml

/-- The characters that stand for `c` inside a basic string. -/
def escapeBasic (c : Char) : List Char :=
  if c = '"' then ['\\', '"']
  else if c = '\\' then ['\\', '\\']
  else if c = '\n' then ['\\', 'n']
  else if c = '\t' then ['\\', 't']
  else if c = '\r' then ['\\', 'r']
  else if c.toNat < 0x20 || c.toNat == 0x7F then
    ['\\', 'u', '0', '0', hexUpper (c.toNat / 16), hexUpper (c.toNat % 16)]
  else [c]
where
  hexUpper (n : Nat) : Char := if n < 10 then Char.ofNat (48 + n) else Char.ofNat (55 + n)

/-- A text as a basic string. -/
def basicString (s : String) : String := String.ofList ('"' :: s.toList.flatMap escapeBasic ++ ['"'])

/-- A key, bare when it can be. -/
def keyText (k : String) : String :=
  if !k.isEmpty && k.toList.all isBareKeyChar then k else basicString k

mutual
/-- A value on one line. -/
def valueText : Value → String
  | .string s => basicString s
  | .integer i => toString i
  | .float lit => lit
  | .boolean b => if b then "true" else "false"
  | .datetime lit => lit
  | .array items => "[" ++ ", ".intercalate (itemsText items) ++ "]"
  | .table entries => "\x7b " ++ ", ".intercalate (inlineEntries entries) ++ " \x7d"

/-- The values of an array. -/
def itemsText : List Value → List String
  | [] => []
  | v :: vs => valueText v :: itemsText vs

/-- The entries of an inline table. -/
def inlineEntries : List (String × Value) → List String
  | [] => []
  | (k, v) :: rest => (keyText k ++ " = " ++ valueText v) :: inlineEntries rest
end

/-- The `key = value` lines of the entries that are not tables. -/
def plainLines (entries : List (String × Value)) : List String :=
  entries.filterMap fun
    | (_, .table _) => none
    | (k, v) => some (keyText k ++ " = " ++ valueText v ++ "\n")

/-- The entries that are tables, each as one `key = { … }` line. -/
def nestedLines (entries : List (String × Value)) : List String :=
  entries.filterMap fun
    | (k, .table t) => some (keyText k ++ " = " ++ valueText (.table t) ++ "\n")
    | _ => none

/-- A section under the header `[k]` for each entry `k` that is a table: its plain entries, then
the tables inside it written inline. -/
def sections (entries : List (String × Value)) : List String :=
  entries.filterMap fun
    | (k, .table sub) =>
      some ("[" ++ keyText k ++ "]\n" ++ String.join (plainLines sub) ++
        String.join (nestedLines sub))
    | _ => none

/-- A table as a TOML document. -/
def render (entries : List (String × Value)) : String :=
  String.join (plainLines entries) ++ "\n".intercalate (sections entries)

end ExprLexer.Toml
