import ExprLexer.Toml.Reader
import ExprLexer.Toml.Writer

/-!
# A TOML library

A configuration file goes through a TOML library: a writer that puts a document down as pretty
text, and a reader of TOML text. The configuration relies on one property of the pair
(`Codec.RoundTrips`): the reader gives back every document of sections that the writer wrote,
where a document of sections is a table of tables whose entries are strings and arrays of
strings, each table under its own bare key, and a setting that is not set is simply left out.

This library's writer and reader are one such pair (`codec`).
-/

namespace ExprLexer.Toml

/-- A TOML writer and a TOML reader. -/
structure Codec where
  /-- The text of the document with these root entries. -/
  render : List (String × Value) → String
  /-- The document a text holds, or why it holds none. -/
  parse : String → Except ParseError Value

/-- A key the writer leaves bare: not empty, and made of bare-key characters. -/
def IsBareKey (k : String) : Prop := k.toList ≠ [] ∧ ∀ c ∈ k.toList, isBareKeyChar c = true

instance : DecidablePred IsBareKey := fun k =>
  decidable_of_iff (k.toList ≠ [] ∧ k.toList.all isBareKeyChar = true) (by simp [IsBareKey])

example : IsBareKey "format" ∧ ¬ IsBareKey "a b" := by decide

/-- The value of a setting: a string, or an array of strings. -/
def Value.IsSetting (v : Value) : Prop :=
  (∃ s, v = .string s) ∨ ∃ ws : List String, v = .array (ws.map .string)

/-- Entries under distinct bare keys whose values all satisfy `p`. -/
def IsKeyed (p : Value → Prop) (es : List (String × Value)) : Prop :=
  (es.map Prod.fst).Nodup ∧ ∀ e ∈ es, IsBareKey e.1 ∧ p e.2

/-- A document of sections: its root holds only tables, and each table only settings. -/
def IsSectioned (doc : List (String × Value)) : Prop :=
  IsKeyed (fun v => ∃ es, v = .table es ∧ IsKeyed Value.IsSetting es) doc

/-- The reader gives back every document of sections as the writer wrote it. -/
def Codec.RoundTrips (codec : Codec) : Prop :=
  ∀ doc, IsSectioned doc → codec.parse (codec.render doc) = .ok (.table doc)

/-- This library's TOML writer and reader. -/
def codec : Codec := ⟨render, parse⟩

end ExprLexer.Toml
