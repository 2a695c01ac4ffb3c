import Mathlib
import ExprLexer.Toml.Codec

/-!
# Reading what the writer writes

The reader takes back what the writer puts down, piece by piece. A basic string comes back as
its text, whatever characters it holds: each escape is read as the character it stands for
(`basicBody_escapeBasic`), so the escaped text reads back up to its closing quote
(`basicBody_escaped`). An array of strings, as the writer joins them, comes back as that array
(`value_stringArray`). A bare key, a table header `[k]` and a line `k = v` read as the key, the
opening of its table and the definition of `v` at `k` (`lines_header`, `lines_keyValue`); a
fresh header or key is appended to the table being built (`Entries.openHeader_fresh`,
`Entries.modifyAt_last`).

Each statement is made for every amount of fuel above what the text needs, so that a document
assembled from these pieces can be read with the fuel `parse` gives it.
-/

namespace ExprLexer.Toml

section Strings

variable {ml : Bool} {acc r : List Char}

/-- The writer's hexadecimal digits are digits the reader knows, of the same value. -/
theorem hexUpper_spec : ∀ k < 16,
    isHexDigit (escapeBasic.hexUpper k) = true ∧ hexValue (escapeBasic.hexUpper k) = k := by
  decide

/-- The code of an ASCII character, written as four hexadecimal digits, is read back as that
character. -/
theorem codePoint?_hexUpper {c : Char} (h : c.toNat < 0x80) :
    codePoint? ['0', '0', escapeBasic.hexUpper (c.toNat / 16), escapeBasic.hexUpper (c.toNat % 16)] =
      some c := by
  obtain ⟨h₁, v₁⟩ := hexUpper_spec (c.toNat / 16) (by omega)
  obtain ⟨h₂, v₂⟩ := hexUpper_spec (c.toNat % 16) (by omega)
  have hv : digitsValue 16 ['0', '0', escapeBasic.hexUpper (c.toNat / 16),
      escapeBasic.hexUpper (c.toNat % 16)] = c.toNat := by
    simp only [digitsValue, List.foldl_cons, List.foldl_nil, v₁, v₂]
    simp [hexValue]
    omega
  have h₀ : isHexDigit '0' = true := by decide
  simp [codePoint?, h₀, h₁, h₂, hv, show c.toNat < 0xD800 by omega, Char.ofNat_toNat]


/-- A quote closes a basic string on one line, whatever follows. -/
theorem basicBody_close (r : List Char) :
    basicBody false acc ('"' :: r) = .ok (String.ofList acc.reverse, r) := by
  rw [basicBody.eq_def]
  split <;> simp_all [eq_comm]

/-- Each escape the writer uses is read as the character it stands for. -/
theorem basicBody_escapeBasic (c : Char) (r : List Char) :
    basicBody ml acc (escapeBasic c ++ r) = basicBody ml (c :: acc) r := by
  unfold escapeBasic
  split_ifs with hq hb hn ht hr hctl
  · subst hq; rw [List.cons_append, List.cons_append, List.nil_append, basicBody]
  · subst hb; rw [List.cons_append, List.cons_append, List.nil_append, basicBody]
  · subst hn; rw [List.cons_append, List.cons_append, List.nil_append, basicBody]
  · subst ht; rw [List.cons_append, List.cons_append, List.nil_append, basicBody]
  · subst hr; rw [List.cons_append, List.cons_append, List.nil_append, basicBody]
  · -- a control character, written by its code
    have hlt : c.toNat < 0x80 := by simp at hctl; omega
    simp only [List.cons_append, List.nil_append]
    rw [basicBody, codePoint?_hexUpper hlt]
  · -- any other character stands for itself
    have htext : isTextChar c = true := by
      simp [isTextChar] at hctl ⊢
      omega
    rw [List.cons_append, List.nil_append]
    rw [basicBody.eq_def]
    split <;> simp_all


/-- A basic string body written by the writer reads back as its text, up to the closing
quote. -/
theorem basicBody_escaped (w : List Char) (r : List Char) :
    basicBody false acc (w.flatMap escapeBasic ++ '"' :: r) =
      .ok (String.ofList (acc.reverse ++ w), r) := by
  induction w generalizing acc with
  | nil => simpa using basicBody_close r
  | cons c w ih =>
    rw [List.flatMap_cons, List.append_assoc, basicBody_escapeBasic, ih]
    simp

/-- The characters of a basic string: its quotes around the escaped text. -/
theorem toList_basicString (s : String) :
    (basicString s).toList = '"' :: s.toList.flatMap escapeBasic ++ ['"'] := by
  simp [basicString]

/-- Every escape is a character other than a quote, then possibly more. -/
theorem escapeBasic_eq_cons (c : Char) : ∃ d ds, escapeBasic c = d :: ds ∧ d ≠ '"' := by
  unfold escapeBasic
  split_ifs <;> simp_all

/-- An escaped text and its closing quote begin with two quotes only when the text is empty and
a quote follows. -/
theorem escaped_ne_quote_quote (w : List Char) {r : List Char} (hr : r.head? ≠ some '"')
    (r' : List Char) : w.flatMap escapeBasic ++ '"' :: r ≠ '"' :: '"' :: r' := by
  intro h
  cases w with
  | nil =>
    simp only [List.flatMap_nil, List.nil_append, List.cons.injEq, true_and] at h
    simp [h] at hr
  | cons c w =>
    obtain ⟨d, ds, he, hd⟩ := escapeBasic_eq_cons c
    rw [List.flatMap_cons, he, List.append_assoc, List.cons_append, List.cons.injEq] at h
    exact hd h.1

/-- A value that is a basic string, not followed by a quote, reads back as that string. -/
theorem value_basicString (n depth : Nat) (s : String) {r : List Char} (hr : r.head? ≠ some '"') :
    value (n + 1) depth ((basicString s).toList ++ r) = .ok (.leaf (.string s), r) := by
  simp only [toList_basicString, List.cons_append, List.append_assoc]
  rw [value]
  · rw [List.nil_append, basicBody_escaped]
    simp
  -- no multi-line string opens here
  · exact fun r' h => escaped_ne_quote_quote _ hr r' (by simpa using h)

end Strings

section Arrays

variable {n d : Nat} {acc : List Value} {r : List Char}

theorem skipTrivia_blank (r : List Char) : skipTrivia false (' ' :: r) = skipTrivia false r := by
  rw [skipTrivia]

/-- Trivia stop at a character that is no blank, line break or comment sign. -/
theorem skipTrivia_of_ne {c : Char} (h : c ∉ [' ', '\t', '\n', '\r', '#']) (r : List Char) :
    skipTrivia false (c :: r) = .ok (c :: r) := by
  rw [skipTrivia.eq_def]
  split <;> simp_all

/-- A closing bracket ends an array with the values read so far. -/
theorem arrayValues_close (r : List Char) :
    arrayValues (n + 1) d acc (']' :: r) = .ok (.leaf (.array acc.reverse), r) := by
  rw [arrayValues, skipTrivia_of_ne (by decide)]
  rfl

theorem arrayValues_blank (r : List Char) :
    arrayValues (n + 1) d acc (' ' :: r) = arrayValues (n + 1) d acc r := by
  rw [arrayValues, arrayValues, skipTrivia_blank]

/-- An array item that is no closing bracket is read as a value; a comma after it leads to the
next item. -/
theorem arrayValues_item_sep {cs r' : List Char} {x : Value} (hs : skipTrivia false cs = .ok cs)
    (hc : cs.head? ≠ some ']') (hv : value n d cs = .ok (.leaf x, r))
    (hr : skipTrivia false r = .ok (',' :: r')) :
    arrayValues (n + 1) d acc cs = arrayValues n d (x :: acc) r' := by
  rw [arrayValues, hs]
  simp only [bind, Except.bind]
  split
  · simp at hc
  · simp only [hv, hr, Node.toValue]

/-- An array item that is no closing bracket is read as a value; a closing bracket after it ends
the array. -/
theorem arrayValues_item_close {cs r' : List Char} {x : Value} (hs : skipTrivia false cs = .ok cs)
    (hc : cs.head? ≠ some ']') (hv : value n d cs = .ok (.leaf x, r))
    (hr : skipTrivia false r = .ok (']' :: r')) :
    arrayValues (n + 1) d acc cs = .ok (.leaf (.array (x :: acc).reverse), r') := by
  rw [arrayValues, hs]
  simp only [bind, Except.bind]
  split
  · simp at hc
  · simp only [hv, hr, Node.toValue, pure, Except.pure]

/-- A basic string begins with its quote, which is neither trivia nor a closing bracket. -/
theorem basicString_item (w : String) (r : List Char) :
    skipTrivia false ((basicString w).toList ++ r) = .ok ((basicString w).toList ++ r) ∧
      ((basicString w).toList ++ r).head? ≠ some ']' := by
  simp only [toList_basicString, List.cons_append]
  exact ⟨skipTrivia_of_ne (by decide) _, by simp⟩

/-- A string followed by the closing bracket is the last value of an array. -/
theorem arrayValues_last (w : String) (r : List Char) :
    arrayValues (n + 2) d acc ((basicString w).toList ++ ']' :: r) =
      .ok (.leaf (.array (.string w :: acc).reverse), r) := by
  have ⟨hs, hc⟩ := basicString_item w (']' :: r)
  rw [arrayValues_item_close hs hc (value_basicString n d w (by simp))
    (skipTrivia_of_ne (by decide) r)]

/-- A string followed by the writer's separator is one value of an array, with more to come. -/
theorem arrayValues_sep (w : String) (r : List Char) :
    arrayValues (n + 2) d acc ((basicString w).toList ++ ',' :: ' ' :: r) =
      arrayValues (n + 1) d (.string w :: acc) r := by
  have ⟨hs, hc⟩ := basicString_item w (',' :: ' ' :: r)
  rw [arrayValues_item_sep hs hc (value_basicString n d w (by simp))
    (skipTrivia_of_ne (by decide) (' ' :: r)), arrayValues_blank]

/-- The strings of an array as the writer joins them, then the closing bracket, read back as the
array of those strings. -/
theorem arrayValues_strings (w : String) (ws : List String) (acc : List Value) (r : List Char)
    (hn : ws.length ≤ n) :
    arrayValues (n + 2) d acc
        ([',', ' '].intercalate ((w :: ws).map (fun s => (basicString s).toList)) ++ ']' :: r) =
      .ok (.leaf (.array (acc.reverse ++ (w :: ws).map .string)), r) := by
  induction ws generalizing w acc n with
  | nil =>
    rw [List.map_singleton, List.intercalate_singleton, arrayValues_last]
    simp
  | cons w' ws ih =>
    obtain ⟨m, rfl⟩ : ∃ m, n = m + 1 := ⟨n - 1, by simp at hn; omega⟩
    have h := ih w' (.string w :: acc) (n := m) (by simpa using hn)
    simp only [List.map_cons] at h ⊢
    rw [List.intercalate_cons_cons, List.append_assoc, List.append_assoc, List.cons_append,
      List.cons_append, List.nil_append, arrayValues_sep, show m + 1 + 1 = m + 2 from rfl, h]
    simp

theorem itemsText_map_string (ws : List String) :
    itemsText (ws.map Value.string) = ws.map basicString := by
  induction ws with
  | nil => rfl
  | cons w ws ih => simp [itemsText, valueText, ih]

/-- The characters of an array of strings: its strings joined by the separator, in brackets. -/
theorem toList_valueText_strings (ws : List String) :
    (valueText (.array (ws.map .string))).toList =
      '[' :: [',', ' '].intercalate (ws.map fun s => (basicString s).toList) ++ [']'] := by
  simp [valueText, itemsText_map_string, List.map_map, Function.comp_def]

/-- An array of strings as the writer writes it reads back as that array. -/
theorem value_stringArray (ws : List String) (r : List Char) (hn : ws.length ≤ n) :
    value (n + 3) 0 ((valueText (.array (ws.map .string))).toList ++ r) =
      .ok (.leaf (.array (ws.map .string)), r) := by
  simp only [toList_valueText_strings, List.cons_append, List.append_assoc]
  rw [value, if_pos (by decide)]
  cases ws with
  | nil => exact arrayValues_close r
  | cons w ws => simpa using arrayValues_strings w ws [] r (by simp at hn; omega)

/-- Each string of an array takes at least one character of its text, which is therefore enough
fuel to read it. -/
theorem length_le_valueText_strings (ws : List String) :
    ws.length ≤ (valueText (.array (ws.map .string))).toList.length := by
  -- each string is written with its quotes, so the joined strings are at least as many characters
  have hjoin : ∀ w ws, ws.length + 1 ≤
      ([',', ' '].intercalate ((w :: ws).map fun s => (basicString s).toList)).length := by
    intro w ws
    induction ws generalizing w with
    | nil => simp [toList_basicString]
    | cons w' ws ih =>
      rw [List.map_cons, List.map_cons, List.intercalate_cons_cons]
      have := ih w'
      simp only [List.map_cons] at this
      simp only [List.length_append, List.length_cons]
      omega
  rw [toList_valueText_strings]
  cases ws with
  | nil => simp
  | cons w ws =>
    have := hjoin w ws
    simp only [List.length_cons, List.length_append] at this ⊢
    omega

end Arrays

section Keys

variable {n : Nat}

/-- The writer leaves a bare key bare. -/
theorem keyText_of_isBareKey {k : String} (hk : IsBareKey k) : keyText k = k := by
  have hne : k.isEmpty = false := by
    cases h : k.isEmpty
    · rfl
    · simp_all [String.isEmpty_iff, IsBareKey]
  rw [keyText, if_pos]
  simp only [hne, Bool.not_false, Bool.true_and, List.all_eq_true]
  exact hk.2

/-- A run of characters that satisfy `p`, then one that does not, splits there. -/
theorem span_of_all {p : Char → Bool} {k : List Char} (hk : ∀ c ∈ k, p c = true) {c : Char}
    (hc : p c = false) (r : List Char) : (k ++ c :: r).span p = (k, c :: r) := by
  rw [List.span_eq_takeWhile_dropWhile, List.takeWhile_append_of_pos hk,
    List.dropWhile_append_of_pos hk, List.takeWhile_cons_of_neg (by simp [hc]),
    List.dropWhile_cons_of_neg (by simp [hc]), List.append_nil]

/-- A bare key does not begin with a character that cannot stand in one. -/
theorem IsBareKey.ne_cons {k : String} (hk : IsBareKey k) {q : Char} (hq : isBareKeyChar q = false)
    (rest r : List Char) : k.toList ++ rest ≠ q :: r := by
  intro h
  obtain ⟨a, as, ha⟩ := List.exists_cons_of_ne_nil hk.1
  rw [ha, List.cons_append, List.cons.injEq] at h
  have := hk.2 a (by simp [ha])
  rw [h.1, hq] at this
  cases this

/-- A bare key reads as itself, up to the first character that cannot go on it. -/
theorem simpleKey_bare {k : String} (hk : IsBareKey k) {c : Char} (hc : isBareKeyChar c = false)
    (r : List Char) : simpleKey (k.toList ++ c :: r) = .ok (k, c :: r) := by
  rw [simpleKey, span_of_all hk.2 hc]
  · simp [hk.1, String.ofList_toList]
  · exact fun r' => hk.ne_cons (by decide) _ r'
  · exact fun r' => hk.ne_cons (by decide) _ r'

/-- A bare key, ended by a character that cannot go on it nor, after blanks, lead to a dot,
is a key of one part. -/
theorem boundedKey_bare {k : String} (hk : IsBareKey k) {c : Char} (hc : isBareKeyChar c = false)
    {r : List Char} (hd : (skipSpaces (c :: r)).head? ≠ some '.') :
    boundedKey (n + 1) (k.toList ++ c :: r) = .ok ([k], c :: r) := by
  have hkey : key (n + 1) (k.toList ++ c :: r) = .ok ([k], c :: r) := by
    rw [key, simpleKey_bare hk hc]
    simp only [bind, Except.bind]
    split
    · rename_i r' h
      rw [h] at hd
      simp at hd
    · rfl
  rw [boundedKey, hkey]
  rfl

/-- Blanks end at any other character. -/
theorem skipSpaces_of_ne {c : Char} (h : c ≠ ' ' ∧ c ≠ '\t') (r : List Char) :
    skipSpaces (c :: r) = c :: r := by
  rw [skipSpaces.eq_def]
  split <;> simp_all

/-- A bare key begins with no blank. -/
theorem IsBareKey.skipSpaces {k : String} (hk : IsBareKey k) (r : List Char) :
    skipSpaces (k.toList ++ r) = k.toList ++ r := by
  obtain ⟨a, as, ha⟩ := List.exists_cons_of_ne_nil hk.1
  have ha' := hk.2 a (by simp [ha])
  rw [ha, List.cons_append, skipSpaces_of_ne]
  constructor <;> (rintro rfl; cases ha')

/-- The header of a table named by a bare key. -/
theorem header_bare {k : String} (hk : IsBareKey k) (r : List Char) :
    header (n + 1) false (k.toList ++ ']' :: r) = .ok ([k], r) := by
  rw [header, hk.skipSpaces, boundedKey_bare hk (by decide) (by simp [skipSpaces])]
  simp only [bind, Except.bind]
  rw [skipSpaces_of_ne (by decide)]
  split <;> simp_all [pure, Except.pure]

end Keys

section Lines

variable {n : Nat} {root : Entries} {current : List String}

theorem lines_nil : lines (n + 1) root current [] = .ok root := rfl

theorem lines_newline (rest : List Char) :
    lines (n + 1) root current ('\n' :: rest) = lines n root current rest := by
  rw [lines]
  rfl

/-- A header line opens its table, and the lines after it go into that table. -/
theorem lines_header {k : String} (hk : IsBareKey k) (rest : List Char) :
    lines (n + 2) root current ('[' :: (k.toList ++ ']' :: '\n' :: rest)) =
      (do let root ← root.openHeader [k] false; lines (n + 1) root [k] rest) := by
  rw [lines, skipSpaces_of_ne (by decide)]
  split
  next heq => simp at heq
  next heq => simp at heq
  next heq => simp at heq
  next heq => simp at heq
  next r heq => exact absurd (List.cons.inj heq).2 (hk.ne_cons (by decide) _ _)
  next r _ heq =>
    obtain rfl := (List.cons.inj heq).2
    rw [header_bare hk]
    rfl
  next h => exact (h _ rfl).elim

/-- A line `k = v` defines `v` at `k` in the current table. -/
theorem lines_keyValue {k : String} (hk : IsBareKey k) {vcs rest : List Char} {v : Node}
    (hs : skipSpaces vcs = vcs) (hv : value (n + 1) 0 vcs = .ok (v, '\n' :: rest)) :
    lines (n + 2) root current (k.toList ++ ' ' :: '=' :: ' ' :: vcs) =
      (do
        let root ← root.modifyAt (·.insertDotted [] k (.leaf v.toValue)) current
        lines (n + 1) root current rest) := by
  have hsep : keyValueSeparator (' ' :: '=' :: ' ' :: vcs) = .ok vcs := by
    rw [keyValueSeparator]
    simp [skipSpaces, hs]
  rw [lines, hk.skipSpaces]
  split
  next heq => simp at heq
  next r heq => exact absurd heq (hk.ne_cons (by decide) _ _)
  next r heq => exact absurd heq (hk.ne_cons (by decide) _ _)
  next r heq => exact absurd heq (hk.ne_cons (by decide) _ _)
  next r heq => exact absurd heq (hk.ne_cons (by decide) _ _)
  next r _ heq => exact absurd heq (hk.ne_cons (by decide) _ _)
  next =>
    rw [boundedKey_bare hk (by decide) (by simp [skipSpaces])]
    simp only [bind, Except.bind]
    rw [hsep]
    dsimp only
    rw [hv]
    rfl

end Lines

section Documents

namespace Entries

variable {es pre : Entries} {k : String} {n : Node}

/-- No entry of a table without `k` has the key `k`. -/
theorem key_ne_of_get?_none (h : es.get? k = none) {x : String × Node} (hx : x ∈ es) : x.1 ≠ k := by
  have := List.lookup_eq_none_iff.1 h x hx
  simp only [bne_iff_ne, ne_eq] at this
  exact fun hx => this hx.symm

theorem get?_append_of_none (h : pre.get? k = none) (es : Entries) :
    (pre ++ es).get? k = es.get? k := by
  simp [get?, List.lookup_append, show pre.lookup k = none from h]

theorem set_of_get?_none (h : es.get? k = none) : es.set k n = es ++ [(k, n)] := by
  have hany : es.any (·.1 == k) = false := by
    rw [List.any_eq_false]
    intro x hx
    simpa using key_ne_of_get?_none h hx
  simp [set, hany]

theorem set_last (h : pre.get? k = none) (m : Node) :
    (pre ++ [(k, m)]).set k n = pre ++ [(k, n)] := by
  have hpre : pre.map (fun e => if e.1 = k then (k, n) else e) = pre := by
    rw [List.map_congr_left (g := id), List.map_id]
    intro x hx
    simp [key_ne_of_get?_none h hx]
  simp [set, hpre]

/-- A header names a table of the root not yet defined: it is appended, empty. -/
theorem openHeader_fresh (h : es.get? k = none) :
    es.openHeader [k] false = .ok (es ++ [(k, .table .header [])]) := by
  simp [openHeader, h, set_of_get?_none h]

theorem insertDotted_fresh (h : es.get? k = none) :
    es.insertDotted [] k n = .ok (es ++ [(k, n)]) := by
  simp [insertDotted, h, set_of_get?_none h]

/-- The table a header opened last takes what `f` makes of its entries. -/
theorem modifyAt_last {f : Entries → Except ParseError Entries} {o : Origin} {es es' : Entries}
    (h : pre.get? k = none) (hf : f es = .ok es') :
    modifyAt f (pre ++ [(k, .table o es)]) [k] = .ok (pre ++ [(k, .table o es')]) := by
  have hget : (pre ++ [(k, Node.table o es)]).get? k = some (.table o es) := by
    rw [get?_append_of_none h]
    simp [get?]
  rw [modifyAt, hget]
  simp [modifyAt, hf, set_last h, bind, Except.bind, pure, Except.pure]

end Entries


/-- A text that does not begin with a byte order mark is read line by line from its first
character. -/
theorem parse_of_toList {text : String} {cs : List Char} (htext : text.toList = cs)
    (hc : cs.head? ≠ some '\uFEFF') :
    parse text = (do
      let root ← lines (4 * cs.length + 8) [] [] cs
      pure (.table (entriesToValue root))) := by
  unfold parse
  rw [htext]
  split
  · simp at hc
  · rfl

end Documents

end ExprLexer.Toml
