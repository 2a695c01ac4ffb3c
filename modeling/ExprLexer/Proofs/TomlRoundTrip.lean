import Mathlib
import ExprLexer.Proofs.TomlRead

/-!
# The writer and the reader are inverse on documents of sections

The writer puts a document of sections down as its sections one after another, a blank line
between two of them: each a header line `[k]`, then a line `key = value` for each setting
(`toList_render`). The reader takes every line back as written. A header opens a new table of
the root, and the line of a setting defines its value in the table opened last
(`lines_setting`); so a section reads back as its table whatever follows it (`lines_section`),
and the sections as the whole document (`lines_sections`).

Each line takes at least one character and one step of the reader's fuel, so the fuel stays
above the length of what is left to read, and the fuel `parse` starts with is enough.

Main statement: `codec_roundTrips`.
-/

namespace ExprLexer.Toml

/-- The entries of a table; none for any other value. -/
def tableEntries : Value → List (String × Value)
  | .table es => es
  | _ => []

/-- The line of a setting `key = value`, as characters. -/
def settingChars (e : String × Value) : List Char :=
  e.1.toList ++ ' ' :: '=' :: ' ' :: ((valueText e.2).toList ++ ['\n'])

/-- The section of a table of settings under the header `[k]`, as characters. -/
def sectionChars (k : String) (es : List (String × Value)) : List Char :=
  '[' :: (k.toList ++ ']' :: '\n' :: es.flatMap settingChars)

/-- The table the reader builds for a section: defined by its header, its settings as leaves. -/
def sectionNode (es : List (String × Value)) : Node :=
  .table .header (es.map fun e => (e.1, .leaf e.2))

/-- The first of keyed entries: a bare key, not among the keys after it, and a value that
satisfies `p`; the entries after it are keyed too. -/
theorem IsKeyed.cons {p : Value → Prop} {e : String × Value} {es : List (String × Value)}
    (h : IsKeyed p (e :: es)) :
    IsBareKey e.1 ∧ p e.2 ∧ e.1 ∉ es.map Prod.fst ∧ IsKeyed p es := by
  obtain ⟨hnd, hall⟩ := h
  obtain ⟨hnotin, hnd⟩ := List.nodup_cons.1 hnd
  obtain ⟨hk, hp⟩ := hall e (by simp)
  exact ⟨hk, hp, hnotin, hnd, fun x hx => hall x (by simp [hx])⟩

section Settings

variable {v : Value}

/-- A setting's value begins with a quote or a bracket, never with a blank. -/
theorem skipSpaces_valueText (hv : v.IsSetting) (r : List Char) :
    skipSpaces ((valueText v).toList ++ r) = (valueText v).toList ++ r := by
  rcases hv with ⟨s, rfl⟩ | ⟨ws, rfl⟩
  · simp [valueText, toList_basicString, skipSpaces]
  · simp [toList_valueText_strings, skipSpaces]

/-- A setting's value, not followed by a quote, reads back as itself given fuel for its text. -/
theorem value_setting (hv : v.IsSetting) {r : List Char} (hr : r.head? ≠ some '"') {n : Nat}
    (hn : (valueText v).toList.length + 3 ≤ n) :
    value n 0 ((valueText v).toList ++ r) = .ok (.leaf v, r) := by
  rcases hv with ⟨s, rfl⟩ | ⟨ws, rfl⟩
  · obtain ⟨m, rfl⟩ : ∃ m, n = m + 1 := ⟨n - 1, by omega⟩
    exact value_basicString m 0 s hr
  · have hlen := length_le_valueText_strings ws
    obtain ⟨m, rfl⟩ : ∃ m, n = m + 3 := ⟨n - 3, by omega⟩
    exact value_stringArray ws r (by omega)

end Settings

/-! ### The text the writer gives -/

section Writer

/-- Settings are written one line each. -/
theorem toList_join_plainLines {es : List (String × Value)}
    (h : ∀ e ∈ es, IsBareKey e.1 ∧ e.2.IsSetting) :
    (String.join (plainLines es)).toList = es.flatMap settingChars := by
  induction es with
  | nil => rfl
  | cons e es ih =>
    obtain ⟨hk, hv⟩ := h e (by simp)
    have hline : plainLines (e :: es) =
        (keyText e.1 ++ " = " ++ valueText e.2 ++ "\n") :: plainLines es := by
      obtain ⟨k, v⟩ := e
      rcases hv with ⟨s, rfl⟩ | ⟨ws, rfl⟩ <;> rfl
    rw [hline, String.join_cons, String.toList_append, ih fun x hx => h x (by simp [hx]),
      keyText_of_isBareKey hk, List.flatMap_cons]
    simp [settingChars]

/-- Settings hold no table to be written inline. -/
theorem nestedLines_settings {es : List (String × Value)} (h : ∀ e ∈ es, e.2.IsSetting) :
    nestedLines es = [] := by
  induction es with
  | nil => rfl
  | cons e es ih =>
    have hrest : nestedLines (e :: es) = nestedLines es := by
      obtain ⟨k, v⟩ := e
      rcases h (k, v) (by simp) with ⟨s, rfl⟩ | ⟨ws, rfl⟩ <;> rfl
    rw [hrest, ih fun x hx => h x (by simp [hx])]

/-- A root of tables holds no plain entry. -/
theorem plainLines_tables {doc : List (String × Value)} (h : ∀ e ∈ doc, ∃ es, e.2 = .table es) :
    plainLines doc = [] := by
  induction doc with
  | nil => rfl
  | cons e doc ih =>
    obtain ⟨k, v⟩ := e
    obtain ⟨es, rfl⟩ := h (k, v) (by simp)
    exact ih fun x hx => h x (by simp [hx])

/-- The sections of a document of sections, as characters. -/
theorem map_toList_sections {doc : List (String × Value)} (h : IsSectioned doc) :
    (sections doc).map String.toList = doc.map fun e => sectionChars e.1 (tableEntries e.2) := by
  induction doc with
  | nil => rfl
  | cons e doc ih =>
    obtain ⟨hk, ⟨es, he, hes⟩, -, htail⟩ := IsKeyed.cons h
    obtain ⟨k, v⟩ := e
    subst he
    have hsec : sections ((k, .table es) :: doc) =
        ("[" ++ keyText k ++ "]\n" ++ String.join (plainLines es) ++
          String.join (nestedLines es)) :: sections doc := rfl
    rw [hsec, List.map_cons, ih htail, List.map_cons, keyText_of_isBareKey hk,
      nestedLines_settings fun x hx => (hes.2 x hx).2]
    simp [sectionChars, tableEntries, toList_join_plainLines hes.2]

/-- A document of sections is written as its sections, a blank line between two of them. -/
theorem toList_render {doc : List (String × Value)} (h : IsSectioned doc) :
    (render doc).toList = ['\n'].intercalate (doc.map fun e => sectionChars e.1 (tableEntries e.2)) := by
  have htables : ∀ e ∈ doc, ∃ es, e.2 = .table es := fun e he =>
    (h.2 e he).2.imp fun _ h => h.1
  rw [render, plainLines_tables htables, String.join_nil, String.empty_append,
    String.toList_intercalate, map_toList_sections h]
  rfl

end Writer

/-! ### Reading it back -/

section Reader

variable {pre : Entries} {k : String}

/-- Keys that a table does not hold are not held after another key is appended to it. -/
theorem Entries.get?_append_of_notMem {es : Entries} {k : String} {xs : List (String × Value)}
    (hk : k ∉ xs.map Prod.fst) (h : ∀ x ∈ xs, es.get? x.1 = none) (n : Node) :
    ∀ x ∈ xs, (es ++ [(k, n)]).get? x.1 = none := by
  intro x hx
  have hne : k ≠ x.1 := fun he => hk (he ▸ List.mem_map_of_mem hx)
  rw [Entries.get?_append_of_none (h x hx)]
  simp [Entries.get?, List.lookup_cons, beq_eq_false_iff_ne.2 (Ne.symm hne)]

/-- The line of a setting defines it in the table opened last. -/
theorem lines_setting {e : String × Value} (he : IsBareKey e.1 ∧ e.2.IsSetting)
    (hk : pre.get? k = none) {es : Entries} (hfresh : es.get? e.1 = none) (rest : List Char)
    {n : Nat} (hn : (settingChars e ++ rest).length + 4 ≤ n) :
    ∃ m, rest.length + 4 ≤ m ∧
      lines n (pre ++ [(k, .table .header es)]) [k] (settingChars e ++ rest) =
        lines m (pre ++ [(k, .table .header (es ++ [(e.1, .leaf e.2)]))]) [k] rest := by
  have hlen : (settingChars e ++ rest).length =
      e.1.toList.length + (valueText e.2).toList.length + rest.length + 4 := by
    simp [settingChars]
    omega
  obtain ⟨m, rfl⟩ : ∃ m, n = m + 2 := ⟨n - 2, by omega⟩
  have hv : value (m + 1) 0 ((valueText e.2).toList ++ '\n' :: rest) = .ok (.leaf e.2, '\n' :: rest) :=
    value_setting he.2 (by simp) (by omega)
  refine ⟨m + 1, by omega, ?_⟩
  simp only [settingChars, List.append_assoc, List.cons_append, List.nil_append]
  rw [lines_keyValue he.1 (skipSpaces_valueText he.2 _) hv,
    Entries.modifyAt_last hk (Entries.insertDotted_fresh hfresh)]
  rfl

/-- The lines of settings under distinct keys, none of them in the table opened last, define
them there in order. -/
theorem lines_settings (hk : pre.get? k = none) {ss : List (String × Value)}
    (hss : IsKeyed Value.IsSetting ss) (es : Entries) (hfresh : ∀ e ∈ ss, es.get? e.1 = none)
    (rest : List Char) {n : Nat} (hn : (ss.flatMap settingChars ++ rest).length + 4 ≤ n) :
    ∃ m, rest.length + 4 ≤ m ∧
      lines n (pre ++ [(k, .table .header es)]) [k] (ss.flatMap settingChars ++ rest) =
        lines m (pre ++ [(k, .table .header (es ++ ss.map fun e => (e.1, .leaf e.2)))]) [k]
          rest := by
  induction ss generalizing es n with
  | nil => exact ⟨n, by simpa using hn, by simp⟩
  | cons e ss ih =>
    obtain ⟨he, hv, hnotin, htail⟩ := IsKeyed.cons hss
    -- the first line defines `e`; the keys after it differ from its key
    obtain ⟨m, hm, h₁⟩ := lines_setting ⟨he, hv⟩ hk (hfresh e (by simp))
      (ss.flatMap settingChars ++ rest) (by simpa [List.append_assoc] using hn)
    obtain ⟨m', hm', h₂⟩ := ih htail _
      (Entries.get?_append_of_notMem hnotin (fun x hx => hfresh x (by simp [hx])) _) hm
    refine ⟨m', hm', ?_⟩
    rw [List.flatMap_cons, List.append_assoc, h₁, h₂]
    simp

/-- A section whose key the root does not hold yet reads as its table, appended to the root,
whatever follows it. -/
theorem lines_section (hk : IsBareKey k) (hfresh : pre.get? k = none)
    {es : List (String × Value)} (hes : IsKeyed Value.IsSetting es) (current : List String)
    (rest : List Char) {n : Nat} (hn : (sectionChars k es ++ rest).length + 4 ≤ n) :
    ∃ m, rest.length + 4 ≤ m ∧
      lines n pre current (sectionChars k es ++ rest) =
        lines m (pre ++ [(k, sectionNode es)]) [k] rest := by
  have hlen : (sectionChars k es ++ rest).length =
      k.toList.length + (es.flatMap settingChars ++ rest).length + 3 := by
    simp [sectionChars]
    omega
  obtain ⟨m, rfl⟩ : ∃ m, n = m + 2 := ⟨n - 2, by omega⟩
  obtain ⟨m', hm', h⟩ := lines_settings hfresh hes [] (fun _ _ => rfl) rest
    (n := m + 1) (by omega)
  refine ⟨m', hm', ?_⟩
  simp only [sectionChars, List.cons_append, List.append_assoc]
  rw [lines_header hk, Entries.openHeader_fresh hfresh]
  simp only [bind, Except.bind]
  rw [h, List.nil_append]
  rfl

/-- The sections of a document, a blank line between two of them, read as their tables appended
to the root, whose keys they do not hold. -/
theorem lines_sections {doc : List (String × Value)} (h : IsSectioned doc)
    (pre : Entries) (hfresh : ∀ e ∈ doc, pre.get? e.1 = none) (current : List String) {n : Nat}
    (hn : (['\n'].intercalate (doc.map fun e => sectionChars e.1 (tableEntries e.2))).length + 4 ≤ n) :
    lines n pre current (['\n'].intercalate (doc.map fun e => sectionChars e.1 (tableEntries e.2))) =
      .ok (pre ++ doc.map fun e => (e.1, sectionNode (tableEntries e.2))) := by
  induction doc generalizing pre current n with
  | nil =>
    obtain ⟨m, rfl⟩ : ∃ m, n = m + 1 := ⟨n - 1, by simp at hn; omega⟩
    simpa using lines_nil
  | cons e doc ih =>
    obtain ⟨hk, ⟨es, he, hes⟩, hnotin, htail⟩ := IsKeyed.cons h
    have hsec : sectionChars e.1 (tableEntries e.2) = sectionChars e.1 es := by rw [he]; rfl
    have hnode : sectionNode (tableEntries e.2) = sectionNode es := by rw [he]; rfl
    -- the keys of the later sections differ from the key of this one
    have hfresh' : ∀ x ∈ doc, (pre ++ [(e.1, sectionNode es)]).get? x.1 = none :=
      Entries.get?_append_of_notMem hnotin (fun x hx => hfresh x (by simp [hx])) _
    cases doc with
    | nil =>
      rw [List.map_singleton, List.intercalate_singleton, hsec] at hn ⊢
      obtain ⟨m, hm, h₁⟩ := lines_section hk (hfresh e (by simp)) hes current []
        (by simpa using hn)
      obtain ⟨m', rfl⟩ : ∃ m', m = m' + 1 := ⟨m - 1, by simp at hm; omega⟩
      rw [← List.append_nil (sectionChars e.1 es), h₁, lines_nil, List.map_singleton, hnode]
    | cons e' doc =>
      -- the first section, then a blank line before the others
      have hsplit : ['\n'].intercalate
          ((e :: e' :: doc).map fun e => sectionChars e.1 (tableEntries e.2)) =
          sectionChars e.1 es ++
            '\n' :: ['\n'].intercalate ((e' :: doc).map fun e => sectionChars e.1 (tableEntries e.2)) := by
        rw [List.map_cons, List.map_cons, List.intercalate_cons_cons, hsec, List.append_assoc,
          List.singleton_append]
      rw [hsplit] at hn ⊢
      obtain ⟨m, hm, h₁⟩ := lines_section hk (hfresh e (by simp)) hes current _ hn
      obtain ⟨m', rfl⟩ : ∃ m', m = m' + 1 := ⟨m - 1, by simp at hm; omega⟩
      rw [h₁, lines_newline, ih htail _ hfresh' [e.1] (by simp only [List.length_cons] at hm; omega)]
      simp [hnode]

/-- The root the reader builds from a document of sections stands for that document. -/
theorem entriesToValue_sections {doc : List (String × Value)} (h : IsSectioned doc) :
    entriesToValue (doc.map fun e => (e.1, sectionNode (tableEntries e.2))) = doc := by
  -- settings are leaves, each standing for its value
  have hleaves : ∀ es : List (String × Value),
      entriesToValue (es.map fun e => (e.1, Node.leaf e.2)) = es := by
    intro es
    induction es with
    | nil => rfl
    | cons e es ih => simp [entriesToValue, Node.toValue, ih]
  induction doc with
  | nil => rfl
  | cons e doc ih =>
    obtain ⟨-, ⟨es, he, -⟩, -, htail⟩ := IsKeyed.cons h
    obtain ⟨k, v⟩ := e
    subst he
    simp only [List.map_cons, entriesToValue, ih htail]
    simp [sectionNode, tableEntries, Node.toValue, hleaves]

end Reader

/-- This library's TOML reader gives back every document of sections its writer wrote. -/
theorem codec_roundTrips : codec.RoundTrips := by
  intro doc h
  have htext := toList_render h
  have hhead : (['\n'].intercalate (doc.map fun e => sectionChars e.1 (tableEntries e.2))).head? ≠
      some '\uFEFF' := by
    cases doc with
    | nil => simp
    | cons e doc => cases doc <;> simp [sectionChars]
  show parse (render doc) = .ok (.table doc)
  rw [parse_of_toList htext hhead, lines_sections h [] (fun _ _ => rfl) [] (by omega),
    List.nil_append]
  show Except.ok (Value.table (entriesToValue _)) = _
  rw [entriesToValue_sections h]

end ExprLexer.Toml
