import ExprLexer.Text.Utf8

/-!
# Reading the bytes of a text

The lexer reads a source as its UTF-8 bytes and reports byte offsets, while the token language is
said of its characters. This module ties the two together: the bytes of a text are the encodings
of its characters in turn, the reader decodes the encoding of any character back to it
(`decodeChar?_utf8EncodeChar_append`), so the character seen at the first byte of a character is
that character (`charAt_of_toList`), the end of the encoding of any first characters is a
boundary (`isBoundary_of_flatMap`), and over a run of ASCII characters every offset is a boundary
and a slice is the run itself (`slice?_of_ascii`).
-/

namespace ExprLexer.Utf8

/-- The characters below 128, whose encoding is one byte. -/
def IsAscii (cs : List Char) : Prop := ∀ c ∈ cs, c.toNat < 128

@[simp] theorem isAscii_nil : IsAscii [] := by simp [IsAscii]

@[simp] theorem isAscii_append {cs ds : List Char} : IsAscii (cs ++ ds) ↔ IsAscii cs ∧ IsAscii ds := by
  simp only [IsAscii, List.mem_append]
  exact ⟨fun h => ⟨fun c hc => h c (.inl hc), fun c hc => h c (.inr hc)⟩,
    fun ⟨h₁, h₂⟩ c hc => hc.elim (h₁ c) (h₂ c)⟩

@[simp] theorem isAscii_cons {c : Char} {cs : List Char} :
    IsAscii (c :: cs) ↔ c.toNat < 128 ∧ IsAscii cs := by
  simp [IsAscii]

theorem IsAscii.drop {cs : List Char} (h : IsAscii cs) (n : Nat) : IsAscii (cs.drop n) :=
  fun c hc => h c (List.mem_of_mem_drop hc)

@[simp] theorem bytes_ofList (cs : List Char) :
    (bytes (String.ofList cs)).toList = cs.flatMap String.utf8EncodeChar := by
  simp [bytes, List.utf8Encode]

@[simp] theorem size_bytes_ofList (cs : List Char) :
    (bytes (String.ofList cs)).size = (cs.flatMap String.utf8EncodeChar).length := by
  rw [← Array.length_toList, bytes_ofList]

theorem utf8EncodeChar_of_lt {c : Char} (h : c.toNat < 128) :
    String.utf8EncodeChar c = [UInt8.ofNat c.toNat] := by
  have hc : c.toNat = c.val.toNat := rfl
  simp only [String.utf8EncodeChar]
  rw [if_pos (by omega)]
  rfl

/-- Every byte of the encoding of a character outside ASCII is at least `0x80`. -/
theorem le_toNat_of_mem_utf8EncodeChar {c : Char} (hc : 128 ≤ c.toNat) :
    ∀ b ∈ String.utf8EncodeChar c, 128 ≤ b.toNat := by
  have hcv : c.val.toNat = c.toNat := rfl
  simp only [String.utf8EncodeChar, hcv]
  rw [if_neg (by omega)]
  -- two, three or four bytes, each with its top bit set
  split
  · simp [UInt8.toNat_ofNat']
    omega
  · split <;> simp [UInt8.toNat_ofNat'] <;> omega

/-- An ASCII text is encoded one byte per character. -/
theorem flatMap_utf8EncodeChar_of_ascii {cs : List Char} (h : IsAscii cs) :
    cs.flatMap String.utf8EncodeChar = cs.map (fun c => UInt8.ofNat c.toNat) := by
  induction cs with
  | nil => rfl
  | cons c cs ih =>
    rw [isAscii_cons] at h
    rw [List.flatMap_cons, utf8EncodeChar_of_lt h.1, ih h.2, List.map_cons, List.singleton_append]

theorem length_flatMap_of_ascii {cs : List Char} (h : IsAscii cs) :
    (cs.flatMap String.utf8EncodeChar).length = cs.length := by
  rw [flatMap_utf8EncodeChar_of_ascii h, List.length_map]

/-- The byte size of a text is the size of its encoding. -/
theorem utf8ByteSize_eq_size_bytes (s : String) : s.utf8ByteSize = (bytes s).size := by
  rw [← String.size_toByteArray]
  rfl

/-- An ASCII text has as many bytes as characters. -/
theorem utf8ByteSize_ofList_of_ascii {cs : List Char} (h : IsAscii cs) :
    (String.ofList cs).utf8ByteSize = cs.length := by
  rw [utf8ByteSize_eq_size_bytes, size_bytes_ofList, length_flatMap_of_ascii h]

/-! ### Decoding one character -/

theorem isContinuation_iff (b : UInt8) :
    isContinuation b = true ↔ 0x80 ≤ b.toNat ∧ b.toNat ≤ 0xBF := by
  simp [isContinuation, UInt8.le_iff_toNat_le]

theorem decodeChar?_two {a b : UInt8} (r : List UInt8) (ha : 0xC2 ≤ a.toNat ∧ a.toNat < 0xE0)
    (hb : 0x80 ≤ b.toNat ∧ b.toNat ≤ 0xBF) :
    decodeChar? (a :: b :: r) = some (scalar (a.toNat - 0xC0) [b], r) := by
  have h₁ : ¬ a < 0x80 := by rw [UInt8.lt_iff_toNat_lt]; simp; omega
  have h₂ : ¬ a < 0xC2 := by rw [UInt8.lt_iff_toNat_lt]; simp; omega
  have h₃ : a < 0xE0 := by rw [UInt8.lt_iff_toNat_lt]; simp; omega
  simp [decodeChar?, h₁, h₂, h₃, (isContinuation_iff b).2 hb]

/-- A three-byte form decodes when its second byte is in the range RFC 3629 gives for its lead
byte: no overlong form after `E0`, no surrogate after `ED`. -/
theorem decodeChar?_three {a b c : UInt8} (r : List UInt8) (ha : 0xE0 ≤ a.toNat ∧ a.toNat < 0xF0)
    (hb : 0x80 ≤ b.toNat ∧ b.toNat ≤ 0xBF) (hlo : a.toNat = 0xE0 → 0xA0 ≤ b.toNat)
    (hhi : a.toNat = 0xED → b.toNat ≤ 0x9F) (hc : 0x80 ≤ c.toNat ∧ c.toNat ≤ 0xBF) :
    decodeChar? (a :: b :: c :: r) = some (scalar (a.toNat - 0xE0) [b, c], r) := by
  have h₁ : ¬ a < 0x80 := by rw [UInt8.lt_iff_toNat_lt]; simp; omega
  have h₂ : ¬ a < 0xC2 := by rw [UInt8.lt_iff_toNat_lt]; simp; omega
  have h₃ : ¬ a < 0xE0 := by rw [UInt8.lt_iff_toNat_lt]; simp; omega
  have h₄ : a < 0xF0 := by rw [UInt8.lt_iff_toNat_lt]; simp; omega
  have hl : (if a = 0xE0 then (0xA0 : UInt8) else 0x80) ≤ b := by
    split
    · rename_i h; rw [UInt8.le_iff_toNat_le]; exact hlo (by simp [h])
    · rw [UInt8.le_iff_toNat_le]; simpa using hb.1
  have hh : b ≤ (if a = 0xED then (0x9F : UInt8) else 0xBF) := by
    split
    · rename_i h; rw [UInt8.le_iff_toNat_le]; exact hhi (by simp [h])
    · rw [UInt8.le_iff_toNat_le]; simpa using hb.2
  simp [decodeChar?, h₁, h₂, h₃, h₄, hl, hh, (isContinuation_iff c).2 hc]

/-- A four-byte form decodes when its second byte is in range: no overlong form after `F0`,
nothing above U+10FFFF after `F4`. -/
theorem decodeChar?_four {a b c d : UInt8} (r : List UInt8) (ha : 0xF0 ≤ a.toNat ∧ a.toNat < 0xF5)
    (hb : 0x80 ≤ b.toNat ∧ b.toNat ≤ 0xBF) (hlo : a.toNat = 0xF0 → 0x90 ≤ b.toNat)
    (hhi : a.toNat = 0xF4 → b.toNat ≤ 0x8F) (hc : 0x80 ≤ c.toNat ∧ c.toNat ≤ 0xBF)
    (hd : 0x80 ≤ d.toNat ∧ d.toNat ≤ 0xBF) :
    decodeChar? (a :: b :: c :: d :: r) = some (scalar (a.toNat - 0xF0) [b, c, d], r) := by
  have h₁ : ¬ a < 0x80 := by rw [UInt8.lt_iff_toNat_lt]; simp; omega
  have h₂ : ¬ a < 0xC2 := by rw [UInt8.lt_iff_toNat_lt]; simp; omega
  have h₃ : ¬ a < 0xE0 := by rw [UInt8.lt_iff_toNat_lt]; simp; omega
  have h₄ : ¬ a < 0xF0 := by rw [UInt8.lt_iff_toNat_lt]; simp; omega
  have h₅ : a < 0xF5 := by rw [UInt8.lt_iff_toNat_lt]; simp; omega
  have hl : (if a = 0xF0 then (0x90 : UInt8) else 0x80) ≤ b := by
    split
    · rename_i h; rw [UInt8.le_iff_toNat_le]; exact hlo (by simp [h])
    · rw [UInt8.le_iff_toNat_le]; simpa using hb.1
  have hh : b ≤ (if a = 0xF4 then (0x8F : UInt8) else 0xBF) := by
    split
    · rename_i h; rw [UInt8.le_iff_toNat_le]; exact hhi (by simp [h])
    · rw [UInt8.le_iff_toNat_le]; simpa using hb.2
  simp [decodeChar?, h₁, h₂, h₃, h₄, h₅, hl, hh, (isContinuation_iff c).2 hc,
    (isContinuation_iff d).2 hd]

/-- The reader reads the encoding of a character back to it, whatever bytes follow. -/
theorem decodeChar?_utf8EncodeChar_append (c : Char) (r : List UInt8) :
    decodeChar? (String.utf8EncodeChar c ++ r) = some (c, r) := by
  have hv := c.valid
  have hcv : c.toNat = c.val.toNat := rfl
  simp only [UInt32.isValidChar, Nat.isValidChar] at hv
  -- the code point put back together from the payload bits is that of `c`
  have key : ∀ n, n = c.val.toNat → Char.ofNat n = c := by
    rintro n rfl; exact Char.ofNat_toNat c
  unfold String.utf8EncodeChar
  simp only
  split
  · rw [List.singleton_append,
      decodeChar?_ascii _ (by rw [UInt8.lt_iff_toNat_lt, UInt8.toNat_ofNat']; simp; omega),
      key _ (by rw [UInt8.toNat_ofNat']; omega)]
  · split
    · simp only [List.cons_append, List.nil_append]
      rw [decodeChar?_two] <;> simp only [scalar, List.foldl, UInt8.toNat_ofNat'] <;> try omega
      rw [key _ (by omega)]
    · split
      · simp only [List.cons_append, List.nil_append]
        rw [decodeChar?_three] <;> simp only [scalar, List.foldl, UInt8.toNat_ofNat'] <;> try omega
        rw [key _ (by omega)]
      · simp only [List.cons_append, List.nil_append]
        rw [decodeChar?_four] <;> simp only [scalar, List.foldl, UInt8.toNat_ofNat'] <;> try omega
        rw [key _ (by omega)]

/-- A byte that the reader accepts as the start of a character is no continuation byte. -/
theorem isContinuation_eq_false_of_decodeChar? {b : UInt8} {r : List UInt8} {x : Char × List UInt8}
    (h : decodeChar? (b :: r) = some x) : isContinuation b = false := by
  rw [Bool.eq_false_iff]
  intro hc
  rw [isContinuation_iff] at hc
  have h₁ : ¬ b < 0x80 := by rw [UInt8.lt_iff_toNat_lt]; simp; omega
  have h₂ : b < 0xC2 := by rw [UInt8.lt_iff_toNat_lt]; simp; omega
  simp [decodeChar?, h₁, h₂] at h

theorem exists_cons_utf8EncodeChar (c : Char) : ∃ b bs, String.utf8EncodeChar c = b :: bs := by
  cases h : String.utf8EncodeChar c with
  | nil => exact absurd h String.utf8EncodeChar_ne_nil
  | cons b bs => exact ⟨b, bs, rfl⟩

theorem length_utf8EncodeChar_le (c : Char) : (String.utf8EncodeChar c).length ≤ 4 := by
  rw [String.length_utf8EncodeChar]; exact Char.utf8Size_le_four c

/-- The encoding of a text is read back to the text. -/
theorem decode_flatMap_utf8EncodeChar (cs : List Char) :
    decode (cs.flatMap String.utf8EncodeChar) = some cs := by
  induction cs with
  | nil => simp [decode, decodeChar?]
  | cons c cs ih =>
    rw [List.flatMap_cons, decode, decodeChar?_utf8EncodeChar_append]
    simp [ih]

/-! ### The character seen at an offset -/

/-- Standing on the first byte of a character, the reader sees that character, whatever comes
before and after it. -/
theorem charAt_of_toList {bs : Array UInt8} {pre post : List UInt8} {c : Char}
    (h : bs.toList = pre ++ String.utf8EncodeChar c ++ post) : charAt bs pre.length = c := by
  obtain ⟨b, es, he⟩ := exists_cons_utf8EncodeChar c
  have hdec := decodeChar?_utf8EncodeChar_append c post
  rw [he, List.cons_append] at hdec
  have hget : bs[pre.length]? = some b := by
    rw [← Array.getElem?_toList, h, he, List.append_assoc, List.getElem?_append_right (by omega)]
    simp
  unfold charAt
  rw [hget]
  simp only
  split
  · rename_i hb
    rw [decodeChar?_ascii _ hb] at hdec
    exact (Prod.mk.inj (Option.some.inj hdec)).1
  · rw [isContinuation_eq_false_of_decodeChar? hdec]
    have hext : (bs.extract pre.length (pre.length + 4)).toList
        = String.utf8EncodeChar c ++ post.take (4 - (String.utf8EncodeChar c).length) := by
      rw [Array.toList_extract, List.extract_eq_take_drop, h, List.append_assoc,
        List.drop_left, Nat.add_sub_cancel_left, List.take_append,
        List.take_of_length_le (length_utf8EncodeChar_le c)]
    rw [hext, decodeChar?_utf8EncodeChar_append]
    rfl

/-- Past the last byte the reader sees NUL. -/
theorem charAt_size (bs : Array UInt8) : charAt bs bs.size = '\x00' := by
  simp [charAt]

/-! ### Boundaries -/

theorem toList_bytes (s : String) : (bytes s).toList = s.toList.flatMap String.utf8EncodeChar := by
  have h := bytes_ofList s.toList
  rwa [String.ofList_toList] at h

/-- The end of the encoding of the first characters of a text is a boundary: the first byte of
the next character, which is no continuation byte, or the end of the bytes. -/
theorem isBoundary_of_flatMap {bs : Array UInt8} {xs ys : List Char}
    (h : bs.toList = (xs ++ ys).flatMap String.utf8EncodeChar) :
    isBoundary bs (xs.flatMap String.utf8EncodeChar).length = true := by
  rw [List.flatMap_append] at h
  unfold isBoundary
  cases ys with
  | nil =>
    have hsz : bs.size = (xs.flatMap String.utf8EncodeChar).length := by
      rw [← Array.length_toList, h]; simp
    simp [hsz]
  | cons c ys =>
    obtain ⟨b, es, he⟩ := exists_cons_utf8EncodeChar c
    have hget : bs[(xs.flatMap String.utf8EncodeChar).length]? = some b := by
      rw [← Array.getElem?_toList, h, List.flatMap_cons, he, List.getElem?_append_right (by simp)]
      simp
    have hdec := decodeChar?_utf8EncodeChar_append c (ys.flatMap String.utf8EncodeChar)
    rw [he, List.cons_append] at hdec
    rw [hget]
    simp [isContinuation_eq_false_of_decodeChar? hdec]

/-! ### Runs of ASCII characters -/

/-- An offset inside or at the end of an ASCII run that begins the bytes is a boundary. -/
theorem isBoundary_of_ascii {bs : Array UInt8} {pre rest : List Char}
    (h : bs.toList = (pre ++ rest).flatMap String.utf8EncodeChar) (ha : IsAscii pre) {i : Nat}
    (hi : i ≤ pre.length) : isBoundary bs i = true := by
  rcases Nat.lt_or_ge i pre.length with hlt | hge
  · -- an ASCII byte
    rw [List.flatMap_append, flatMap_utf8EncodeChar_of_ascii ha] at h
    unfold isBoundary
    have hget : bs[i]? = some (UInt8.ofNat pre[i].toNat) := by
      rw [← Array.getElem?_toList, h, List.getElem?_append_left (by simpa using hlt),
        List.getElem?_map, List.getElem?_eq_getElem hlt]
      rfl
    have hlt' : pre[i].toNat < 128 := ha _ (List.getElem_mem hlt)
    have hnc : isContinuation (UInt8.ofNat pre[i].toNat) = false := by
      rw [Bool.eq_false_iff, ne_eq, isContinuation_iff, UInt8.toNat_ofNat']
      omega
    simp [hget, hnc]
  · -- the end of the run, where the next character begins
    obtain rfl : i = pre.length := by omega
    simpa [length_flatMap_of_ascii ha] using isBoundary_of_flatMap h

/-- The bytes between two offsets of an ASCII run that begins the bytes encode that part of the
run. -/
theorem toList_extract_of_ascii {bs : Array UInt8} {pre rest : List Char}
    (h : bs.toList = (pre ++ rest).flatMap String.utf8EncodeChar) (ha : IsAscii pre) {start : Nat}
    (hs : start ≤ pre.length) :
    (bs.extract start pre.length).toList = (pre.drop start).flatMap String.utf8EncodeChar := by
  rw [Array.toList_extract, List.extract_eq_take_drop, h, List.flatMap_append,
    flatMap_utf8EncodeChar_of_ascii ha, flatMap_utf8EncodeChar_of_ascii (ha.drop start),
    List.drop_append_of_le_length (by simpa using hs), List.take_append_of_le_length (by simp),
    List.take_of_length_le (by simp), List.map_drop]

/-- Between two offsets of an ASCII run that begins the bytes, the text is that part of the run. -/
theorem slice?_of_ascii {bs : Array UInt8} {pre rest : List Char}
    (h : bs.toList = (pre ++ rest).flatMap String.utf8EncodeChar) (ha : IsAscii pre) {start : Nat}
    (hs : start ≤ pre.length) : slice? bs start pre.length = some (String.ofList (pre.drop start)) := by
  unfold slice?
  rw [if_pos (by simp [hs, isBoundary_of_ascii h ha hs, isBoundary_of_ascii h ha (Nat.le_refl _)]),
    toList_extract_of_ascii h ha hs, decode_flatMap_utf8EncodeChar]
  rfl

end ExprLexer.Utf8
