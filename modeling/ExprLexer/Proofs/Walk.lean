import Mathlib.Logic.Function.Iterate
import ExprLexer.Cursor
import ExprLexer.Proofs.Utf8

/-!
# A cursor walked byte by byte

A cursor moves one byte a step and stays at the end once there, so after `k` steps from the start
of a text it stands at `min k |s|` bytes. What it shows is read afresh from the bytes at its
offset, and said by the characters of the text instead (`Utf8.seenAt`) it is the character that
begins there, U+FFFD strictly inside a character, and NUL at the end: the bytes of a character
after its first are continuation bytes, which no character begins with. For the same reason an
offset is a boundary of the byte reader exactly when it is a valid position of the text
(`isBoundary_bytes_iff`), so the text from an offset to the cursor is the text between the two
when both are valid and in order, and empty otherwise.

Main statement: `Cursor.advance_iterate_coherent`.
-/

namespace ExprLexer

namespace Utf8

/-- The character that a reader standing at byte `p` of the text with characters `cs` sees, told
by the characters: the one that begins at `p`, U+FFFD strictly inside one, NUL at or past the
end. -/
def seenAt : List Char → Nat → Char
  | [], _ => '\x00'
  | c :: cs, p => if p = 0 then c else if p < c.utf8Size then '�' else seenAt cs (p - c.utf8Size)

/-! ### The bytes inside a character -/

/-- Every byte of a character's encoding after the first is a continuation byte. -/
theorem isContinuation_of_mem_tail {c : Char} {b : UInt8}
    (hb : b ∈ (String.utf8EncodeChar c).tail) : isContinuation b = true := by
  -- each byte after the first holds six payload bits below `0x80`
  have key : ∀ n : Nat, isContinuation (UInt8.ofNat (n % 64 + 128)) = true := by
    intro n
    rw [isContinuation_iff, UInt8.toNat_ofNat']
    omega
  unfold String.utf8EncodeChar at hb
  dsimp only at hb
  split at hb
  · simp at hb
  · split at hb
    · simp only [List.tail_cons, List.mem_singleton] at hb
      rw [hb]; exact key _
    · split at hb
      · simp only [List.tail_cons, List.mem_cons, List.not_mem_nil, or_false] at hb
        rcases hb with rfl | rfl <;> exact key _
      · simp only [List.tail_cons, List.mem_cons, List.not_mem_nil, or_false] at hb
        rcases hb with rfl | rfl | rfl <;> exact key _

variable {bs : Array UInt8} {pre post : List UInt8} {c : Char} {j : Nat}

/-- Strictly inside a character the bytes hold a continuation byte. -/
theorem getElem?_inside (h : bs.toList = pre ++ String.utf8EncodeChar c ++ post) (hj0 : 0 < j)
    (hj : j < c.utf8Size) : ∃ b, bs[pre.length + j]? = some b ∧ isContinuation b = true := by
  obtain ⟨b₀, es, he⟩ := exists_cons_utf8EncodeChar c
  have hlen : j - 1 < es.length := by
    have := String.length_utf8EncodeChar c
    rw [he, List.length_cons] at this
    omega
  refine ⟨es[j - 1], ?_, isContinuation_of_mem_tail (by rw [he]; exact List.getElem_mem hlen)⟩
  rw [← Array.getElem?_toList, h, he, List.append_assoc, List.getElem?_append_right (by omega),
    Nat.add_sub_cancel_left, List.cons_append, List.getElem?_cons,
    if_neg (by omega), List.getElem?_append_left hlen, List.getElem?_eq_getElem hlen]

/-- Strictly inside a character the reader sees U+FFFD. -/
theorem charAt_inside (h : bs.toList = pre ++ String.utf8EncodeChar c ++ post) (hj0 : 0 < j)
    (hj : j < c.utf8Size) : charAt bs (pre.length + j) = '�' := by
  obtain ⟨b, hget, hc⟩ := getElem?_inside h hj0 hj
  have hb : ¬ b < 0x80 := by
    rw [isContinuation_iff] at hc
    rw [UInt8.lt_iff_toNat_lt]
    simp only [UInt8.reduceToNat]
    omega
  unfold charAt
  rw [hget]
  simp only [hb, if_false, hc, if_true]

/-- Strictly inside a character the byte reader finds no boundary. -/
theorem isBoundary_inside (h : bs.toList = pre ++ String.utf8EncodeChar c ++ post) (hj0 : 0 < j)
    (hj : j < c.utf8Size) : isBoundary bs (pre.length + j) = false := by
  obtain ⟨b, hget, hc⟩ := getElem?_inside h hj0 hj
  unfold isBoundary
  rw [hget]
  simp [hc]
  omega

/-- Past the last byte the reader sees NUL. -/
theorem charAt_of_size_le {i : Nat} (h : bs.size ≤ i) : charAt bs i = '\x00' := by
  unfold charAt
  rw [Array.getElem?_eq_none h]

/-- Past the last byte there is no boundary. -/
theorem isBoundary_of_size_lt {i : Nat} (h : bs.size < i) : isBoundary bs i = false := by
  unfold isBoundary
  rw [Array.getElem?_eq_none (Nat.le_of_lt h)]
  simp
  omega

/-! ### The character seen at an offset -/

/-- Behind any bytes `pre`, the reader at offset `p` into the encoding of `cs` sees `seenAt cs p`:
induction on the characters, each one taking its own bytes. -/
theorem charAt_eq_seenAt {cs : List Char} (h : bs.toList = pre ++ cs.flatMap String.utf8EncodeChar)
    (p : Nat) : charAt bs (pre.length + p) = seenAt cs p := by
  induction cs generalizing pre p with
  | nil =>
    have hsz : bs.size = pre.length := by rw [← Array.length_toList, h]; simp
    rw [seenAt, charAt_of_size_le (by omega)]
  | cons d cs ih =>
    have h' : bs.toList = pre ++ String.utf8EncodeChar d ++ cs.flatMap String.utf8EncodeChar := by
      rw [h, List.flatMap_cons, List.append_assoc]
    rcases Nat.eq_zero_or_pos p with rfl | hp
    · -- the first byte of `d`
      rw [seenAt, if_pos rfl, Nat.add_zero]
      exact charAt_of_toList h'
    by_cases hin : p < d.utf8Size
    · rw [seenAt, if_neg (by omega), if_pos hin]
      exact charAt_inside h' hp hin
    · -- past `d`, the rest of the text behind the bytes of `d`
      rw [seenAt, if_neg (by omega), if_neg hin]
      have := ih (show bs.toList = (pre ++ String.utf8EncodeChar d) ++
        cs.flatMap String.utf8EncodeChar by rw [h', List.append_assoc]) (p - d.utf8Size)
      rwa [List.length_append, String.length_utf8EncodeChar, Nat.add_assoc,
        Nat.add_sub_cancel' (by omega)] at this

/-- The character seen at an offset of a text, told by its characters. -/
theorem charAt_bytes (s : String) (p : Nat) : charAt (bytes s) p = seenAt s.toList p := by
  simpa using charAt_eq_seenAt ((toList_bytes s).trans (List.nil_append _).symm) p

/-! ### Boundaries are valid positions -/

/-- Behind any bytes `pre`, a boundary at offset `p` into the encoding of `cs` ends the encoding
of some first characters of `cs`. -/
theorem exists_split_of_isBoundary {cs : List Char}
    (h : bs.toList = pre ++ cs.flatMap String.utf8EncodeChar) {p : Nat}
    (hb : isBoundary bs (pre.length + p) = true) :
    ∃ xs ys, cs = xs ++ ys ∧ (xs.flatMap String.utf8EncodeChar).length = p := by
  induction cs generalizing pre p with
  | nil =>
    have hsz : bs.size = pre.length := by rw [← Array.length_toList, h]; simp
    -- past the end there is no boundary, so `p` is zero
    rcases Nat.eq_zero_or_pos p with rfl | hp
    · exact ⟨[], [], rfl, rfl⟩
    · rw [isBoundary_of_size_lt (by omega)] at hb
      exact absurd hb Bool.false_ne_true
  | cons d cs ih =>
    have h' : bs.toList = pre ++ String.utf8EncodeChar d ++ cs.flatMap String.utf8EncodeChar := by
      rw [h, List.flatMap_cons, List.append_assoc]
    rcases Nat.eq_zero_or_pos p with rfl | hp
    · exact ⟨[], d :: cs, rfl, rfl⟩
    by_cases hin : p < d.utf8Size
    · rw [isBoundary_inside h' hp hin] at hb
      exact absurd hb Bool.false_ne_true
    · have hb' :
          isBoundary bs ((pre ++ String.utf8EncodeChar d).length + (p - d.utf8Size)) = true := by
        rwa [List.length_append, String.length_utf8EncodeChar, Nat.add_assoc,
          Nat.add_sub_cancel' (by omega)]
      obtain ⟨xs, ys, rfl, hl⟩ := ih (by rw [h', List.append_assoc]) hb'
      refine ⟨d :: xs, ys, rfl, ?_⟩
      rw [List.flatMap_cons, List.length_append, String.length_utf8EncodeChar, hl]
      omega

/-- A byte offset of a text is a boundary of the byte reader exactly when it is a valid position
of the text. -/
theorem isBoundary_bytes_iff (s : String) (p : Nat) :
    isBoundary (bytes s) p = true ↔ (⟨p⟩ : String.Pos.Raw).IsValid s := by
  rw [String.Pos.Raw.isValid_iff_exists_append]
  constructor
  · intro hb
    obtain ⟨xs, ys, hs, hl⟩ :=
      exists_split_of_isBoundary ((toList_bytes s).trans (List.nil_append _).symm)
        (by simpa using hb)
    refine ⟨String.ofList xs, String.ofList ys, ?_, ?_⟩
    · rw [← String.ofList_append, ← hs, String.ofList_toList]
    · rw [String.Pos.Raw.ext_iff, String.byteIdx_rawEndPos, utf8ByteSize_eq_size_bytes,
        size_bytes_ofList, hl]
  · rintro ⟨u, v, rfl, hp⟩
    have hb := isBoundary_of_flatMap (show (bytes (u ++ v)).toList =
      (u.toList ++ v.toList).flatMap String.utf8EncodeChar by rw [toList_bytes, String.toList_append])
    have hl : (u.toList.flatMap String.utf8EncodeChar).length = p := by
      rw [← size_bytes_ofList, String.ofList_toList, ← utf8ByteSize_eq_size_bytes,
        ← String.byteIdx_rawEndPos, ← hp]
    rwa [hl] at hb

end Utf8

namespace Cursor

open Utf8

variable {s : String} {c : Cursor}

/-! ### Steps -/

theorem pos_advance_eq (c : Cursor) : c.advance.pos = min (c.pos + 1) c.bytes.size := by
  have := c.pos_le
  by_cases h : c.pos < c.bytes.size
  · rw [pos_advance c h]
    omega
  · rw [advance, dif_neg h]
    omega

/-- After `k` steps a cursor is `k` bytes further on, or at the end. -/
theorem iterate_advance (c : Cursor) (k : Nat) :
    (advance^[k] c).bytes = c.bytes ∧ (advance^[k] c).pos = min (c.pos + k) c.bytes.size := by
  induction k with
  | zero => simp [Nat.min_eq_left c.pos_le]
  | succ k ih =>
    rw [Function.iterate_succ_apply', bytes_advance, pos_advance_eq, ih.1, ih.2]
    refine ⟨rfl, ?_⟩
    omega

/-! ### What a cursor over a text shows -/

theorem atEnd_iff_pos_eq (hc : c.bytes = Utf8.bytes s) :
    c.atEnd = true ↔ c.pos = s.utf8ByteSize := by
  have := c.pos_le
  rw [atEnd, decide_eq_true_iff, utf8ByteSize_eq_size_bytes, ← hc]
  omega

theorem current_eq_seenAt (hc : c.bytes = Utf8.bytes s) : c.current = seenAt s.toList c.pos := by
  rw [current, hc, charAt_bytes]

/-- Between two valid positions of the text, in order, the slice is the text whose bytes are the
bytes between them. -/
theorem bytes_sliceFrom_of_isValid (hc : c.bytes = Utf8.bytes s) {n : Nat} (hn : n ≤ c.pos)
    (hv : (⟨n⟩ : String.Pos.Raw).IsValid s) (hp : (⟨c.pos⟩ : String.Pos.Raw).IsValid s) :
    Utf8.bytes (c.sliceFrom n) = (Utf8.bytes s).extract n c.pos := by
  -- the library cuts the same text between the two positions
  have hw : Utf8.bytes (s.extract (s.pos ⟨n⟩ hv) (s.pos ⟨c.pos⟩ hp)) =
      (Utf8.bytes s).extract n c.pos := by
    simp only [Utf8.bytes, String.toUTF8_eq_toByteArray, String.toByteArray_extract,
      ByteArray.data_extract, String.offset_pos]
  have hslice :
      slice? (Utf8.bytes s) n c.pos = some (s.extract (s.pos ⟨n⟩ hv) (s.pos ⟨c.pos⟩ hp)) := by
    unfold slice?
    rw [if_pos (by simp [hn, (isBoundary_bytes_iff s n).2 hv, (isBoundary_bytes_iff s c.pos).2 hp]),
      ← hw, toList_bytes, decode_flatMap_utf8EncodeChar, Option.map_some, String.ofList_toList]
  rw [sliceFrom, hc, hslice, Option.getD_some, hw]

/-- Otherwise the slice is empty. -/
theorem sliceFrom_of_not_isValid (hc : c.bytes = Utf8.bytes s) {n : Nat}
    (h : ¬ (n ≤ c.pos ∧ (⟨n⟩ : String.Pos.Raw).IsValid s ∧
      (⟨c.pos⟩ : String.Pos.Raw).IsValid s)) :
    c.sliceFrom n = "" := by
  rw [← isBoundary_bytes_iff, ← isBoundary_bytes_iff] at h
  unfold sliceFrom slice?
  rw [hc, if_neg (by simpa using h)]
  rfl

/-- A cursor over the text `s` agrees with it: it is at the end exactly at the text's size, it
shows the character that a reader of the text's characters sees at its offset, and the slice from
an offset is the text between that offset and the cursor when both are valid positions in order,
and empty otherwise. -/
structure Coherent (s : String) (c : Cursor) : Prop where
  atEnd_iff : c.atEnd = true ↔ c.pos = s.utf8ByteSize
  current_eq : c.current = seenAt s.toList c.pos
  bytes_sliceFrom : ∀ n, n ≤ c.pos → (⟨n⟩ : String.Pos.Raw).IsValid s →
    (⟨c.pos⟩ : String.Pos.Raw).IsValid s →
    Utf8.bytes (c.sliceFrom n) = (Utf8.bytes s).extract n c.pos
  sliceFrom_eq_empty : ∀ n, ¬ (n ≤ c.pos ∧ (⟨n⟩ : String.Pos.Raw).IsValid s ∧
    (⟨c.pos⟩ : String.Pos.Raw).IsValid s) → c.sliceFrom n = ""

/-- Every cursor over the bytes of a text agrees with it: what it shows is read afresh from the
bytes at its offset. -/
theorem coherent_of_bytes (hc : c.bytes = Utf8.bytes s) : Coherent s c where
  atEnd_iff := atEnd_iff_pos_eq hc
  current_eq := current_eq_seenAt hc
  bytes_sliceFrom _ hn hv hp := bytes_sliceFrom_of_isValid hc hn hv hp
  sliceFrom_eq_empty _ h := sliceFrom_of_not_isValid hc h

/-- After `k` steps from the start of a text, the cursor stands at `min k |s|` and agrees with the
text: at the end exactly there, showing the character beginning at its offset, U+FFFD inside a
character and NUL at the end (so a NUL of the text is told from the end only by `atEnd`), and
slicing the text between valid positions. -/
theorem advance_iterate_coherent (s : String) (k : Nat) :
    (advance^[k] (ofString s)).pos = min k s.utf8ByteSize ∧
      Coherent s (advance^[k] (ofString s)) := by
  obtain ⟨hb, hp⟩ := iterate_advance (ofString s) k
  refine ⟨?_, coherent_of_bytes hb⟩
  rw [hp, ofString, utf8ByteSize_eq_size_bytes, Nat.zero_add]

end Cursor

end ExprLexer
