import ExprLexer.Session
import ExprLexer.Proofs.Keywords

/-!
# Checking a keyword list

The checked build walks the entries of a keyword list in order and stops at the first that is
empty or not keyword-shaped. It reports an empty entry by its index and any other by its text,
whatever follows it (`firstBad?_append_cons`), and a list with no such entry builds the plain set
of its words (`firstBad?_eq_none_iff`). The plain set keeps its words sorted without repeats
(`KeywordSet.pairwise_words_ofList`), so it holds exactly the entries and its size is the number
of distinct ones. A configuration's keyword set, and a session made from it, fail with exactly
the error of the check, as a run error of the keyword list. The shape is read over characters;
read over the bytes of the encoding it is the same (`isKeywordShapedBytes_eq`).

Main statement: `checked_keywords_first_bad`.
-/

namespace ExprLexer

/-! ### The plain set -/

namespace KeywordSet

theorem pairwise_insertSorted {w : String} {l : List String} (h : l.Pairwise (· < ·)) :
    (insertSorted w l).Pairwise (· < ·) := by
  induction l with
  | nil => simp [insertSorted]
  | cons x l ih =>
    have hx := List.pairwise_cons.1 h
    unfold insertSorted
    split
    · -- `w` goes first: it is below `x`, so below everything after `x`
      rename_i hwx
      refine List.pairwise_cons.2 ⟨fun y hy => ?_, h⟩
      rcases List.mem_cons.1 hy with rfl | hy
      · exact hwx
      · exact lt_trans hwx (hx.1 y hy)
    · split
      · exact h
      · -- `w` goes after `x`, which is then below it
        rename_i hwx hne
        have hxw : x < w := lt_of_le_of_ne (not_lt.1 hwx) (Ne.symm hne)
        refine List.pairwise_cons.2 ⟨fun y hy => ?_, ih hx.2⟩
        rcases mem_insertSorted.1 hy with rfl | hy
        · exact hxw
        · exact hx.1 y hy

/-- The plain set keeps its words in strictly increasing order. -/
theorem pairwise_words_ofList (ws : List String) : (ofList ws).words.Pairwise (· < ·) := by
  -- every insertion of the fold keeps the order, from the empty set on
  suffices h : ∀ k : KeywordSet, k.words.Pairwise (· < ·) → (ws.foldl insert k).words.Pairwise (· < ·) from
    h empty List.Pairwise.nil
  induction ws with
  | nil => exact fun k hk => hk
  | cons w ws ih => exact fun k hk => ih _ (pairwise_insertSorted hk)

theorem mem_words_ofList {ws : List String} {w : String} : w ∈ (ofList ws).words ↔ w ∈ ws := by
  simp [ofList, mem_words_foldl_insert, empty]

/-- The plain set holds each distinct word once. -/
theorem size_ofList (ws : List String) : (ofList ws).size = ws.toFinset.card := by
  have hnd : (ofList ws).words.Nodup := (pairwise_words_ofList ws).imp ne_of_lt
  have hset : (ofList ws).words.toFinset = ws.toFinset := by
    ext w
    simp [mem_words_ofList]
  rw [size, ← List.toFinset_card_of_nodup hnd, hset]

end KeywordSet

/-! ### The first bad entry -/

namespace KeywordError

theorem ne_empty_of_isKeywordShaped {w : String} (h : isKeywordShaped w = true) : w ≠ "" := by
  rintro rfl
  exact absurd h (by decide)

theorem isEmpty_eq_false {w : String} (h : w ≠ "") : w.isEmpty = false := by
  rw [Bool.eq_false_iff, ne_eq, String.isEmpty_iff]
  exact h

/-- The check passes an entry exactly when it is keyword-shaped, which no empty text is. -/
theorem firstBad?_cons_of_shaped {i : Nat} {w : String} {ws : List String}
    (h : w ≠ "" ∧ isKeywordShaped w = true) : firstBad? i (w :: ws) = firstBad? (i + 1) ws := by
  simp [firstBad?, isEmpty_eq_false h.1, h.2]

theorem firstBad?_eq_none_iff {i : Nat} {ws : List String} :
    firstBad? i ws = none ↔ ∀ w ∈ ws, w ≠ "" ∧ isKeywordShaped w = true := by
  refine ⟨fun h w hw => ?_, fun h => ?_⟩
  · have hs := isKeywordShaped_of_firstBad?_eq_none h w hw
    exact ⟨ne_empty_of_isKeywordShaped hs, hs⟩
  · induction ws generalizing i with
    | nil => rfl
    | cons w ws ih =>
      rw [firstBad?_cons_of_shaped (h w List.mem_cons_self)]
      exact ih fun w' hw' => h w' (List.mem_cons_of_mem w hw')

/-- After entries that pass, the first bad entry is reported, by its index when it is empty and
by its text otherwise, whatever follows it. -/
theorem firstBad?_append_cons {i : Nat} {good : List String} {bad : String} (rest : List String)
    (hg : ∀ w ∈ good, w ≠ "" ∧ isKeywordShaped w = true)
    (hb : ¬ (bad ≠ "" ∧ isKeywordShaped bad = true)) :
    firstBad? i (good ++ bad :: rest) =
      some (if bad = "" then .empty (i + good.length) else .malformed bad) := by
  induction good generalizing i with
  | nil =>
    by_cases he : bad = ""
    · subst he
      rfl
    · have hs : isKeywordShaped bad = false := by simpa [he] using hb
      simp [firstBad?, isEmpty_eq_false he, hs, he]
  | cons w good ih =>
    rw [List.cons_append, firstBad?_cons_of_shaped (hg w List.mem_cons_self),
      ih fun w' hw' => hg w' (List.mem_cons_of_mem w hw')]
    simp only [List.length_cons, Nat.add_assoc, Nat.add_comm 1]

/-- A reported entry is the first bad one, after entries that pass. -/
theorem exists_first_of_firstBad? {i : Nat} {ws : List String} {e : KeywordError}
    (h : firstBad? i ws = some e) :
    ∃ good bad rest, ws = good ++ bad :: rest ∧ (∀ w ∈ good, w ≠ "" ∧ isKeywordShaped w = true) ∧
      ¬ (bad ≠ "" ∧ isKeywordShaped bad = true) ∧
      e = if bad = "" then .empty (i + good.length) else .malformed bad := by
  induction ws generalizing i with
  | nil => cases h
  | cons w ws ih =>
    by_cases hw : w ≠ "" ∧ isKeywordShaped w = true
    · rw [firstBad?_cons_of_shaped hw] at h
      obtain ⟨good, bad, rest, rfl, hg, hb, rfl⟩ := ih h
      refine ⟨w :: good, bad, rest, rfl, ?_, hb, ?_⟩
      · intro w' hw'
        rcases List.mem_cons.1 hw' with rfl | hw'
        · exact hw
        · exact hg w' hw'
      · simp only [List.length_cons, Nat.add_assoc, Nat.add_comm 1]
    · refine ⟨[], w, ws, rfl, by simp, hw, ?_⟩
      have hf := @firstBad?_append_cons i [] w ws (by simp) hw
      rw [List.nil_append, h] at hf
      simpa using hf

end KeywordError

/-! ### The shape read byte by byte

The check is made over the bytes of an entry's encoding. It agrees with the reading over
characters on every text (`isKeywordShapedBytes_eq`): an ASCII character is one byte of its own
value, and every byte of any other character is at least `0x80`, so no byte of it is taken for a
letter, a digit or `_`. -/

section Bytes

open Utf8 Grammar

/-- An ASCII letter, as a byte. -/
def isAsciiAlphaByte (b : UInt8) : Bool := (65 ≤ b && b ≤ 90) || (97 ≤ b && b ≤ 122)

/-- A byte that can go on a keyword after its first: an ASCII letter, digit or underscore. -/
def isWordByte (b : UInt8) : Bool := isAsciiAlphaByte b || (48 ≤ b && b ≤ 57) || b == 95

/-- The keyword shape read over the bytes of a word's encoding: an ASCII letter, then ASCII
letters, digits and underscores. -/
def isKeywordShapedBytes (w : String) : Bool :=
  match (Utf8.bytes w).toList with
  | b :: bs => isAsciiAlphaByte b && bs.all isWordByte
  | [] => false

theorem isAsciiAlphaByte_eq_false {b : UInt8} (hb : 128 ≤ b.toNat) : isAsciiAlphaByte b = false := by
  simp [isAsciiAlphaByte, UInt8.le_iff_toNat_le]
  omega

theorem isWordByte_eq_false {b : UInt8} (hb : 128 ≤ b.toNat) : isWordByte b = false := by
  simp [isWordByte, isAsciiAlphaByte, UInt8.le_iff_toNat_le, UInt8.ext_iff]
  omega

theorem isAsciiAlphaByte_ofNat {c : Char} (hc : c.toNat < 128) :
    isAsciiAlphaByte (UInt8.ofNat c.toNat) = c.isAlpha := by
  have hcv : c.toNat = c.val.toNat := rfl
  simp only [isAsciiAlphaByte, Char.isAlpha, Char.isUpper, Char.isLower, UInt8.le_iff_toNat_le,
    UInt32.le_iff_toNat_le, UInt8.toNat_ofNat', Nat.mod_eq_of_lt (show c.toNat < 256 by omega)]
  simp [← hcv]

theorem isWordByte_ofNat {c : Char} (hc : c.toNat < 128) :
    isWordByte (UInt8.ofNat c.toNat) = isIdentContinue c := by
  have hcv : c.toNat = c.val.toNat := rfl
  have h95 : (UInt8.ofNat c.toNat == 95) = (c == '_') := by
    rw [Bool.eq_iff_iff, beq_iff_eq, beq_iff_eq, UInt8.ext_iff, ← Char.toNat_inj]
    simp [Nat.mod_eq_of_lt (show c.toNat < 256 by omega)]
  simp only [isWordByte, isAsciiAlphaByte, isIdentContinue, Char.isAlphanum, Char.isAlpha,
    Char.isUpper, Char.isLower, Char.isDigit, UInt8.le_iff_toNat_le, UInt32.le_iff_toNat_le,
    UInt8.toNat_ofNat', Nat.mod_eq_of_lt (show c.toNat < 256 by omega), h95]
  simp [← hcv, Bool.or_assoc]

/-- A byte of a word after its first, read over a character's encoding, says what the character
says: an ASCII character is one byte of its own value, and no byte of another character is a
letter, a digit or `_`. -/
theorem all_isWordByte_utf8EncodeChar (c : Char) :
    (String.utf8EncodeChar c).all isWordByte = isIdentContinue c := by
  by_cases hc : c.toNat < 128
  · rw [utf8EncodeChar_of_lt hc, List.all_cons, List.all_nil, Bool.and_true, isWordByte_ofNat hc]
  · have hident : isIdentContinue c = false :=
      Bool.eq_false_iff.2 fun h => hc (toNat_lt_of_isIdentContinue h)
    obtain ⟨b, bs, hbs⟩ := exists_cons_utf8EncodeChar c
    have hb := le_toNat_of_mem_utf8EncodeChar (c := c) (by omega) b (by simp [hbs])
    rw [hident, hbs, List.all_cons, isWordByte_eq_false hb, Bool.false_and]

/-- The keyword shape read over the bytes of a word is the shape read over its characters, on
every text. -/
theorem isKeywordShapedBytes_eq (w : String) : isKeywordShapedBytes w = isKeywordShaped w := by
  unfold isKeywordShapedBytes isKeywordShaped
  rw [toList_bytes]
  cases w.toList with
  | nil => rfl
  | cons c cs =>
    rw [List.flatMap_cons]
    by_cases hc : c.toNat < 128
    · rw [utf8EncodeChar_of_lt hc, List.singleton_append]
      dsimp only
      rw [isAsciiAlphaByte_ofNat hc]
      simp [List.all_flatMap, all_isWordByte_utf8EncodeChar]
    · -- the first byte of a character outside ASCII is no letter, nor is the character
      obtain ⟨b, bs, hbs⟩ := exists_cons_utf8EncodeChar c
      have hb := le_toNat_of_mem_utf8EncodeChar (c := c) (by omega) b (by simp [hbs])
      have halpha : c.isAlpha = false := Bool.eq_false_iff.2 fun h =>
        hc (toNat_lt_of_isIdentContinue (isIdentContinue_of_isAlpha h))
      rw [hbs, List.cons_append]
      dsimp only
      rw [isAsciiAlphaByte_eq_false hb, halpha, Bool.false_and, Bool.false_and]

end Bytes

/-! ### The checked build -/

namespace KeywordSet

theorem ofWords?_eq_ok_iff {ws : List String} {K : KeywordSet} :
    ofWords? ws = .ok K ↔ (∀ w ∈ ws, w ≠ "" ∧ isKeywordShaped w = true) ∧ K = ofList ws := by
  constructor
  · intro h
    obtain ⟨rfl, hs⟩ := ofWords?_eq_ok h
    exact ⟨fun w hw => ⟨KeywordError.ne_empty_of_isKeywordShaped (hs w hw), hs w hw⟩, rfl⟩
  · rintro ⟨hg, rfl⟩
    simp [ofWords?, KeywordError.firstBad?_eq_none_iff.2 hg]

theorem ofWords?_eq_error_iff {ws : List String} {e : KeywordError} :
    ofWords? ws = .error e ↔
      ∃ good bad rest, ws = good ++ bad :: rest ∧
        (∀ w ∈ good, w ≠ "" ∧ isKeywordShaped w = true) ∧
        ¬ (bad ≠ "" ∧ isKeywordShaped bad = true) ∧
        e = if bad = "" then .empty good.length else .malformed bad := by
  constructor
  · intro h
    unfold ofWords? at h
    split at h
    · rename_i e' he
      cases h
      simpa using KeywordError.exists_first_of_firstBad? he
    · cases h
  · rintro ⟨good, bad, rest, rfl, hg, hb, rfl⟩
    simp [ofWords?, KeywordError.firstBad?_append_cons rest hg hb]

end KeywordSet

/-! ### Configurations and sessions -/

theorem Config.keywordSet_of_some {c : Config} {ws : List String} (h : c.keywords = some ws) :
    c.keywordSet = (KeywordSet.ofWords? ws).mapError .keywords := by
  simp [Config.keywordSet, h]

theorem Config.keywordSet_of_none {c : Config} (h : c.keywords = none) :
    c.keywordSet = .ok KeywordSet.standard := by
  simp [Config.keywordSet, h]

/-- A session has the keyword set of its configuration, and fails exactly with its error. -/
theorem Session.keywords_ofConfig (c : Config) (f : Option DumpFormat) :
    (Session.ofConfig c f).map Session.keywords = c.keywordSet := by
  unfold Session.ofConfig
  split <;> simp_all [Except.map]

/-- The checked build of a keyword list succeeds exactly when every entry is nonempty and
keyword-shaped, and then it is the plain set of the list, which holds exactly the entries and
has one word per distinct entry. Otherwise it fails at the first entry that is empty or not
keyword-shaped: by its index when it is empty, by its text otherwise, whatever follows. A
configuration's keyword set and a session made from it fail with that error as a run error of
the keyword list, and without a list both have the default words. -/
theorem checked_keywords_first_bad (ws : List String) :
    (∀ K, KeywordSet.ofWords? ws = .ok K ↔
      (∀ w ∈ ws, w ≠ "" ∧ isKeywordShaped w = true) ∧ K = KeywordSet.ofList ws) ∧
    (∀ w, (KeywordSet.ofList ws).contains w = true ↔ w ∈ ws) ∧
    (KeywordSet.ofList ws).size = ws.toFinset.card ∧
    (∀ e, KeywordSet.ofWords? ws = .error e ↔
      ∃ good bad rest, ws = good ++ bad :: rest ∧
        (∀ w ∈ good, w ≠ "" ∧ isKeywordShaped w = true) ∧
        ¬ (bad ≠ "" ∧ isKeywordShaped bad = true) ∧
        e = if bad = "" then .empty good.length else .malformed bad) ∧
    (∀ c : Config, c.keywords = some ws →
      c.keywordSet = (KeywordSet.ofWords? ws).mapError .keywords) ∧
    (∀ c : Config, c.keywords = none → c.keywordSet = .ok KeywordSet.standard) ∧
    (∀ (c : Config) (f : Option DumpFormat),
      (Session.ofConfig c f).map Session.keywords = c.keywordSet) :=
  ⟨fun _ => KeywordSet.ofWords?_eq_ok_iff, fun w => by simp, KeywordSet.size_ofList ws,
    fun _ => KeywordSet.ofWords?_eq_error_iff, fun _ h => Config.keywordSet_of_some h,
    fun _ h => Config.keywordSet_of_none h, Session.keywords_ofConfig⟩

/-- Of an empty entry and a malformed one, the earlier is the error: the empty entry by its
index, the malformed one by its text. -/
theorem checked_keywords_earlier_bad :
    KeywordSet.ofWords? ["let", "", "9x"] = .error (.empty 1) ∧
      KeywordSet.ofWords? ["let", "9x", ""] = .error (.malformed "9x") :=
  ⟨((checked_keywords_first_bad ["let", "", "9x"]).2.2.2.1 _).2
      ⟨["let"], "", ["9x"], rfl, by simp; decide, by simp, rfl⟩,
    ((checked_keywords_first_bad ["let", "9x", ""]).2.2.2.1 _).2
      ⟨["let"], "9x", [""], rfl, by simp; decide, by decide, rfl⟩⟩

end ExprLexer
