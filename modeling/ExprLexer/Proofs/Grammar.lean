import Mathlib
import ExprLexer.Lexer.Grammar
import ExprLexer.Proofs.Utf8

/-!
# Pieces as the lexer takes them

The sub-scans take the longest run of their class: the number scan digits and at most one point
(`numberPrefix`), the word scan letters, digits and underscores. `Piece.front?` is the piece that
the dispatch on the first character takes from the characters left. Its two laws say that it
finds exactly the valid maximal pieces of the token language: whatever it takes is a valid piece
that the next character cannot extend (`Piece.front?_spec`), and a valid maximal piece followed by
anything is what it takes (`Piece.front?_text_append`). Both come from one fact about longest
prefixes of a prefix-closed class (`LongestPrefix.eq_of_not_extend`).
-/

namespace ExprLexer.Grammar

open Utf8

/-! ### The classes, one character at a time -/

@[simp] theorem isBlanks_nil : IsBlanks [] := by simp [IsBlanks]

@[simp] theorem isBlanks_cons {c : Char} {w : List Char} :
    IsBlanks (c :: w) ↔ isBlank c = true ∧ IsBlanks w := by
  simp [IsBlanks]

@[simp] theorem isBlanks_append {w v : List Char} : IsBlanks (w ++ v) ↔ IsBlanks w ∧ IsBlanks v := by
  simp [IsBlanks, or_imp, forall_and]

@[simp] theorem isDigits_nil : IsDigits [] := by simp [IsDigits]

@[simp] theorem isDigits_cons {c : Char} {x : List Char} :
    IsDigits (c :: x) ↔ c.isDigit = true ∧ IsDigits x := by
  simp [IsDigits]

@[simp] theorem isWordRun_nil : IsWordRun [] := by simp [IsWordRun]

@[simp] theorem isWordRun_cons {c : Char} {x : List Char} :
    IsWordRun (c :: x) ↔ isIdentContinue c = true ∧ IsWordRun x := by
  simp [IsWordRun]

theorem isNumberRun_nil : IsNumberRun [] := ⟨[], [], rfl, isDigits_nil, .inl rfl⟩

/-- A number run is a digit before a number run, or a point before digits. -/
theorem isNumberRun_cons {c : Char} {x : List Char} :
    IsNumberRun (c :: x) ↔ (c.isDigit = true ∧ IsNumberRun x) ∨ (c = '.' ∧ IsDigits x) := by
  constructor
  · rintro ⟨d, f, hx, hd, hf⟩
    cases d with
    | nil =>
      rcases hf with rfl | ⟨e, rfl, he⟩
      · simp at hx
      · simp only [List.nil_append, List.cons.injEq] at hx
        exact .inr ⟨hx.1, hx.2 ▸ he⟩
    | cons d ds =>
      simp only [List.cons_append, List.cons.injEq] at hx
      obtain ⟨rfl, rfl⟩ := hx
      rw [isDigits_cons] at hd
      exact .inl ⟨hd.1, ds, f, rfl, hd.2, hf⟩
  · rintro (⟨hc, d, f, rfl, hd, hf⟩ | ⟨rfl, he⟩)
    · exact ⟨c :: d, f, rfl, by simp [hc, hd], hf⟩
    · exact ⟨[], '.' :: x, rfl, isDigits_nil, .inr ⟨x, rfl, he⟩⟩

theorem not_isNumber_nil : ¬ IsNumber [] := by
  rintro ⟨d, f, hx, hd, -⟩
  exact hd (List.append_eq_nil_iff.1 hx.symm).1

/-- A number is a digit before a number run. -/
theorem isNumber_cons {c : Char} {x : List Char} :
    IsNumber (c :: x) ↔ c.isDigit = true ∧ IsNumberRun x := by
  constructor
  · rintro ⟨d, f, hx, hd, hdd, hf⟩
    cases d with
    | nil => exact absurd rfl hd
    | cons d ds =>
      simp only [List.cons_append, List.cons.injEq] at hx
      obtain ⟨rfl, rfl⟩ := hx
      rw [isDigits_cons] at hdd
      exact ⟨hdd.1, ds, f, rfl, hdd.2, hf⟩
  · rintro ⟨hc, d, f, rfl, hd, hf⟩
    exact ⟨c :: d, f, rfl, List.cons_ne_nil _ _, by simp [hc, hd], hf⟩

theorem not_isWord_nil : ¬ IsWord [] := by
  rintro ⟨c, r, hx, -⟩
  exact List.cons_ne_nil c r hx.symm

/-- A word is a letter before a word run. -/
theorem isWord_cons {c : Char} {x : List Char} :
    IsWord (c :: x) ↔ c.isAlpha = true ∧ IsWordRun x := by
  constructor
  · rintro ⟨c', r, hx, hc, hr⟩
    simp only [List.cons.injEq] at hx
    obtain ⟨rfl, rfl⟩ := hx
    exact ⟨hc, hr⟩
  · rintro ⟨hc, hr⟩
    exact ⟨c, x, rfl, hc, hr⟩

theorem IsNumberRun.of_append {x y : List Char} (h : IsNumberRun (x ++ y)) : IsNumberRun x := by
  induction x with
  | nil => exact isNumberRun_nil
  | cons c x ih =>
    rw [List.cons_append, isNumberRun_cons] at h
    rw [isNumberRun_cons]
    rcases h with ⟨hc, h⟩ | ⟨hc, h⟩
    · exact .inl ⟨hc, ih h⟩
    · exact .inr ⟨hc, fun d hd => h d (List.mem_append_left _ hd)⟩

theorem IsWordRun.of_append {x y : List Char} (h : IsWordRun (x ++ y)) : IsWordRun x :=
  fun c hc => h c (List.mem_append_left _ hc)

/-! ### Longest prefixes -/

section Longest

variable {P Q : List Char → Prop} {m x rest cs : List Char} {c : Char}

theorem LongestPrefix.nil_nil (h : P []) : LongestPrefix P [] [] :=
  ⟨List.nil_prefix, h, fun m' hm _ => by simp [List.prefix_nil.1 hm]⟩

/-- When no run of the class begins with `c`, the longest one is empty. -/
theorem LongestPrefix.nil_cons (h : P []) (hc : ∀ x, ¬ P (c :: x)) : LongestPrefix P [] (c :: cs) := by
  refine ⟨List.nil_prefix, h, fun m' _ hm => ?_⟩
  cases m' with
  | nil => exact Nat.le_refl _
  | cons d m' =>
    rename_i hpre
    rw [List.cons_prefix_cons] at hpre
    exact absurd (hpre.1 ▸ hm) (hc m')

/-- A run of `P` that begins with `c` goes on as a run of `Q`: the longest run of `P` is `c`
before the longest run of `Q`. -/
theorem LongestPrefix.cons (hc : ∀ x, P (c :: x) ↔ Q x) (h : LongestPrefix Q m cs) :
    LongestPrefix P (c :: m) (c :: cs) := by
  obtain ⟨hpre, hm, hlong⟩ := h
  refine ⟨List.cons_prefix_cons.2 ⟨rfl, hpre⟩, (hc m).2 hm, fun m' hm' hp => ?_⟩
  cases m' with
  | nil => exact Nat.zero_le _
  | cons d m' =>
    obtain ⟨rfl, htail⟩ := List.cons_prefix_cons.1 hm'
    simpa using hlong m' htail ((hc m').1 hp)

/-- The longest run is not followed by a character that would extend it. -/
theorem LongestPrefix.not_extend (h : LongestPrefix P m cs) (hc : m ++ [c] <+: cs) :
    ¬ P (m ++ [c]) := by
  intro hp
  have := h.2.2 _ hc hp
  simp only [List.length_append, List.length_singleton] at this
  omega

/-- In a prefix-closed class, a run that no next character extends is the longest run. -/
theorem LongestPrefix.eq_of_not_extend (hP : ∀ x y, P (x ++ y) → P x)
    (hm : LongestPrefix P m (x ++ rest)) (hx : P x) (hmax : ∀ c ∈ rest.head?, ¬ P (x ++ [c])) :
    m = x := by
  have hle : x.length ≤ m.length := hm.2.2 x (List.prefix_append _ _) hx
  have hxm : x <+: m := List.prefix_of_prefix_length_le (List.prefix_append _ _) hm.1 hle
  obtain ⟨t, rfl⟩ := hxm
  cases t with
  | nil => exact List.append_nil x
  | cons d t =>
    -- a longer run begins with `x` and the next character `d`, which it would extend
    have hd : rest.head? = some d := by
      obtain ⟨u, hu⟩ := hm.1
      rw [List.append_assoc, List.append_cancel_left_eq] at hu
      rw [← hu]; rfl
    have hp : P (x ++ [d]) := hP _ t (by simpa using hm.2.1)
    exact absurd hp (hmax d hd)

end Longest

/-! ### The sub-scans -/

/-- What the number scan takes from the front of `cs`: digits, and one point unless `seenDot`
says it is taken already, as `Cursor.eatNumber` moves. -/
def numberPrefix (seenDot : Bool) : List Char → List Char
  | [] => []
  | c :: cs =>
    if c.isDigit then c :: numberPrefix seenDot cs
    else if c == '.' && !seenDot then c :: numberPrefix true cs
    else []

theorem longestPrefix_numberPrefix_true (cs : List Char) :
    LongestPrefix IsDigits (numberPrefix true cs) cs := by
  induction cs with
  | nil => exact .nil_nil isDigits_nil
  | cons c cs ih =>
    by_cases hc : c.isDigit = true
    · rw [numberPrefix, if_pos hc]
      exact .cons (fun x => by simp [hc]) ih
    · rw [numberPrefix, if_neg hc, if_neg (by simp)]
      exact .nil_cons isDigits_nil (fun x => by simp [hc])

/-- The number scan takes the longest number run. -/
theorem longestPrefix_numberPrefix (cs : List Char) :
    LongestPrefix IsNumberRun (numberPrefix false cs) cs := by
  induction cs with
  | nil => exact .nil_nil isNumberRun_nil
  | cons c cs ih =>
    by_cases hc : c.isDigit = true
    · rw [numberPrefix, if_pos hc]
      have hne : c ≠ '.' := by rintro rfl; exact absurd hc (by decide)
      exact .cons (fun x => by simp [isNumberRun_cons, hc, hne]) ih
    · by_cases hdot : c = '.'
      · subst hdot
        rw [numberPrefix, if_neg hc, if_pos (by decide)]
        exact .cons (fun x => by simp [isNumberRun_cons, hc])
          (longestPrefix_numberPrefix_true cs)
      · rw [numberPrefix, if_neg hc, if_neg (by simp [hdot])]
        exact .nil_cons isNumberRun_nil (fun x => by simp [isNumberRun_cons, hc, hdot])

/-- What the number scan takes is a prefix of what it reads. -/
theorem numberPrefix_append_drop (seenDot : Bool) (cs : List Char) :
    numberPrefix seenDot cs ++ cs.drop (numberPrefix seenDot cs).length = cs := by
  induction cs generalizing seenDot with
  | nil => rfl
  | cons c cs ih =>
    rw [numberPrefix]
    split
    · simp [ih]
    · split
      · simp [ih]
      · rfl

/-- What a scan that takes a run leaves is what follows the run. -/
theorem drop_length_takeWhile (p : Char → Bool) (l : List Char) :
    l.drop (l.takeWhile p).length = l.dropWhile p := by
  induction l with
  | nil => rfl
  | cons c l ih => by_cases h : p c = true <;> simp [h, ih]

/-- The word scan takes the longest word run. -/
theorem longestPrefix_takeWhile_isIdentContinue (cs : List Char) :
    LongestPrefix IsWordRun (cs.takeWhile isIdentContinue) cs := by
  induction cs with
  | nil => exact .nil_nil isWordRun_nil
  | cons c cs ih =>
    by_cases hc : isIdentContinue c = true
    · rw [List.takeWhile_cons_of_pos hc]
      exact .cons (fun x => by simp [hc]) ih
    · rw [List.takeWhile_cons_of_neg hc]
      exact .nil_cons isWordRun_nil (fun x => by simp [hc])

/-! ### Characters of the pieces -/

theorem toNat_lt_of_isDigit {c : Char} (h : c.isDigit = true) : c.toNat < 128 := by
  have hc : c.toNat = c.val.toNat := rfl
  simp only [Char.isDigit, Bool.and_eq_true, decide_eq_true_eq, UInt32.le_iff_toNat_le] at h
  simp at h
  omega

theorem toNat_lt_of_isIdentContinue {c : Char} (h : isIdentContinue c = true) : c.toNat < 128 := by
  have hc : c.toNat = c.val.toNat := rfl
  simp only [isIdentContinue, Char.isAlphanum, Char.isAlpha, Char.isUpper, Char.isLower,
    Char.isDigit, Bool.or_eq_true, Bool.and_eq_true, decide_eq_true_eq, beq_iff_eq,
    UInt32.le_iff_toNat_le] at h
  simp at h
  rcases h with ((h | h) | h) | rfl <;> first | omega | decide

theorem toNat_lt_of_isBlank {c : Char} (h : isBlank c = true) : c.toNat < 128 := by
  simp only [isBlank, Bool.or_eq_true, beq_iff_eq] at h
  rcases h with rfl | rfl <;> decide

/-- A character that can go on a word is no blank. -/
theorem isBlank_eq_false_of_isIdentContinue {c : Char} (h : isIdentContinue c = true) :
    isBlank c = false := by
  rw [Bool.eq_false_iff]
  intro hb
  simp only [isBlank, Bool.or_eq_true, beq_iff_eq] at hb
  rcases hb with rfl | rfl <;> exact absurd h (by decide)

/-- The nine operator characters. -/
theorem mem_of_ofOperator?_eq_some {c : Char} {k : TokenKind} (h : TokenKind.ofOperator? c = some k) :
    c ∈ ['+', '-', '*', '/', '%', '^', '=', '(', ')'] := by
  unfold TokenKind.ofOperator? at h
  split at h <;> simp_all

/-- An operator character is ASCII, and is neither a blank, nor a digit, nor a letter, nor can it
go on a word. -/
theorem ofOperator?_eq_some_classes {c : Char} {k : TokenKind} (h : TokenKind.ofOperator? c = some k) :
    c.toNat < 128 ∧ isBlank c = false ∧ c.isDigit = false ∧ c.isAlpha = false ∧
      isIdentContinue c = false ∧ c ≠ '.' := by
  have hm := mem_of_ofOperator?_eq_some h
  simp only [List.mem_cons, List.not_mem_nil, or_false] at hm
  rcases hm with rfl | rfl | rfl | rfl | rfl | rfl | rfl | rfl | rfl <;> decide

/-- An operator kind carries no text and is not the end marker. -/
theorem ofOperator?_eq_some_kind {c : Char} {k : TokenKind} (h : TokenKind.ofOperator? c = some k) :
    k.hasText = false ∧ k ≠ .eof := by
  have hm := mem_of_ofOperator?_eq_some h
  simp only [List.mem_cons, List.not_mem_nil, or_false] at hm
  rcases hm with rfl | rfl | rfl | rfl | rfl | rfl | rfl | rfl | rfl <;>
    simp [TokenKind.ofOperator?] at h <;> subst h <;> decide

theorem isDigit_eq_false_of_isAlpha {c : Char} (ha : c.isAlpha = true) : c.isDigit = false := by
  simp only [Char.isAlpha, Char.isUpper, Char.isLower, Char.isDigit, Bool.or_eq_true,
    Bool.and_eq_true, decide_eq_true_eq, UInt32.le_iff_toNat_le, Bool.and_eq_false_iff,
    decide_eq_false_iff_not] at ha ⊢
  simp at ha ⊢
  omega

theorem IsNumber.isNumberRun {x : List Char} (h : IsNumber x) : IsNumberRun x :=
  let ⟨d, f, hx, _, hd, hf⟩ := h
  ⟨d, f, hx, hd, hf⟩

theorem IsWord.isWordRun {x : List Char} (h : IsWord x) : IsWordRun x := by
  obtain ⟨c, r, rfl, hc, hr⟩ := h
  exact isWordRun_cons.2 ⟨isIdentContinue_of_isAlpha hc, hr⟩

theorem IsNumberRun.isAscii {x : List Char} (h : IsNumberRun x) : IsAscii x := by
  induction x with
  | nil => exact isAscii_nil
  | cons c x ih =>
    rcases isNumberRun_cons.1 h with ⟨hc, hx⟩ | ⟨rfl, hx⟩
    · exact isAscii_cons.2 ⟨toNat_lt_of_isDigit hc, ih hx⟩
    · exact isAscii_cons.2 ⟨by decide, fun d hd => toNat_lt_of_isDigit (hx d hd)⟩

theorem IsWordRun.isAscii {x : List Char} (h : IsWordRun x) : IsAscii x :=
  fun c hc => toNat_lt_of_isIdentContinue (h c hc)

namespace Piece

theorem valid_operator {k : TokenKind} {c : Char} :
    (Piece.operator k c).Valid ↔ TokenKind.ofOperator? c = some k := Iff.rfl

/-- The piece the characters begin with, as the lexer's dispatch takes it: from a digit the
number scan, from a letter the word scan, an operator character alone, and nothing from any
other character or from no character. -/
def front? : List Char → Option Piece
  | [] => none
  | c :: cs =>
    if c.isDigit then some (.number (numberPrefix false (c :: cs)))
    else if c.isAlpha then some (.word ((c :: cs).takeWhile isIdentContinue))
    else (TokenKind.ofOperator? c).map (.operator · c)

/-- What the dispatch takes is a valid piece that the character after it cannot extend. -/
theorem front?_spec {r : List Char} {p : Piece} (h : front? r = some p) :
    ∃ rest, r = p.text ++ rest ∧ p.Valid ∧ p.Maximal rest := by
  cases r with
  | nil => simp [front?] at h
  | cons c cs =>
    rw [front?] at h
    split at h
    · rename_i hd
      cases h
      have hl := longestPrefix_numberPrefix (c :: cs)
      obtain ⟨rest, hr⟩ := hl.1
      refine ⟨rest, hr.symm, ?_, ?_⟩
      · show IsNumber (numberPrefix false (c :: cs))
        rw [numberPrefix, if_pos hd, isNumber_cons]
        exact ⟨hd, (longestPrefix_numberPrefix cs).2.1⟩
      · cases rest with
        | nil => trivial
        | cons d rest =>
          exact fun hn => hl.not_extend ⟨rest, by rw [List.append_assoc, List.singleton_append]; exact hr⟩ hn.isNumberRun
    · split at h
      · rename_i _ ha
        cases h
        have hl := longestPrefix_takeWhile_isIdentContinue (c :: cs)
        obtain ⟨rest, hr⟩ := hl.1
        refine ⟨rest, hr.symm, ?_, ?_⟩
        · show IsWord ((c :: cs).takeWhile isIdentContinue)
          rw [List.takeWhile_cons_of_pos (isIdentContinue_of_isAlpha ha), isWord_cons]
          exact ⟨ha, (longestPrefix_takeWhile_isIdentContinue cs).2.1⟩
        · cases rest with
          | nil => trivial
          | cons d rest =>
            exact fun hw => hl.not_extend ⟨rest, by rw [List.append_assoc, List.singleton_append]; exact hr⟩ hw.isWordRun
      · obtain ⟨k, hk, rfl⟩ := Option.map_eq_some_iff.1 h
        exact ⟨cs, rfl, hk, trivial⟩

/-- A valid piece that what follows cannot extend is what the dispatch takes. -/
theorem front?_text_append {p : Piece} {rest : List Char} (hp : p.Valid) (hm : p.Maximal rest) :
    front? (p.text ++ rest) = some p := by
  cases p with
  | operator k c =>
    obtain ⟨-, -, hd, ha, -⟩ := ofOperator?_eq_some_classes (valid_operator.1 hp)
    simp [front?, text, hd, ha, valid_operator.1 hp]
  | number x =>
    cases x with
    | nil => exact absurd hp not_isNumber_nil
    | cons c x =>
      obtain ⟨hd, -⟩ := isNumber_cons.1 hp
      have hx := LongestPrefix.eq_of_not_extend (fun _ _ => IsNumberRun.of_append)
        (longestPrefix_numberPrefix ((c :: x) ++ rest)) hp.isNumberRun (by
          intro d hd' hn
          cases rest with
          | nil => simp at hd'
          | cons d' rest =>
            obtain rfl : d' = d := by simpa using hd'
            exact hm (isNumber_cons.2 ⟨hd, (isNumberRun_cons.1 hn).elim (·.2)
              (fun h => absurd (h.1 ▸ hd) (by decide))⟩))
      show front? ((c :: x) ++ rest) = _
      rw [List.cons_append, front?, if_pos hd, ← List.cons_append, hx]
  | word x =>
    cases x with
    | nil => exact absurd hp not_isWord_nil
    | cons c x =>
      obtain ⟨ha, -⟩ := isWord_cons.1 hp
      have hd := isDigit_eq_false_of_isAlpha ha
      have hx := LongestPrefix.eq_of_not_extend (fun _ _ => IsWordRun.of_append)
        (longestPrefix_takeWhile_isIdentContinue ((c :: x) ++ rest)) hp.isWordRun (by
          intro d hd' hn
          cases rest with
          | nil => simp at hd'
          | cons d' rest =>
            obtain rfl : d' = d := by simpa using hd'
            exact hm (isWord_cons.2 ⟨ha, (isWordRun_cons.1 hn).2⟩))
      show front? ((c :: x) ++ rest) = _
      rw [List.cons_append, front?, if_neg (by simp [hd]), if_pos ha, ← List.cons_append, hx]

/-- The dispatch takes nothing from a character that is not a digit, a letter or an operator. -/
theorem front?_cons_eq_none {c : Char} {v : List Char} :
    front? (c :: v) = none ↔
      c.isDigit = false ∧ c.isAlpha = false ∧ TokenKind.ofOperator? c = none := by
  unfold front?
  by_cases hd : c.isDigit = true
  · simp [hd]
  · by_cases ha : c.isAlpha = true
    · simp [hd, ha]
    · simp [hd, ha]

/-- A valid piece begins with a character that is no blank. -/
theorem Valid.text_cons {p : Piece} (hp : p.Valid) : ∃ c t, p.text = c :: t ∧ isBlank c = false := by
  cases p with
  | operator k c => exact ⟨c, [], rfl, (ofOperator?_eq_some_classes (valid_operator.1 hp)).2.1⟩
  | number x =>
    cases x with
    | nil => exact absurd hp not_isNumber_nil
    | cons c x =>
      exact ⟨c, x, rfl, isBlank_eq_false_of_isIdentContinue (isIdentContinue_of_isDigit (isNumber_cons.1 hp).1)⟩
  | word x =>
    cases x with
    | nil => exact absurd hp not_isWord_nil
    | cons c x =>
      exact ⟨c, x, rfl, isBlank_eq_false_of_isIdentContinue (isIdentContinue_of_isAlpha (isWord_cons.1 hp).1)⟩

/-- The characters of a valid piece are ASCII. -/
theorem Valid.isAscii {p : Piece} (hp : p.Valid) : IsAscii p.text := by
  cases p with
  | operator k c => exact isAscii_cons.2 ⟨(ofOperator?_eq_some_classes (valid_operator.1 hp)).1, isAscii_nil⟩
  | number x => exact (IsNumber.isNumberRun hp).isAscii
  | word x => exact (IsWord.isWordRun hp).isAscii

/-- Whether a piece stays maximal depends on the next character only. -/
theorem Maximal.of_head?_eq {p : Piece} {r r' : List Char} (hm : p.Maximal r)
    (he : r.head? = r'.head?) : p.Maximal r' := by
  cases r with
  | nil =>
    cases r' with
    | nil => exact hm
    | cons _ _ => simp at he
  | cons c r =>
    cases r' with
    | nil => simp at he
    | cons c' r' =>
      obtain rfl : c = c' := by simpa using he
      cases p <;> exact hm

/-- At the end of the source every piece is maximal. -/
theorem maximal_nil (p : Piece) : p.Maximal [] := by
  cases p <;> trivial

/-- A piece maximal before some characters is maximal before any part of them. -/
theorem Maximal.of_append {p : Piece} {u x : List Char} (hm : p.Maximal (u ++ x)) : p.Maximal u := by
  cases u with
  | nil => exact maximal_nil p
  | cons c u => exact hm.of_head?_eq rfl

theorem Valid.text_ne_nil {p : Piece} (hp : p.Valid) : p.text ≠ [] := by
  obtain ⟨c, t, ht, -⟩ := hp.text_cons
  rw [ht]; exact List.cons_ne_nil c t

/-- A valid piece shortens what is left. -/
theorem Valid.length_lt {p : Piece} (hp : p.Valid) (w rest : List Char) :
    rest.length < (w ++ p.text ++ rest).length := by
  have := List.length_pos_iff.2 hp.text_ne_nil
  simp only [List.length_append]
  omega

theorem token_isEof {p : Piece} (hp : p.Valid) (K : KeywordSet) (o : Nat) :
    (p.token K o).isEof = false := by
  cases p with
  | operator k c =>
    simp [token, Token.isEof, (ofOperator?_eq_some_kind (valid_operator.1 hp)).2]
  | number x => rfl
  | word x => simp only [token]; split <;> rfl

/-- A piece's token spans its characters. -/
theorem span_token (p : Piece) (K : KeywordSet) (o : Nat) :
    (p.token K o).span = ⟨o, o + p.text.length⟩ := by
  cases p with
  | word x => simp only [token]; split <;> rfl
  | _ => rfl

/-- A piece's token that carries text carries the piece's characters. -/
theorem text_token {p : Piece} (hp : p.Valid) (K : KeywordSet) (o : Nat)
    (hk : (p.token K o).kind.hasText = true) : (p.token K o).text = some (String.ofList p.text) := by
  cases p with
  | operator k c =>
    have := (ofOperator?_eq_some_kind (valid_operator.1 hp)).1
    simp [token] at hk
    rw [this] at hk
    cases hk
  | number x => rfl
  | word x => simp only [token]; split <;> rfl

theorem token_shift (p : Piece) (K : KeywordSet) (o n : Nat) :
    (p.token K o).shift n = p.token K (n + o) := by
  cases p with
  | operator k c => simp [token, Token.shift, Span.shift]; omega
  | number x => simp [token, Token.number, Token.shift, Span.shift]; omega
  | word x =>
    simp only [token]
    split <;> simp [Token.keyword, Token.identifier, Token.shift, Span.shift] <;> omega

end Piece

/-! ### Where two parts of a source meet -/

/-- The characters that end any piece before them: blanks and operator characters. -/
def isSeparator (c : Char) : Bool := isBlank c || (TokenKind.ofOperator? c).isSome

theorem isSeparator_eq_false_of_isIdentContinue {c : Char} (h : isIdentContinue c = true) :
    isSeparator c = false := by
  cases ho : TokenKind.ofOperator? c with
  | some k => exact absurd h (by rw [(ofOperator?_eq_some_classes ho).2.2.2.2.1]; decide)
  | none => simp [isSeparator, isBlank_eq_false_of_isIdentContinue h, ho]

theorem isSeparator_dot : isSeparator '.' = false := by decide

/-- A separator can neither go on a word nor be a point. -/
theorem seam_of_isSeparator {c : Char} (h : isSeparator c = true) :
    isIdentContinue c = false ∧ c ≠ '.' := by
  refine ⟨Bool.eq_false_iff.2 fun hi => ?_, ?_⟩
  · rw [isSeparator_eq_false_of_isIdentContinue hi] at h
    cases h
  · rintro rfl
    rw [isSeparator_dot] at h
    cases h

/-- A number run has only digits and points. -/
theorem IsNumberRun.mem {x : List Char} (h : IsNumberRun x) {c : Char} (hc : c ∈ x) :
    c.isDigit = true ∨ c = '.' := by
  obtain ⟨d, f, rfl, hd, hf⟩ := h
  rcases List.mem_append.1 hc with hc | hc
  · exact .inl (hd c hc)
  · rcases hf with rfl | ⟨e, rfl, he⟩
    · simp at hc
    · rcases List.mem_cons.1 hc with rfl | hc
      · exact .inr rfl
      · exact .inl (he c hc)

/-- A valid piece stays maximal where it meets the next character, when its last character is a
separator, or the next character can neither go on a word nor be a point. -/
theorem Piece.maximal_of_seam {p : Piece} {r : List Char} (hp : p.Valid)
    (hs : ∀ a ∈ p.text.getLast?, ∀ c ∈ r.head?,
      isSeparator a = true ∨ (isIdentContinue c = false ∧ c ≠ '.')) : p.Maximal r := by
  cases r with
  | nil => exact maximal_nil p
  | cons c r =>
    cases p with
    | operator k d => trivial
    | number x =>
      intro hn
      obtain ⟨a, ha⟩ : ∃ a, x.getLast? = some a := by
        cases hx : x.getLast? with
        | none => exact absurd (List.getLast?_eq_none_iff.1 hx ▸ hp) not_isNumber_nil
        | some a => exact ⟨a, rfl⟩
      have hsa : isSeparator a = false := by
        rcases hp.isNumberRun.mem (List.mem_of_getLast? ha) with hd | rfl
        · exact isSeparator_eq_false_of_isIdentContinue (isIdentContinue_of_isDigit hd)
        · exact isSeparator_dot
      rcases hs a ha c rfl with h | ⟨hc, hdot⟩
      · rw [hsa] at h; exact absurd h (by decide)
      · rcases hn.isNumberRun.mem (List.mem_append_right x (List.mem_singleton_self c)) with hd | h
        · rw [isIdentContinue_of_isDigit hd] at hc; exact absurd hc (by decide)
        · exact hdot h
    | word x =>
      intro hw
      obtain ⟨a, ha⟩ : ∃ a, x.getLast? = some a := by
        cases hx : x.getLast? with
        | none => exact absurd (List.getLast?_eq_none_iff.1 hx ▸ hp) not_isWord_nil
        | some a => exact ⟨a, rfl⟩
      have hsa : isSeparator a = false :=
        isSeparator_eq_false_of_isIdentContinue (hp.isWordRun a (List.mem_of_getLast? ha))
      rcases hs a ha c rfl with h | ⟨hc, -⟩
      · rw [hsa] at h; exact absurd h (by decide)
      · rw [hw.isWordRun c (List.mem_append_right x (List.mem_singleton_self c))] at hc
        exact absurd hc (by decide)

/-! ### What a source begins with -/

/-- Every source is blanks to its end, or blanks then a valid piece that what follows cannot
extend, or blanks then a character that begins no piece. -/
theorem front_cases (cs : List Char) :
    IsBlanks cs ∨
    (∃ (w : List Char) (p : Piece) (rest : List Char),
      cs = w ++ p.text ++ rest ∧ IsBlanks w ∧ p.Valid ∧ p.Maximal rest) ∨
    (∃ (w : List Char) (ch : Char) (v : List Char),
      cs = w ++ ch :: v ∧ IsBlanks w ∧ isBlank ch = false ∧ Piece.front? (ch :: v) = none) := by
  -- split off the leading blanks; the dispatch decides on what follows them
  have hcs : cs = cs.takeWhile isBlank ++ cs.dropWhile isBlank := List.takeWhile_append_dropWhile.symm
  have hw : IsBlanks (cs.takeWhile isBlank) := List.all_eq_true.1 List.all_takeWhile
  have hr := List.head?_dropWhile_not isBlank cs
  generalize cs.takeWhile isBlank = w at hcs hw
  generalize cs.dropWhile isBlank = r at hcs hr
  subst hcs
  cases r with
  | nil => left; rwa [List.append_nil]
  | cons ch v =>
    have hb : isBlank ch = false := hr
    cases hf : Piece.front? (ch :: v) with
    | some p =>
      obtain ⟨rest, hrest, hv, hm⟩ := Piece.front?_spec hf
      exact .inr (.inl ⟨w, p, rest, by rw [hrest, List.append_assoc], hw, hv, hm⟩)
    | none => exact .inr (.inr ⟨w, ch, v, rfl, hw, hb, hf⟩)

/-- Induction along a source one piece at a time, as the lexer reads it: blanks to the end,
blanks then a valid maximal piece before a shorter rest, or blanks then a character that begins
no piece. -/
theorem front_induction {motive : List Char → Prop}
    (blanks : ∀ w, IsBlanks w → motive w)
    (piece : ∀ w (p : Piece) rest, IsBlanks w → p.Valid → p.Maximal rest → motive rest →
      motive (w ++ p.text ++ rest))
    (invalid : ∀ w ch v, IsBlanks w → isBlank ch = false → Piece.front? (ch :: v) = none →
      motive (w ++ ch :: v))
    (cs : List Char) : motive cs := by
  -- strong induction on the length: a piece is never empty
  induction hn : cs.length using Nat.strongRecOn generalizing cs with
  | _ n ih =>
  subst hn
  rcases front_cases cs with hb | ⟨w, p, rest, rfl, hw, hp, hm⟩ | ⟨w, ch, v, rfl, hw, hb, hf⟩
  · exact blanks cs hb
  · exact piece w p rest hw hp hm (ih rest.length (hp.length_lt w rest) rest rfl)
  · exact invalid w ch v hw hb hf

/-! ### Splits -/

/-- The characters of a split are ASCII. -/
theorem Splits.isAscii {K : KeywordSet} {o : Nat} {cs : List Char} {ts : List Token}
    (h : Splits K o cs ts) : IsAscii cs := by
  induction h with
  | last hw => exact fun c hc => toNat_lt_of_isBlank (hw c hc)
  | piece hcs hw hp _ _ ih =>
    subst hcs
    exact isAscii_append.2 ⟨isAscii_append.2 ⟨fun c hc => toNat_lt_of_isBlank (hw c hc), hp.isAscii⟩, ih⟩

theorem Splits.ne_nil {K : KeywordSet} {o : Nat} {cs : List Char} {ts : List Token}
    (h : Splits K o cs ts) : ts ≠ [] := by
  cases h <;> exact List.cons_ne_nil _ _

/-- A split read `n` bytes further on gives the same tokens `n` bytes further on. -/
theorem Splits.shift {K : KeywordSet} {o : Nat} {cs : List Char} {ts : List Token}
    (h : Splits K o cs ts) (n : Nat) : Splits K (n + o) cs (ts.map (·.shift n)) := by
  induction h with
  | @last o w hw =>
    have e : (Token.eof (o + w.length)).shift n = Token.eof (n + o + w.length) := by
      simp [Token.shift, Token.eof, Span.shift, Span.point]; omega
    rw [List.map_cons, List.map_nil, e]
    exact .last hw
  | @piece o cs w rest p ts hcs hw hp hm _ ih =>
    rw [List.map_cons, Piece.token_shift, ← Nat.add_assoc]
    exact .piece hcs hw hp hm (by simpa [Nat.add_assoc] using ih)

end ExprLexer.Grammar
