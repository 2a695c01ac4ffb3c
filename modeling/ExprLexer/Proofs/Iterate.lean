import ExprLexer.Lexer.Iterate
import ExprLexer.Proofs.Calls

/-!
# Iteration refines `tokenize`

Iterating a lexer that is not finished yields what its scan gives: each token, then the error
if the scan stopped at one (`Lexer.items_eq_scan`). The two ways of stopping agree: the scan
stops at the end marker or an error, and iteration marks itself finished on exactly those.

So iterating the lexer of a source yields the tokens of `tokenize` when the source lexes, and
otherwise the tokens of the part before the invalid character, without its end marker, then the
error. Calls of `next` in a row answer these items one by one and nothing after them
(`Lexer.run_next`), a finished lexer answers nothing for good (`Lexer.run_next_of_finished`), and
collecting the items into one result, as the first error or all the tokens, gives `tokenize`
(`Scan.mapM_id_items`). `items_refine_tokenize` puts these together.
-/

namespace ExprLexer

open Utf8 Grammar

/-! ### Collecting results -/

section Collect

variable {ε α : Type}

/-- Collecting successes gives all their values. -/
theorem mapM_id_map_ok (xs : List α) : (xs.map Except.ok : List (Except ε α)).mapM id = .ok xs := by
  induction xs with
  | nil => rfl
  | cons x xs ih => rw [List.map_cons, List.mapM_cons, ih]; rfl

/-- Collecting successes and then an error gives the error. -/
theorem mapM_id_map_ok_append_error (xs : List α) (e : ε) :
    (xs.map Except.ok ++ [Except.error e] : List (Except ε α)).mapM id = .error e := by
  induction xs with
  | nil => rfl
  | cons x xs ih => rw [List.map_cons, List.cons_append, List.mapM_cons, ih]; rfl

end Collect

/-- The results a scan stands for: each token as a success, then the error if there is one. -/
def Scan.items (sc : Scan) : List (Except LexError Token) :=
  sc.tokens.map .ok ++ (sc.error.map .error).toList

/-- Collecting the results of a scan gives its token list or its error. -/
theorem Scan.mapM_id_items (sc : Scan) : sc.items.mapM id = sc.result := by
  obtain ⟨ts, _ | e⟩ := sc
  · simpa [Scan.items, Scan.result] using mapM_id_map_ok ts
  · exact mapM_id_map_ok_append_error ts e

namespace Lexer

variable {lx lx' : Lexer} {r : Except LexError Token}

/-! ### One step of iteration -/

theorem next_of_finished (h : lx.finished = true) : lx.next = (none, lx) := by
  simp [next, h]

theorem next_of_nextToken (hf : lx.finished = false) (hn : lx.nextToken = (r, lx')) :
    lx.next = (some r, { lx' with finished := ends r }) := by
  simp [next, hf, hn]

theorem finished_of_next_none (h : lx.next = (none, lx')) : lx.finished = true := by
  cases hf : lx.finished
  · simp [next, hf] at h
  · rfl

theorem items_of_next_none (h : lx.next = (none, lx')) : lx.items = [] := by
  rw [items]; split <;> simp_all

theorem items_of_next_some (h : lx.next = (some r, lx')) : lx.items = r :: lx'.items := by
  rw [items]; split <;> simp_all

theorem items_of_finished (h : lx.finished = true) : lx.items = [] :=
  items_of_next_none (next_of_finished h)

/-! ### Iteration against the scan -/

/-- An iteration not yet over yields what the scan from the same lexer gives. -/
theorem items_eq_scan (h : lx.finished = false) : lx.items = lx.scan.items := by
  -- along the scan's own recursion: an error or the end marker finishes the iteration, and any
  -- other token leaves it unfinished at the lexer the scan goes on from
  fun_induction Lexer.scan lx with
  | case1 lx e lx' hn =>
    rw [items_of_next_some (next_of_nextToken h hn), items_of_finished rfl]
    rfl
  | case2 lx t lx' hn ht =>
    rw [items_of_next_some (next_of_nextToken h hn), items_of_finished (by simpa [ends] using ht)]
    rfl
  | case3 lx t lx' hn ht rest ih =>
    have hf : lx'.finished = false := by
      rw [← finished_nextToken lx, hn] at h
      exact h
    have he : ends (.ok t) = false := by simpa [ends] using ht
    have hself : { lx' with finished := false } = lx' := by cases lx'; cases hf; rfl
    rw [items_of_next_some (next_of_nextToken h hn), he, hself, ih hf]
    rfl

/-- A scan that stops at an error gave no end marker before it. -/
theorem isEof_of_mem_scan_tokens {e : LexError} (he : lx.scan.error = some e) :
    ∀ t ∈ lx.scan.tokens, t.isEof = false := by
  fun_induction Lexer.scan lx with
  | case1 => simp
  | case2 => simp at he
  | case3 lx t lx' hn ht rest ih =>
    intro t' ht'
    rcases List.mem_cons.1 ht' with rfl | ht'
    · simpa using ht
    · exact ih he t' ht'

/-! ### Calls of `next` in a row -/

theorem run_cons (lx : Lexer) (c : Call) (cs : List Call) :
    lx.run (c :: cs) = ((lx.call c).1, (lx.call c).2.position) :: (lx.call c).2.run cs := rfl

theorem call_next_of_next_some (h : lx.next = (some r, lx')) : lx.call .next = (.result r, lx') := by
  simp [call, h]

theorem finished_of_call_next (h : (lx.call .next).1 = .exhausted) : lx.finished = true := by
  cases hf : lx.finished
  · rw [call_next_of_active hf] at h
    cases h
  · rfl

/-- A finished lexer answers every call of `next` with nothing. -/
theorem run_next_of_finished (h : lx.finished = true) (n : Nat) :
    (lx.run (List.replicate n .next)).map Prod.fst = List.replicate n .exhausted := by
  induction n with
  | zero => rfl
  | succ n ih =>
    rw [List.replicate_succ, run_cons, call_next_of_finished h, List.map_cons, ih]
    rfl

/-- Calls of `next` in a row answer the items one by one, and nothing once they are spent. -/
theorem run_next (lx : Lexer) (n : Nat) :
    (lx.run (List.replicate n .next)).map Prod.fst =
      (lx.items.map .result).take n ++ List.replicate (n - lx.items.length) .exhausted := by
  fun_induction Lexer.items lx generalizing n with
  | case1 lx lx' h => simpa using run_next_of_finished (finished_of_next_none h) n
  | case2 lx r lx' h ih =>
    cases n with
    | zero => simp [run]
    | succ n =>
      rw [List.replicate_succ, run_cons, call_next_of_next_some h, List.map_cons, ih]
      simp

end Lexer

/-! ### The lexer of a source -/

section Source

variable {s : String} {K : KeywordSet}

theorem items_ofString (s : String) (K : KeywordSet) :
    (Lexer.ofString s K).items = (scan s K).items :=
  Lexer.items_eq_scan rfl

/-- Iterating a source that lexes yields its tokens. -/
theorem items_of_tokenize_ok {ts : List Token} (h : tokenize s K = .ok ts) :
    (Lexer.ofString s K).items = ts.map .ok := by
  rw [tokenize, Scan.result_eq_ok_iff] at h
  rw [items_ofString, Scan.items, h.1, h.2]
  simp

/-- Iterating a source that fails yields the tokens of the part before the invalid character,
which is a whole number of characters and lexes, without its end marker, and then the error. -/
theorem items_of_tokenize_error {e : LexError} (h : tokenize s K = .error e) :
    ∃ u ts, (Span.mk 0 e.span.start).snippet? s = some u ∧ tokenize u K = .ok ts ∧
      (Lexer.ofString s K).items = (ts.filter (fun t => !t.isEof)).map .ok ++ [.error e] := by
  obtain ⟨cs, rfl⟩ := exists_eq_ofList s
  rw [tokenize, Scan.result_eq_error_iff] at h
  obtain ⟨u, ch, v, hcs, rfl, -, -, hs, -⟩ := scan_error h
  refine ⟨String.ofList u, _, ?_, tokenize_of_splits hs, ?_⟩
  · -- the part before the character is ASCII, so its end is a boundary
    have hb : (bytes (String.ofList cs)).toList = (u ++ ch :: v).flatMap String.utf8EncodeChar := by
      rw [bytes_ofList, hcs]
    simpa [Span.snippet?, LexError.span] using slice?_of_ascii hb hs.isAscii (Nat.zero_le _)
  · have hne : ∀ t ∈ (scan (String.ofList cs) K).tokens, t.isEof = false :=
      Lexer.isEof_of_mem_scan_tokens h
    rw [items_ofString, Scan.items, h, List.filter_append, List.filter_eq_self.2 (by simpa using hne)]
    simp [Token.eof, Token.isEof]

/-- Iterating the lexer of a source refines `tokenize`. Calls of `next` answer the items in
order and then nothing; the items are the tokens of a source that lexes, and otherwise the
tokens before the invalid character (those of the part before it, which lexes, less its end
marker) and then the error; once a call answers nothing, so does every later one; and
collecting the items gives `tokenize`. -/
theorem items_refine_tokenize (s : String) (K : KeywordSet) :
    (∀ n, ((Lexer.ofString s K).run (List.replicate n .next)).map Prod.fst =
      ((Lexer.ofString s K).items.map .result).take n ++
        List.replicate (n - (Lexer.ofString s K).items.length) .exhausted) ∧
    (∀ ts, tokenize s K = .ok ts → (Lexer.ofString s K).items = ts.map .ok) ∧
    (∀ e, tokenize s K = .error e →
      ∃ u ts, (Span.mk 0 e.span.start).snippet? s = some u ∧ tokenize u K = .ok ts ∧
        (Lexer.ofString s K).items = (ts.filter (fun t => !t.isEof)).map .ok ++ [.error e]) ∧
    (∀ lx : Lexer, (lx.call .next).1 = .exhausted →
      ∀ n, ((lx.call .next).2.run (List.replicate n .next)).map Prod.fst =
        List.replicate n .exhausted) ∧
    (Lexer.ofString s K).items.mapM id = tokenize s K := by
  refine ⟨Lexer.run_next _, fun _ h => items_of_tokenize_ok h, fun _ h => items_of_tokenize_error h,
    fun lx hx n => ?_, ?_⟩
  · have hf := Lexer.finished_of_call_next hx
    rw [Lexer.call_next_of_finished hf]
    exact Lexer.run_next_of_finished hf n
  · rw [items_ofString, Scan.mapM_id_items]
    rfl

/-- A question mark is the error at once, and iteration yields that error alone. -/
theorem items_question_mark :
    tokenize "?" KeywordSet.standard = .error (.invalidCharacter '?' ⟨0, 1⟩) ∧
      ∃ u ts, (Span.mk 0 0).snippet? "?" = some u ∧ tokenize u KeywordSet.standard = .ok ts ∧
        (Lexer.ofString "?" KeywordSet.standard).items =
          (ts.filter (fun t => !t.isEof)).map .ok ++ [.error (.invalidCharacter '?' ⟨0, 1⟩)] := by
  have h : tokenize "?" KeywordSet.standard = .error (.invalidCharacter '?' ⟨0, 1⟩) := by
    have := scan_of_invalid isBlanks_nil (show isBlank '?' = false by decide)
      (show Grammar.Piece.front? ['?'] = none by decide) KeywordSet.standard
    rw [tokenize, show "?" = String.ofList ([] ++ ['?']) from rfl, this]
    rfl
  exact ⟨h, (items_refine_tokenize "?" KeywordSet.standard).2.2.1 _ h⟩

end Source

end ExprLexer
