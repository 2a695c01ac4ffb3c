import ExprLexer.Session
import ExprLexer.Proofs.Utf8

/-!
# Dumps into a sink that fills up

A dump is a list of writes, and a sink with room for `n` bytes takes them in order: each write
that fits whole, then the first bytes of the one that does not, as many as there is room for.
Whatever the writes, the sink holds the first `n` bytes of all of them together
(`deliver_accepted`), some write fails exactly when they are longer than the room
(`deliver_overflow_eq_none_iff`), and the write that fails is the one in which the room ends
(`deliver_overflow_of_split`), which is one of the writes (`exists_mem_of_deliver_overflow`).

A text dump writes lines only, so its failure is always an output error; a JSON dump writes its
body and then a line break, so it fails as a JSON error when the room ends inside the body, and
as an output error when exactly the line break does not fit. A run that does not lex writes
nothing.

Main statement: `dump_into_full_sink`.
-/

namespace ExprLexer

open Utf8

/-! ### Writes into a sink with room for `n` bytes -/

section Deliver

variable {n : Nat} {ps : List Piece}

theorem Piece.length_bytes (p : Piece) : p.bytes.length = p.text.utf8ByteSize := by
  rw [Piece.bytes, Array.length_toList, utf8ByteSize_eq_size_bytes]

/-- The sink holds the first `n` bytes of all the writes. -/
theorem deliver_accepted (n : Nat) (ps : List Piece) :
    (deliver (some n) ps).accepted = (ps.flatMap Piece.bytes).take n := by
  induction ps generalizing n with
  | nil => simp [deliver]
  | cons p ps ih =>
    rw [deliver, List.flatMap_cons]
    split
    · -- the write fits whole, and the rest go into what room is left
      rename_i hle
      dsimp only
      rw [ih, List.take_append, List.take_of_length_le hle]
    · rw [List.take_append_of_le_length (by omega)]

/-- Some write fails exactly when all of them are longer than the room. -/
theorem deliver_overflow_eq_none_iff (n : Nat) (ps : List Piece) :
    (deliver (some n) ps).overflow = none ↔ (ps.flatMap Piece.bytes).length ≤ n := by
  induction ps generalizing n with
  | nil => simp [deliver]
  | cons p ps ih =>
    rw [deliver, List.flatMap_cons, List.length_append]
    split
    · dsimp only
      rw [ih]
      omega
    · simp only [reduceCtorEq, false_iff]
      omega

/-- The write that fails is the one in which the room ends. -/
theorem deliver_overflow_of_split (pre : List Piece) (p : Piece) (post : List Piece)
    (hle : (pre.flatMap Piece.bytes).length ≤ n)
    (hlt : n < (pre.flatMap Piece.bytes).length + p.bytes.length) :
    (deliver (some n) (pre ++ p :: post)).overflow = some p.stage := by
  induction pre generalizing n with
  | nil =>
    rw [List.nil_append, deliver, if_neg (by simpa using hlt)]
  | cons q pre ih =>
    rw [List.flatMap_cons, List.length_append] at hle hlt
    rw [List.cons_append, deliver, if_pos (by omega)]
    exact ih (by omega) (by omega)

/-- A write that fails is one of the writes. -/
theorem exists_mem_of_deliver_overflow {st : Stage}
    (h : (deliver (some n) ps).overflow = some st) : ∃ p ∈ ps, p.stage = st := by
  induction ps generalizing n with
  | nil => simp [deliver] at h
  | cons p ps ih =>
    rw [deliver] at h
    split at h
    · dsimp only at h
      obtain ⟨q, hq, hst⟩ := ih h
      exact ⟨q, List.mem_cons_of_mem p hq, hst⟩
    · exact ⟨p, List.mem_cons_self, Option.some.inj h⟩

end Deliver

/-! ### The writes of a dump -/

namespace Dump

/-- The writes of a dump, one after another, are the bytes of the whole dump. -/
theorem flatMap_bytes_pieces (f : DumpFormat) (ts : List Token) :
    (pieces f ts).flatMap Piece.bytes = (Utf8.bytes (render f ts)).toList := by
  rw [render, toList_bytes, String.toList_join, List.flatMap_map, List.flatMap_assoc]
  congr 1
  funext p
  exact toList_bytes p.text

/-- A text dump is the line of each token followed by a line break. -/
theorem render_text (ts : List Token) :
    render .text ts = String.join (ts.map fun t => t.toText ++ "\n") := by
  simp only [render, pieces, List.map_map]
  rfl

/-- A JSON dump is the pretty-printed array followed by a line break. -/
theorem render_json (ts : List Token) :
    render .json ts = String.ofList (jsonBody ts) ++ "\n" := by
  simp only [render, pieces, List.map_cons, List.map_nil, String.join_cons, String.join_nil,
    String.append_empty]

theorem pieces_json (ts : List Token) :
    pieces .json ts = [⟨.body, String.ofList (jsonBody ts)⟩, ⟨.finalBreak, "\n"⟩] := rfl

/-- A JSON dump is one byte longer than its body. -/
theorem render_json_utf8ByteSize (ts : List Token) :
    (render .json ts).utf8ByteSize = (String.ofList (jsonBody ts)).utf8ByteSize + 1 := by
  rw [render_json, String.utf8ByteSize_append]
  rfl

theorem utf8ByteSize_render (f : DumpFormat) (ts : List Token) :
    (render f ts).utf8ByteSize = ((pieces f ts).flatMap Piece.bytes).length := by
  rw [flatMap_bytes_pieces, Array.length_toList, utf8ByteSize_eq_size_bytes]

/-- Every write of a text dump is a line. -/
theorem stage_of_mem_pieces_text {ts : List Token} {p : Piece} (hp : p ∈ pieces .text ts) :
    p.stage = .line := by
  simp only [pieces, List.mem_map] at hp
  obtain ⟨t, -, rfl⟩ := hp
  rfl

end Dump

/-! ### Dumps and runs -/

theorem writeTokens_error (ts : List Token) (f : DumpFormat) (room : Option Nat) :
    (writeTokens ts f room).error = (deliver room (Dump.pieces f ts)).overflow.map Stage.error :=
  rfl

section WriteTokens

variable (ts : List Token) (n : Nat)

/-- Into a sink with room for `n` bytes, a dump leaves the first `n` bytes of the whole dump. -/
theorem writeTokens_written (f : DumpFormat) :
    (writeTokens ts f (some n)).written = (Utf8.bytes (Dump.render f ts)).toList.take n := by
  rw [writeTokens, deliver_accepted, Dump.flatMap_bytes_pieces]

/-- A dump fails exactly when it is longer than the room. -/
theorem writeTokens_error_eq_none_iff (f : DumpFormat) :
    (writeTokens ts f (some n)).error = none ↔ (Dump.render f ts).utf8ByteSize ≤ n := by
  rw [writeTokens_error, Option.map_eq_none_iff, deliver_overflow_eq_none_iff,
    Dump.utf8ByteSize_render]

/-- A text dump that does not fit fails as an output error: all its writes are lines. -/
theorem writeTokens_text_error (hn : n < (Dump.render .text ts).utf8ByteSize) :
    (writeTokens ts .text (some n)).error = some (.io .sinkFull) := by
  have hfail : (deliver (some n) (Dump.pieces .text ts)).overflow ≠ none := by
    rw [Ne, deliver_overflow_eq_none_iff, ← Dump.utf8ByteSize_render]
    omega
  obtain ⟨st, hst⟩ := Option.ne_none_iff_exists'.1 hfail
  obtain ⟨p, hp, rfl⟩ := exists_mem_of_deliver_overflow hst
  rw [writeTokens_error, hst, Option.map_some, Dump.stage_of_mem_pieces_text hp]
  rfl

/-- A JSON dump whose room ends inside the body fails as a JSON error. -/
theorem writeTokens_json_body_error (hn : n < (Dump.render .json ts).utf8ByteSize - 1) :
    (writeTokens ts .json (some n)).error = some (.json .sinkFull) := by
  rw [Dump.render_json_utf8ByteSize, Nat.add_sub_cancel] at hn
  have hbody := deliver_overflow_of_split [] ⟨.body, String.ofList (Dump.jsonBody ts)⟩
    [⟨.finalBreak, "\n"⟩] (Nat.zero_le n) (by
      rw [List.flatMap_nil, List.length_nil, Nat.zero_add, Piece.length_bytes]
      exact hn)
  rw [List.nil_append] at hbody
  rw [writeTokens_error, Dump.pieces_json, hbody]
  rfl

/-- A JSON dump whose room ends just before the final line break fails as an output error. -/
theorem writeTokens_json_break_error :
    (writeTokens ts .json (some ((Dump.render .json ts).utf8ByteSize - 1))).error =
      some (.io .sinkFull) := by
  rw [Dump.render_json_utf8ByteSize, Nat.add_sub_cancel]
  have hlen : (List.flatMap Piece.bytes [⟨.body, String.ofList (Dump.jsonBody ts)⟩]).length =
      (String.ofList (Dump.jsonBody ts)).utf8ByteSize := by
    rw [List.flatMap_singleton, Piece.length_bytes]
  have hbreak := deliver_overflow_of_split [⟨.body, String.ofList (Dump.jsonBody ts)⟩]
    ⟨.finalBreak, "\n"⟩ [] (Nat.le_of_eq hlen) (by
      rw [hlen, Piece.length_bytes]
      exact Nat.lt_succ_self _)
  rw [List.singleton_append] at hbreak
  rw [writeTokens_error, Dump.pieces_json, hbreak]
  rfl

end WriteTokens

namespace Session

variable {S : Session} {src : String} {room : Option Nat}

/-- A source that does not lex writes nothing, and the run fails with its lexical error. -/
theorem run_of_error {e : LexError} (h : tokenize src S.keywords = .error e) :
    S.run src room = ⟨[], some (.lex e)⟩ := by
  rw [run, h]

/-- A source that lexes is dumped as its tokens. -/
theorem run_of_ok {ts : List Token} (h : tokenize src S.keywords = .ok ts) :
    S.run src room = writeTokens ts S.format room := by
  rw [run, h]

end Session

/-- A run writes nothing and fails with the lexical error when its source does not lex, and is
the dump of the tokens otherwise. The text dump is each token's line and a line break, the JSON
dump the pretty-printed array of records and a line break. Into a sink with room for `n` bytes,
a dump leaves the first `min n |F|` bytes of the whole dump `F`, succeeds exactly when `n ≥ |F|`,
and otherwise fails as an output error for text, and for JSON as a JSON error when
`n < |F| - 1` and an output error when `n = |F| - 1`. -/
theorem dump_into_full_sink :
    (∀ (S : Session) (src : String) (room : Option Nat),
      (∀ e, tokenize src S.keywords = .error e → S.run src room = ⟨[], some (.lex e)⟩) ∧
      (∀ ts, tokenize src S.keywords = .ok ts → S.run src room = writeTokens ts S.format room)) ∧
    (∀ ts, Dump.render .text ts = String.join (ts.map fun t => t.toText ++ "\n") ∧
      Dump.render .json ts = String.ofList (Dump.jsonBody ts) ++ "\n") ∧
    ∀ (ts : List Token) (f : DumpFormat) (n : Nat),
      (writeTokens ts f (some n)).written = (Utf8.bytes (Dump.render f ts)).toList.take n ∧
      ((writeTokens ts f (some n)).error = none ↔ (Dump.render f ts).utf8ByteSize ≤ n) ∧
      (f = .text → n < (Dump.render f ts).utf8ByteSize →
        (writeTokens ts f (some n)).error = some (.io .sinkFull)) ∧
      (f = .json → n < (Dump.render f ts).utf8ByteSize - 1 →
        (writeTokens ts f (some n)).error = some (.json .sinkFull)) ∧
      (f = .json → n = (Dump.render f ts).utf8ByteSize - 1 →
        (writeTokens ts f (some n)).error = some (.io .sinkFull)) :=
  ⟨fun _ _ _ => ⟨fun _ => Session.run_of_error, fun _ => Session.run_of_ok⟩,
    fun ts => ⟨Dump.render_text ts, Dump.render_json ts⟩, fun ts f n =>
      ⟨writeTokens_written ts n f, writeTokens_error_eq_none_iff ts n f,
        by rintro rfl; exact writeTokens_text_error ts n,
        by rintro rfl; exact writeTokens_json_body_error ts n,
        by rintro rfl rfl; exact writeTokens_json_break_error ts⟩⟩

end ExprLexer
