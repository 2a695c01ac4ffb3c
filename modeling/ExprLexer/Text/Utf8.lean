/-!
# UTF-8 bytes

Sources are lexed as their UTF-8 bytes (RFC 3629), and every offset the library reports counts
bytes. This module reads the character that begins at a byte offset, tells the boundaries between
characters from the inside of a character, and cuts a range of bytes back into text.

Main statements: a decoded character is followed by fewer bytes than it started from
(`length_lt_of_decodeChar?`), and an ASCII byte decodes to itself (`decodeChar?_ascii`).
-/

namespace ExprLexer.Utf8

/-- The UTF-8 bytes of a text. -/
def bytes (s : String) : Array UInt8 := s.toUTF8.data

/-- A continuation byte, `10xxxxxx`: no character begins with one. -/
def isContinuation (b : UInt8) : Bool := 0x80 ≤ b && b ≤ 0xBF

/-- The code point made of the payload of a lead byte and the six low bits of each continuation
byte after it. -/
def scalar (lead : Nat) (conts : List UInt8) : Char :=
  Char.ofNat (conts.foldl (fun acc b => acc * 64 + (b.toNat - 0x80)) lead)

/-- Reads the first character of `bs`, with the bytes after it. It is `none` when `bs` does not
begin with a well-formed sequence: a continuation byte, an overlong form, a surrogate, a code
point above U+10FFFF, or a sequence cut short. The ranges of the second byte are those of
RFC 3629 §4. -/
def decodeChar? : List UInt8 → Option (Char × List UInt8)
  | [] => none
  | a :: rest =>
    if a < 0x80 then some (Char.ofNat a.toNat, rest)
    else if a < 0xC2 then none
    else if a < 0xE0 then
      match rest with
      | b :: r => if isContinuation b then some (scalar (a.toNat - 0xC0) [b], r) else none
      | [] => none
    else if a < 0xF0 then
      match rest with
      | b :: c :: r =>
        let lo : UInt8 := if a = 0xE0 then 0xA0 else 0x80
        let hi : UInt8 := if a = 0xED then 0x9F else 0xBF
        if lo ≤ b && b ≤ hi && isContinuation c then
          some (scalar (a.toNat - 0xE0) [b, c], r)
        else none
      | _ => none
    else if a < 0xF5 then
      match rest with
      | b :: c :: d :: r =>
        let lo : UInt8 := if a = 0xF0 then 0x90 else 0x80
        let hi : UInt8 := if a = 0xF4 then 0x8F else 0xBF
        if lo ≤ b && b ≤ hi && isContinuation c && isContinuation d then
          some (scalar (a.toNat - 0xF0) [b, c, d], r)
        else none
      | _ => none
    else none

theorem decodeChar?_ascii {a : UInt8} (rest : List UInt8) (h : a < 0x80) :
    decodeChar? (a :: rest) = some (Char.ofNat a.toNat, rest) := by
  simp [decodeChar?, h]

theorem length_lt_of_decodeChar? {bs : List UInt8} {c : Char} {rest : List UInt8}
    (h : decodeChar? bs = some (c, rest)) : rest.length < bs.length := by
  unfold decodeChar? at h
  split at h
  · simp at h
  · repeat' split at h
    all_goals simp_all
    all_goals omega

/-- Decodes a whole byte sequence, or `none` when some character in it is ill-formed. -/
def decode (bs : List UInt8) : Option (List Char) :=
  match h : decodeChar? bs with
  | some (c, rest) => (decode rest).map (c :: ·)
  | none => if bs.isEmpty then some [] else none
termination_by bs.length
decreasing_by exact length_lt_of_decodeChar? h

/-- The characters read off the front of a byte sequence, up to the first character that is
ill-formed or cut short. -/
def decodeFront (bs : List UInt8) : List Char :=
  match h : decodeChar? bs with
  | some (c, rest) => c :: decodeFront rest
  | none => []
termination_by bs.length
decreasing_by exact length_lt_of_decodeChar? h

/-- The text of a byte sequence, or `none` when it is not UTF-8. -/
def decodeString? (bs : List UInt8) : Option String := (decode bs).map String.ofList

/-- Whether byte offset `i` of `bs` lies between two characters: the start, the end, or a byte
that is no continuation byte. An offset past the end is no boundary. -/
def isBoundary (bs : Array UInt8) (i : Nat) : Bool :=
  i == 0 ||
    match bs[i]? with
    | some b => !isContinuation b
    | none => i == bs.size

/-- The text of bytes `a` up to `b`, when `a ≤ b` and both are boundaries. -/
def slice? (bs : Array UInt8) (a b : Nat) : Option String :=
  if a ≤ b && isBoundary bs a && isBoundary bs b then
    (decode (bs.extract a b).toList).map String.ofList
  else none

/-- The character that a reader standing at byte `i` sees: the byte itself when it is ASCII, the
character that begins there when `i` is a boundary, U+FFFD inside a character, and NUL past the
last byte. -/
def charAt (bs : Array UInt8) (i : Nat) : Char :=
  match bs[i]? with
  | none => '\x00'
  | some b =>
    if b < 0x80 then Char.ofNat b.toNat
    else if isContinuation b then '�'
    else match decodeChar? (bs.extract i (i + 4)).toList with
      | some (c, _) => c
      | none => '�'

end ExprLexer.Utf8
