import ExprLexer.Toml.Value

/-!
# TOML scalars written without quotes

Integers (decimal with an optional sign, or `0x`, `0o`, `0b` with their digits), floats (a
decimal integer part with a fraction, an exponent or both, or `inf` and `nan` with an optional
sign), booleans and date-times (a date, a time, or a date and a time joined by `T`, `t` or a
space, with an optional offset `Z`, `z` or `±hh:mm`). Digits may be grouped by single
underscores between two digits; a decimal integer part has no leading zero. Integers are signed
64-bit numbers; dates have a real day of their month and times a real hour and minute.
-/

namespace ExprLexer.Toml

/-- A character of a bare key: an ASCII letter or digit, `-` or `_`. -/
def isBareKeyChar (c : Char) : Bool := c.isAlphanum || c == '-' || c == '_'

/-- A character that may stand in a literal written without quotes. -/
def isWordChar (c : Char) : Bool :=
  c.isAlphanum || c == '_' || c == '+' || c == '-' || c == '.' || c == ':'

/-- A hexadecimal digit. -/
def isHexDigit (c : Char) : Bool :=
  c.isDigit || ('a' ≤ c && c ≤ 'f') || ('A' ≤ c && c ≤ 'F')

/-- The value of a hexadecimal digit. -/
def hexValue (c : Char) : Nat :=
  if c.isDigit then c.toNat - 48
  else if 'a' ≤ c && c ≤ 'f' then c.toNat - 87
  else c.toNat - 55

/-- The digits of a run in which single underscores may stand between two digits, or `none`
when the run is empty, starts or ends with an underscore, or holds two in a row. -/
def ungroup (isDigit : Char → Bool) : List Char → Option (List Char)
  | [] => none
  | [c] => if isDigit c then some [c] else none
  | c :: '_' :: rest => if isDigit c then (ungroup isDigit rest).map (c :: ·) else none
  | c :: rest => if isDigit c then (ungroup isDigit rest).map (c :: ·) else none

/-- The number that digits stand for in base `b`. -/
def digitsValue (b : Nat) (ds : List Char) : Nat := ds.foldl (fun n d => n * b + hexValue d) 0

/-- The greatest signed 64-bit integer, 2^63 - 1. -/
def maxInteger : Nat := 9223372036854775807

/-- Decimal digits without a leading zero, unless the number is zero. -/
def decimalDigits? (cs : List Char) : Option (List Char) :=
  match ungroup Char.isDigit cs with
  | some ('0' :: _ :: _) => none
  | r => r

/-- The integer an unquoted literal stands for, if it is one. -/
def integer? (w : List Char) : Option Int :=
  let radix (b : Nat) (isDigit : Char → Bool) (r : List Char) : Option Int :=
    match ungroup isDigit r with
    | some ds => if digitsValue b ds ≤ maxInteger then some (digitsValue b ds) else none
    | none => none
  match w with
  | '0' :: 'x' :: r => radix 16 isHexDigit r
  | '0' :: 'o' :: r => radix 8 (fun c => '0' ≤ c && c ≤ '7') r
  | '0' :: 'b' :: r => radix 2 (fun c => c == '0' || c == '1') r
  | '-' :: r => match decimalDigits? r with
    | some ds => if digitsValue 10 ds ≤ maxInteger + 1 then some (-(digitsValue 10 ds : Int)) else none
    | none => none
  | '+' :: r => radix10 r
  | r => radix10 r
where
  radix10 (r : List Char) : Option Int :=
    match decimalDigits? r with
    | some ds => if digitsValue 10 ds ≤ maxInteger then some (digitsValue 10 ds) else none
    | none => none

/-- Whether an unquoted literal has the shape of a decimal integer, whatever its size. -/
def isDecimalShaped (w : List Char) : Bool :=
  match w with
  | '-' :: r | '+' :: r => (decimalDigits? r).isSome
  | r => (decimalDigits? r).isSome

/-- Whether an unquoted literal is a float. -/
def isFloat (w : List Char) : Bool :=
  let unsigned := match w with
    | '-' :: r | '+' :: r => r
    | r => r
  if unsigned == ['i', 'n', 'f'] || unsigned == ['n', 'a', 'n'] then true
  else
    let (mantissa, exponent) := unsigned.span (fun c => c != 'e' && c != 'E')
    let (whole, fraction) := mantissa.span (· != '.')
    let wholeOk := (decimalDigits? whole).isSome
    let fractionOk := match fraction with
      | [] => true
      | _ :: ds => (ungroup Char.isDigit ds).isSome
    let exponentOk := match exponent with
      | [] => true
      | _ :: '-' :: ds | _ :: '+' :: ds => (ungroup Char.isDigit ds).isSome
      | _ :: ds => (ungroup Char.isDigit ds).isSome
    wholeOk && fractionOk && exponentOk && (!fraction.isEmpty || !exponent.isEmpty)

/-- The least value that a double rounds to infinity: halfway between the greatest finite
double, (2^53 - 1) * 2^971, and 2^1024, where a tie goes to the even 2^1024. -/
def doubleOverflow : Nat := Nat.pow 2 1024 - Nat.pow 2 970

/-- Whether a decimal float literal (no `inf` or `nan`) is so large that as a double it rounds
to positive infinity. Negative literals never do. The value is the digits `m` times `10^e`;
it lies in `[10^(top-1), 10^top)` for `top` the number of digits of `m` without leading zeros
plus `e`, which decides all but the decade of `doubleOverflow` without computing the value. -/
def roundsToInfinity (w : List Char) : Bool :=
  match w with
  | '-' :: _ => false
  | '+' :: r => positive r
  | r => positive r
where
  /-- The test on an unsigned literal. -/
  positive (r : List Char) : Bool :=
    let (mantissa, exponent) := r.span (fun c => c != 'e' && c != 'E')
    let (whole, fraction) := mantissa.span (· != '.')
    let fractionDigits := (fraction.drop 1).filter (· != '_')
    let digits := (whole.filter (· != '_') ++ fractionDigits).dropWhile (· == '0')
    let power : Int := match exponent with
      | _ :: '-' :: ds => -((digitsValue 10 (ds.filter (· != '_')) : Nat) : Int)
      | _ :: '+' :: ds => digitsValue 10 (ds.filter (· != '_'))
      | _ :: ds => digitsValue 10 (ds.filter (· != '_'))
      | [] => 0
    let e := power - fractionDigits.length
    let top := e + digits.length
    if digits.isEmpty || !digits.all Char.isDigit || top ≤ 308 then false
    else if 310 ≤ top then true
    else
      let m := digitsValue 10 digits
      if 0 ≤ e then doubleOverflow ≤ m * Nat.pow 10 e.toNat
      else doubleOverflow * Nat.pow 10 (-e).toNat ≤ m

/-- Two decimal digits and what follows them. -/
def twoDigits : List Char → Option (Nat × List Char)
  | a :: b :: r =>
    if a.isDigit && b.isDigit then some ((a.toNat - 48) * 10 + (b.toNat - 48), r) else none
  | _ => none

/-- Whether `y` is a leap year of the Gregorian calendar. -/
def isLeapYear (y : Nat) : Bool := y % 4 == 0 && (y % 100 != 0 || y % 400 == 0)

/-- The number of days of month `m` of year `y`. -/
def daysInMonth (y m : Nat) : Nat :=
  if m == 2 then (if isLeapYear y then 29 else 28)
  else if m == 4 || m == 6 || m == 9 || m == 11 then 30
  else 31

/-- A date `yyyy-mm-dd` with a real day of its month, and what follows it. -/
def date? (cs : List Char) : Option (List Char) := do
  let (c, r) ← twoDigits cs
  let (y, r) ← twoDigits r
  let r ← match r with
    | '-' :: r => some r
    | _ => none
  let (m, r) ← twoDigits r
  let r ← match r with
    | '-' :: r => some r
    | _ => none
  let (d, r) ← twoDigits r
  if 1 ≤ m && m ≤ 12 && 1 ≤ d && d ≤ daysInMonth (c * 100 + y) m then some r else none

/-- A time `hh:mm:ss` with an optional fraction of a second, and what follows it. -/
def time? (cs : List Char) : Option (List Char) := do
  let (h, r) ← twoDigits cs
  let r ← match r with
    | ':' :: r => some r
    | _ => none
  let (m, r) ← twoDigits r
  let r ← match r with
    | ':' :: r => some r
    | _ => none
  let (s, r) ← twoDigits r
  if h ≤ 23 && m ≤ 59 && s ≤ 60 then
    match r with
    | '.' :: r =>
      let ds := r.takeWhile Char.isDigit
      if ds.isEmpty then none else some (r.drop ds.length)
    | r => some r
  else none

/-- An offset `Z`, `z` or `±hh:mm`, and what follows it. -/
def offset? : List Char → Option (List Char)
  | 'Z' :: r | 'z' :: r => some r
  | '+' :: r | '-' :: r => do
    let (h, r) ← twoDigits r
    let r ← match r with
      | ':' :: r => some r
      | _ => none
    let (m, r) ← twoDigits r
    if h ≤ 23 && m ≤ 59 then some r else none
  | _ => none

/-- Whether an unquoted literal is a date, a time, or a date and time with an optional offset. -/
def isDateTime (w : List Char) : Bool :=
  match date? w with
  | some [] => true
  | some (d :: r) =>
    (d == 'T' || d == 't' || d == ' ') &&
      match time? r with
      | some [] => true
      | some r => offset? r == some []
      | none => false
  | none => time? w == some []

/-- The value of an unquoted literal. -/
def scalar? (w : List Char) : Except ParseError Value :=
  if w == "true".toList then .ok (.boolean true)
  else if w == "false".toList then .ok (.boolean false)
  else if isDateTime w then .ok (.datetime (String.ofList w))
  else match integer? w with
    | some i => .ok (.integer i)
    | none =>
      if isFloat w then
        if roundsToInfinity w then .error (.outOfRange (String.ofList w))
        else .ok (.float (String.ofList w))
      else if isDecimalShaped w || w.take 2 == ['0', 'x'] || w.take 2 == ['0', 'o'] ||
          w.take 2 == ['0', 'b'] then
        .error (.outOfRange (String.ofList w))
      else .error (.unexpected "a value")

/-- The unquoted literal at the start of `cs`, and what follows it. A date followed by a space and
the start of a time takes the time in too. -/
def splitWord (cs : List Char) : List Char × List Char :=
  let (w, r) := cs.span isWordChar
  match date? w, r with
  | some [], ' ' :: a :: b :: ':' :: rest =>
    if a.isDigit && b.isDigit then
      let (t, r) := (a :: b :: ':' :: rest).span isWordChar
      (w ++ ' ' :: t, r)
    else (w, r)
  | _, _ => (w, r)

end ExprLexer.Toml
