import MacAccess.Toml.Text
import MacAccess.Toml.Value

/-!
# Numbers, dates and times

A number that starts like a date is a date, one that goes on with a fraction or an exponent is a
float, and any other is an integer of 64 bits. Dates and times are checked against the calendar and
the clock, and keep their spelling.
-/

namespace MacAccess.Toml

/-- A character with one of the properties at the start of the text. -/
def oneOf? (p : Char → Bool) : List Char → Found Char
  | c :: cs => if p c then some (c, cs) else none
  | [] => none

/-- The digits after a first one, in which single underscores may separate digits. -/
def moreDigits (isDigit : Char → Bool) : List Char → List Char × List Char
  | [] => ([], [])
  | c :: cs =>
    if isDigit c then
      let (ds, rest) := moreDigits isDigit cs
      (c :: ds, rest)
    else if c == '_' && (cs.head?.map isDigit).getD false then moreDigits isDigit cs
    else ([], c :: cs)

/-- A run of digits, in which single underscores may separate digits. -/
def digits? (isDigit : Char → Bool) (cs : List Char) : Option (List Char × List Char) := do
  let (d, cs) ← oneOf? isDigit cs
  let (ds, rest) := moreDigits isDigit cs
  return (d :: ds, rest)

/-- The sign at the start of the text, if there is one; a minus sign gives `true`. -/
def sign : List Char → Bool × List Char
  | '-' :: cs => (true, cs)
  | '+' :: cs => (false, cs)
  | cs => (false, cs)

/-- A decimal number without a leading zero, with its sign. -/
def decimal? (cs : List Char) : Found (Bool × List Char) :=
  let (negative, cs) := sign cs
  match cs with
  | '0' :: rest => some ((negative, ['0']), rest)
  | _ => (digits? Char.isDigit cs).map fun f => ((negative, f.1), f.2)

/-! ## Integers -/

/-- Whether a number fits into 64 bits with a sign. -/
def isInt64 (n : Int) : Bool := -9223372036854775808 ≤ n && n ≤ 9223372036854775807

/-- The value of digits in a base. -/
def ofDigits (base : Nat) (ds : List Char) : Nat :=
  ds.foldl (fun n d => n * base + (hexValue? d).getD 0) 0

/-- The base that a letter after a leading zero announces, with its digits. -/
def base? : Char → Option (Nat × (Char → Bool))
  | 'x' => some (16, fun c => (hexValue? c).isSome)
  | 'o' => some (8, fun c => '0' ≤ c && c ≤ '7')
  | 'b' => some (2, fun c => c == '0' || c == '1')
  | _ => none

def integer? (cs : List Char) : Option (Int × List Char) := do
  let (n, rest) ← match cs with
    | '0' :: c :: more =>
      match base? c with
      | some (base, isDigit) => (digits? isDigit more).map fun f => ((ofDigits base f.1 : Int), f.2)
      | none => some (0, c :: more)
    | _ => (decimal? cs).map fun f =>
        let n : Int := ofDigits 10 f.1.2
        (if f.1.1 then -n else n, f.2)
  if isInt64 n then some (n, rest) else none

/-! ## Floats -/

/-- The least number that rounds to infinity in binary64: halfway from the greatest finite number
to the next power of two. -/
def overflowBound : Nat := Nat.pow 2 1024 - Nat.pow 2 970

/-- Whether `digits · 10^exponent` is at least the bound. The order of magnitude decides first, so
no large power is computed for it. -/
def overflows (digits : List Char) (exponent : Int) : Bool :=
  let significant := digits.dropWhile (· == '0')
  let magnitude : Int := exponent + significant.length
  if significant = [] then false
  else if magnitude > 309 then true
  else if magnitude < 309 then false
  else
    let n := ofDigits 10 significant
    if exponent ≥ 0 then n * Nat.pow 10 exponent.toNat ≥ overflowBound
    else n ≥ overflowBound * Nat.pow 10 (-exponent).toNat

/-- The digits of a fraction, with its dot. -/
def fraction? : List Char → Found (List Char)
  | '.' :: cs => digits? Char.isDigit cs
  | _ => none

def exponent? (cs : List Char) : Option (Int × List Char) := do
  let (_, cs) ← oneOf? (fun c => c == 'e' || c == 'E') cs
  let (negative, cs) := sign cs
  let (ds, rest) ← digits? Char.isDigit cs
  let n : Int := ofDigits 10 ds
  return (if negative then -n else n, rest)

/-- A finite float: a decimal number with a fraction, an exponent, or both. A positive one may not
be too large. -/
def finiteFloat? (cs : List Char) : Option (FloatValue × List Char) := do
  let ((negative, whole), afterWhole) ← decimal? cs
  let frac := fraction? afterWhole
  let (fracDigits, afterFrac) := frac.getD ([], afterWhole)
  let power := exponent? afterFrac
  let (exponent, rest) := power.getD (0, afterFrac)
  let digits := whole ++ fracDigits
  let exponent := exponent - fracDigits.length
  if frac.isNone && power.isNone then none
  else if !negative && overflows digits exponent then none
  else some (.finite negative (ofDigits 10 digits) exponent, rest)

/-- A word at the start of the text. -/
def word? (word : String) (cs : List Char) : Option (List Char) :=
  if word.toList.isPrefixOf cs then some (cs.drop word.length) else none

/-- An infinity or a not-a-number. -/
def specialFloat? (cs : List Char) : Found FloatValue :=
  let (negative, cs) := sign cs
  match word? "inf" cs, word? "nan" cs with
  | some rest, _ => some (.infinite negative, rest)
  | none, some rest => some (.notANumber, rest)
  | none, none => none

/-! ## Dates and times -/

/-- A number of exactly so many digits within bounds. -/
def fixed? (width low high : Nat) (cs : List Char) : Found Nat :=
  let ds := cs.take width
  let n := ofDigits 10 ds
  if ds.length = width ∧ ds.all Char.isDigit ∧ low ≤ n ∧ n ≤ high then some (n, cs.drop width)
  else none

def isLeapYear (year : Nat) : Bool := year % 4 == 0 && (year % 100 != 0 || year % 400 == 0)

def daysInMonth (year month : Nat) : Nat :=
  if month = 2 then if isLeapYear year then 29 else 28
  else if month = 4 ∨ month = 6 ∨ month = 9 ∨ month = 11 then 30
  else 31

/-- The rest after a date. -/
def date? (cs : List Char) : Option (List Char) := do
  let (year, cs) ← fixed? 4 0 9999 cs
  let (_, cs) ← oneOf? (· == '-') cs
  let (month, cs) ← fixed? 2 1 12 cs
  let (_, cs) ← oneOf? (· == '-') cs
  let (_, rest) ← fixed? 2 1 (daysInMonth year month) cs
  return rest

/-- The rest after a time of day. A second may be a leap second, and may have a fraction. -/
def time? (cs : List Char) : Option (List Char) := do
  let (_, cs) ← fixed? 2 0 23 cs
  let (_, cs) ← oneOf? (· == ':') cs
  let (_, cs) ← fixed? 2 0 59 cs
  let (_, cs) ← oneOf? (· == ':') cs
  let (_, cs) ← fixed? 2 0 60 cs
  match cs with
  | '.' :: d :: more => if d.isDigit then return more.dropWhile Char.isDigit else return cs
  | _ => return cs

/-- The rest after an offset from universal time. -/
def offset? : List Char → Option (List Char)
  | c :: cs =>
    if c == 'Z' || c == 'z' then some cs
    else if c == '+' || c == '-' then do
      let (_, cs) ← fixed? 2 0 23 cs
      let (_, cs) ← oneOf? (· == ':') cs
      let (_, rest) ← fixed? 2 0 59 cs
      return rest
    else none
  | [] => none

/-- The rest after a time that a date may be followed by, with its offset, if there is one. -/
def timeOfDate (cs : List Char) : List Char :=
  match cs with
  | c :: more =>
    if c == 'T' || c == 't' || c == ' ' then
      match time? more with
      | some rest => (offset? rest).getD rest
      | none => cs
    else cs
  | [] => cs

/-- A date, a date with a time, or a time alone. -/
def datetime? (cs : List Char) : Option (String × List Char) := do
  let rest ← ((date? cs).map timeOfDate).or (time? cs)
  return (String.ofList (cs.take (cs.length - rest.length)), rest)

/-! ## Any of them -/

/-- A number, a date or a time. -/
def number? (cs : List Char) : Found Value :=
  ((datetime? cs).map fun f => (.datetime f.1, f.2)).or <|
  ((finiteFloat? cs).map fun f => (.float f.1, f.2)).or <|
  ((specialFloat? cs).map fun f => (.float f.1, f.2)).or <|
  (integer? cs).map fun f => (.integer f.1, f.2)

def boolean? (cs : List Char) : Found Value :=
  ((word? "true" cs).map fun rest => (.boolean true, rest)).or <|
  (word? "false" cs).map fun rest => (.boolean false, rest)

end MacAccess.Toml
