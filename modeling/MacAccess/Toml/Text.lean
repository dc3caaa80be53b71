import MacAccess.Toml.Layout

/-!
# Strings

The four forms of a TOML string. A basic string has escapes and a literal one has none; each is
written on one line, or between triple quotes on several. One reader serves each form, character by
character, and remembers where it stands.
-/

namespace MacAccess.Toml

/-! ## On one line -/

def apostrophe : Char := Char.ofNat 0x27

/-- The value of a hexadecimal digit of either case. -/
def hexValue? (c : Char) : Option Nat :=
  if c.isDigit then some (c.toNat - 0x30)
  else if 'a' ≤ c ∧ c ≤ 'f' then some (c.toNat - 0x57)
  else if 'A' ≤ c ∧ c ≤ 'F' then some (c.toNat - 0x37)
  else none

/-- The character with a code point, unless the code point is a surrogate or too large. -/
def scalar? (n : Nat) : Option Char := if n.isValidChar then some (Char.ofNat n) else none

/-- The character that a backslash and this letter stand for. -/
def shortEscape? : Char → Option Char
  | 'b' => some '\x08'
  | 't' => some '\t'
  | 'n' => some '\n'
  | 'f' => some '\x0c'
  | 'r' => some '\r'
  | '"' => some '"'
  | '\\' => some '\\'
  | _ => none

/-- How many hexadecimal digits follow a backslash and this letter. -/
def codePointDigits? : Char → Option Nat
  | 'u' => some 4
  | 'U' => some 8
  | _ => none

/-- Where a reader stands with respect to escapes. -/
inductive Escape where
  | outside
  /-- After the backslash. -/
  | started
  /-- Inside a code point of which so many digits are missing. -/
  | digits (missing value : Nat)

def push (c : Char) (found : Found (List Char)) : Found (List Char) :=
  found.map fun f => (c :: f.1, f.2)

/-- The content of a basic string up to its closing quote. -/
def basicBody : Escape → List Char → Found (List Char)
  | _, [] => none
  | .outside, c :: cs =>
    if c == '"' then some ([], cs)
    else if c == '\\' then basicBody .started cs
    else if isTextChar c then push c (basicBody .outside cs)
    else none
  | .started, c :: cs =>
    match shortEscape? c, codePointDigits? c with
    | some e, _ => push e (basicBody .outside cs)
    | none, some n => basicBody (.digits n 0) cs
    | none, none => none
  | .digits missing value, c :: cs =>
    match hexValue? c with
    | none => none
    | some d =>
      if missing ≤ 1 then
        match scalar? (value * 16 + d) with
        | some e => push e (basicBody .outside cs)
        | none => none
      else basicBody (.digits (missing - 1) (value * 16 + d)) cs

/-- The content of a literal string up to its closing apostrophe. -/
def literalBody : List Char → Found (List Char)
  | [] => none
  | c :: cs =>
    if c == apostrophe then some ([], cs)
    else if isTextChar c then push c (literalBody cs)
    else none

/-! ## On several lines -/

/-- Where a reader stands in a string between triple quotes. -/
inductive Spread where
  | text
  /-- After a run of so many quotes. -/
  | quotes (count : Nat)
  | escape
  | digits (missing value : Nat)
  /-- After a backslash at the end of a line; the flag tells that the line has ended. -/
  | gap (ended : Bool)

/-- The quotes that belong to the content when a run of quotes ends the string: up to two may stand
right before the three that close it. -/
def closing? (quote : Char) (count : Nat) : Option (List Char) :=
  if count ≤ 5 then some (List.replicate (count - 3) quote) else none

/-- Puts characters in front of the content found. -/
def pushAll (cs : List Char) (found : Found (List Char)) : Found (List Char) :=
  found.map fun f => (cs ++ f.1, f.2)

/-- The content of a basic string between triple quotes, up to their end. -/
def spreadBasic : Spread → List Char → Found (List Char)
  | .quotes n, [] => if n < 3 then none else (closing? '"' n).map (·, [])
  | _, [] => none
  | .quotes n, c :: cs =>
    if c == '"' then spreadBasic (.quotes (n + 1)) cs
    else if n ≥ 3 then (closing? '"' n).map (·, c :: cs)
    else if c == '\\' then pushAll (List.replicate n '"') (spreadBasic .escape cs)
    else if isTextChar c || c == '\n' then
      pushAll (List.replicate n '"' ++ [c]) (spreadBasic .text cs)
    else none
  | .text, c :: cs =>
    if c == '"' then spreadBasic (.quotes 1) cs
    else if c == '\\' then spreadBasic .escape cs
    else if isTextChar c || c == '\n' then push c (spreadBasic .text cs)
    else none
  | .escape, c :: cs =>
    if isBlank c then spreadBasic (.gap false) cs
    else if c == '\n' then spreadBasic (.gap true) cs
    else match shortEscape? c, codePointDigits? c with
      | some e, _ => push e (spreadBasic .text cs)
      | none, some n => spreadBasic (.digits n 0) cs
      | none, none => none
  | .digits missing value, c :: cs =>
    match hexValue? c with
    | none => none
    | some d =>
      if missing ≤ 1 then
        match scalar? (value * 16 + d) with
        | some e => push e (spreadBasic .text cs)
        | none => none
      else spreadBasic (.digits (missing - 1) (value * 16 + d)) cs
  | .gap ended, c :: cs =>
    if isBlank c then spreadBasic (.gap ended) cs
    else if c == '\n' then spreadBasic (.gap true) cs
    else if !ended then none
    else if c == '"' then spreadBasic (.quotes 1) cs
    else if c == '\\' then spreadBasic .escape cs
    else if isTextChar c then push c (spreadBasic .text cs)
    else none

/-- The content of a literal string between triple apostrophes, up to their end. The number counts
the apostrophes read last. -/
def spreadLiteral : Nat → List Char → Found (List Char)
  | n, [] => if n < 3 then none else (closing? apostrophe n).map (·, [])
  | n, c :: cs =>
    if c == apostrophe then spreadLiteral (n + 1) cs
    else if n ≥ 3 then (closing? apostrophe n).map (·, c :: cs)
    else if isTextChar c || c == '\n' then
      pushAll (List.replicate n apostrophe ++ [c]) (spreadLiteral 0 cs)
    else none

/-- The text after a newline at its start, which a string on several lines does not count. -/
def dropNewline : List Char → List Char
  | '\n' :: cs => cs
  | cs => cs

/-- A string on one line. -/
def lineString? : List Char → Found String
  | c :: cs =>
    if c == '"' then (basicBody .outside cs).map fun f => (String.ofList f.1, f.2)
    else if c == apostrophe then (literalBody cs).map fun f => (String.ofList f.1, f.2)
    else none
  | [] => none

/-- A string of any of the four forms. -/
def string? (cs : List Char) : Found String :=
  if cs.take 3 = ['"', '"', '"'] then
    (spreadBasic .text (dropNewline (cs.drop 3))).map fun f => (String.ofList f.1, f.2)
  else if cs.take 3 = [apostrophe, apostrophe, apostrophe] then
    (spreadLiteral 0 (dropNewline (cs.drop 3))).map fun f => (String.ofList f.1, f.2)
  else lineString? cs

end MacAccess.Toml
