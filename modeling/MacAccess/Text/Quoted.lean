import MacAccess.Text.Unprintable
import MacAccess.Text.Utf8

/-!
# Quoted text

Text between double quotes on one line, for logs and diagnostics. A quote, a backslash and the
usual controls take a short escape, any other unprintable character is written by its code point in
hexadecimal, and every remaining character stands for itself. A file path may hold octets that are
no text; these are written one by one.
-/

namespace MacAccess.Text

/-- Digits of a number in base sixteen, lower case, without leading zeros. -/
def hexDigits (n : Nat) : List Char := Nat.toDigits 16 n

/-- The escape of a character whose code point is written out. -/
def codePointEscape (c : Char) : List Char :=
  ['\\', 'u', '\x7b'] ++ hexDigits c.toNat ++ ['\x7d']

/-- How a character appears between quotes. -/
def escaped (c : Char) : List Char :=
  if c == '\\' || c == '"' then ['\\', c]
  else if 0x20 ≤ c.toNat && c.toNat ≤ 0x7E then [c]
  else if c == '\n' then ['\\', 'n']
  else if c == '\t' then ['\\', 't']
  else if c == '\r' then ['\\', 'r']
  else if c == '\x00' then ['\\', '0']
  else if isUnprintable c then codePointEscape c
  else [c]

/-- The quoted form of a text. -/
def quoted (s : String) : String :=
  String.ofList ('"' :: s.toList.flatMap escaped ++ ['"'])

/-- How an octet that belongs to no character appears between quotes. -/
def octetEscape (b : UInt8) : List Char :=
  ['\\', 'x'] ++ [Nat.digitChar (b.toNat / 16), Nat.digitChar (b.toNat % 16)].map Char.toUpper

/-- The quoted form of a file path: that of its text, with stray octets one by one. -/
def quotedPath (path : Bytes) : String :=
  String.ofList ('"' :: (Utf8.pieces path).flatMap piece ++ ['"'])
where
  piece : Utf8.Piece → List Char
    | .scalar c => escaped c
    | .malformed octets => octets.flatMap octetEscape

end MacAccess.Text
