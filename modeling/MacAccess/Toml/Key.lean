import MacAccess.Toml.Text

/-!
# Keys

A key is a path of parts. A part is a bare word or a string on one line, and dots, with blanks
around them, separate the parts.
-/

namespace MacAccess.Toml

def isBareKeyChar (c : Char) : Bool := c.isAlphanum || c == '_' || c == '-'

/-- One part of a key: a bare word or a string on one line. -/
def keyPart? (cs : List Char) : Found String :=
  match cs.takeWhile isBareKeyChar with
  | [] => lineString? cs
  | word => some (String.ofList word, cs.drop word.length)

/-- A key with its parts, which dots and blanks separate. A key has no more parts than fuel. -/
def keyParts? : (fuel : Nat) → List Char → Option (List String × List Char)
  | 0, _ => none
  | fuel + 1, cs => do
    let (part, rest) ← keyPart? (skipBlanks cs)
    match skipBlanks rest with
    | '.' :: more =>
      let (parts, rest) ← keyParts? fuel more
      return (part :: parts, rest)
    | rest => return ([part], rest)

/-- The greatest number of parts of a key, and of arrays and inline tables inside one another. -/
def nestingLimit : Nat := 79

def key? (cs : List Char) : Found (List String) := keyParts? nestingLimit cs

end MacAccess.Toml
