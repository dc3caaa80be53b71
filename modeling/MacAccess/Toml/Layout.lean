/-!
# Blanks and comments

The lowest layer of TOML. A reader takes the characters still to be read and answers what it found
with the characters after it, or nothing where the text breaks the grammar. Line ends have been
brought to the single newline character beforehand, so a carriage return is just another control
character here.
-/

namespace MacAccess.Toml

/-- The answer of a reader: what it found and the rest of the text. -/
abbrev Found (α : Type) := Option (α × List Char)

/-- The text with each carriage return that precedes a newline taken out. -/
def normalizeNewlines : List Char → List Char
  | [] => []
  | c :: cs =>
    match c, cs with
    | '\r', '\n' :: _ => normalizeNewlines cs
    | _, _ => c :: normalizeNewlines cs

def isBlank (c : Char) : Bool := c == ' ' || c == '\t'

/-- Whether a character may stand in a comment: any but the controls, of which only the tab is
allowed. -/
def isTextChar (c : Char) : Bool := c == '\t' || (0x20 ≤ c.toNat && c.toNat != 0x7F)

def skipBlanks (cs : List Char) : List Char := cs.dropWhile isBlank

/-- What follows the comment at the start of the text, if one starts there. -/
def skipComment : List Char → List Char
  | '#' :: cs => cs.dropWhile isTextChar
  | cs => cs

/-- The rest after blanks, a comment, and the end of the line or of the text. -/
def lineEnd? (cs : List Char) : Option (List Char) :=
  match skipComment (skipBlanks cs) with
  | [] => some []
  | '\n' :: rest => some rest
  | _ => none

/-- The rest after any run of blanks, newlines and comments. The flag tells that a comment is being
skipped. -/
def skipLayout (inComment : Bool) : List Char → List Char
  | [] => []
  | c :: cs =>
    if inComment && isTextChar c then skipLayout true cs
    else if isBlank c || c == '\n' then skipLayout false cs
    else if c == '#' then skipLayout true cs
    else c :: cs

end MacAccess.Toml
