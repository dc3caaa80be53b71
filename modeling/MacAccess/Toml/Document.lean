import MacAccess.Toml.Key
import MacAccess.Toml.Scalar
import MacAccess.Toml.Table

/-!
# Reading a document

Values, then lines. A document is read line by line into a draft: the table being filled, where it
belongs, and all tables finished before it. Fuel bounds the recursion; it is set from the length of
the text, and every step but one in two uses up a character.
-/

namespace MacAccess.Toml

/-! ## Values -/

mutual

/-- A value. `depth` is how many arrays and inline tables may still open inside one another. -/
def value? : (fuel depth : Nat) → List Char → Found Value
  | 0, _, _ => none
  | fuel + 1, depth, cs =>
    match cs with
    | [] => none
    | c :: rest =>
      if c == '"' || c == apostrophe then (string? cs).map fun f => (.string f.1, f.2)
      else if c == '[' then
        match depth with
        | 0 => none
        | depth + 1 => (items? fuel depth rest).map fun f => (.array f.1, f.2)
      else if c == '{' then
        match depth with
        | 0 => none
        | depth + 1 =>
          match skipBlanks rest with
          | '}' :: rest => some (.table .inline [], rest)
          | rest => (pairs? fuel depth [] rest).map fun f => (.table .inline f.1, f.2)
      else if c == 't' || c == 'f' then boolean? cs
      else number? cs

/-- The items of an array from one of them on, up to the closing bracket. -/
def items? : (fuel depth : Nat) → List Char → Found (List Value)
  | 0, _, _ => none
  | fuel + 1, depth, cs =>
    match skipLayout false cs with
    | ']' :: rest => some ([], rest)
    | cs =>
      match value? fuel depth cs with
      | none => none
      | some (v, rest) =>
        match skipLayout false rest with
        | ',' :: rest => (items? fuel depth rest).map fun f => (v :: f.1, f.2)
        | ']' :: rest => some ([v], rest)
        | _ => none

/-- The entries of an inline table from one of them on, up to the closing brace, added to those
before it. -/
def pairs? : (fuel depth : Nat) → Entries → List Char → Found Entries
  | 0, _, _, _ => none
  | fuel + 1, depth, es, cs =>
    match key? cs with
    | some (key, '=' :: rest) =>
      match value? fuel depth (skipBlanks rest) with
      | none => none
      | some (v, rest) =>
        match bindKey key v es, skipBlanks rest with
        | some es, ',' :: rest => pairs? fuel depth es rest
        | some es, '}' :: rest => some (es, rest)
        | _, _ => none
    | _ => none

end

/-! ## Lines -/

/-- A document under way. -/
structure Draft where
  /-- All that was read before the table being filled. -/
  finished : Entries
  /-- Where the table being filled belongs, none for the document itself. -/
  place : Option (List String × String)
  /-- Whether it belongs at the end of an array of tables. -/
  inArray : Bool
  body : Entries

namespace Draft

def start : Draft := ⟨[], none, false, []⟩

/-- The document with the table being filled put where it belongs. -/
def finish (d : Draft) : Option Entries :=
  match d.place with
  | none => some d.body
  | some (path, key) =>
    if d.inArray then addToArray path key d.body d.finished
    else putBack path key d.body d.finished

/-- The path and the last part of a key. -/
def split? (key : List String) : Option (List String × String) :=
  key.getLast?.map fun last => (key.dropLast, last)

/-- The draft after a header in single brackets. -/
def openTable (d : Draft) (header : List String) : Option Draft := do
  let es ← d.finish
  let (path, key) ← split? header
  let (body, es) ← takeOut path key es
  return ⟨es, some (path, key), false, body⟩

/-- The draft after a header in double brackets. -/
def openArray (d : Draft) (header : List String) : Option Draft := do
  let es ← d.finish
  let (path, key) ← split? header
  let es ← prepareArray path key es
  return ⟨es, some (path, key), true, []⟩

/-- The draft with one more key in the table being filled. -/
def add (d : Draft) (key : List String) (v : Value) : Option Draft :=
  (bindKey key v d.body).map fun body => { d with body }

end Draft

/-- A header in double brackets, from after the opening ones to the end of its line. -/
def arrayHeader? (d : Draft) (cs : List Char) : Option (Draft × List Char) := do
  let (key, rest) ← key? cs
  let rest ← word? "]]" rest
  return (← d.openArray key, ← lineEnd? rest)

/-- A header in single brackets, from after the opening one to the end of its line. -/
def tableHeader? (d : Draft) (cs : List Char) : Option (Draft × List Char) := do
  let (key, rest) ← key? cs
  let rest ← word? "]" rest
  return (← d.openTable key, ← lineEnd? rest)

/-- A key with its value, to the end of the line. -/
def binding? (d : Draft) (cs : List Char) : Option (Draft × List Char) := do
  let (key, rest) ← key? cs
  let rest ← word? "=" rest
  let (v, rest) ← value? (2 * rest.length + 2) nestingLimit (skipBlanks rest)
  return (← d.add key v, ← lineEnd? rest)

/-- One line with something on it. -/
def line? (d : Draft) : List Char → Found Draft
  | '#' :: cs => (lineEnd? ('#' :: cs)).map (d, ·)
  | '[' :: '[' :: cs => arrayHeader? d cs
  | '[' :: cs => tableHeader? d cs
  | cs => binding? d cs

/-- The draft after all lines. -/
def lines : (fuel : Nat) → Draft → List Char → Option Draft
  | 0, _, _ => none
  | fuel + 1, d, cs =>
    match skipBlanks cs with
    | [] => some d
    | '\n' :: rest => lines fuel d rest
    | cs =>
      match line? d cs with
      | none => none
      | some (d, rest) => lines fuel d rest

/-- The text without a byte order mark at its start. -/
def dropMark (cs : List Char) : List Char :=
  match cs with
  | [] => []
  | c :: rest => if c.toNat == 0xFEFF then rest else cs

/-- The entries of a TOML document, unless its text is malformed. -/
def parse? (text : String) : Option Entries := do
  let cs := normalizeNewlines (dropMark text.toList)
  let d ← lines (cs.length + 1) .start cs
  d.finish

end MacAccess.Toml
