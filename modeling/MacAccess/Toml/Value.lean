/-!
# TOML values

The data model of a TOML 1.0 document. A table keeps its entries in the order of their keys' first
mention and remembers how it came to be, because that decides what may still be added to it.
Floats are kept as the decimal numbers they are written as, dates and times by their spelling.
-/

namespace MacAccess.Toml

/-- How a table came to be. -/
inductive Origin where
  /-- Written between braces; nothing can be added later. -/
  | inline
  /-- Opened by a header of its own, or the document itself. -/
  | header
  /-- Named only as a parent in some header. -/
  | implied
  /-- Named only as a parent in some dotted key. -/
  | dotted
  deriving DecidableEq

inductive FloatValue where
  /-- The number `mantissa · 10^exponent`, negated if so marked. -/
  | finite (negative : Bool) (mantissa : Nat) (exponent : Int)
  | infinite (negative : Bool)
  | notANumber

inductive Value where
  | string (text : String)
  | integer (n : Int)
  | float (x : FloatValue)
  | boolean (b : Bool)
  | datetime (spelling : String)
  /-- An array written between brackets. -/
  | array (items : List Value)
  /-- An array whose tables are opened one by one by headers in double brackets. -/
  | tables (items : List Value)
  | table (origin : Origin) (entries : List (String × Value))

/-- Keys with their values. -/
abbrev Entries := List (String × Value)

namespace Entries

def has (es : Entries) (key : String) : Bool := es.any fun e => e.1 == key

/-- The entries with a key bound to a value, in its old place if it has one. -/
def set (es : Entries) (key : String) (v : Value) : Entries :=
  if es.has key then es.map fun e => if e.1 == key then (key, v) else e
  else es ++ [(key, v)]

def erase (es : Entries) (key : String) : Entries := es.filter fun e => e.1 != key

end Entries

end MacAccess.Toml
