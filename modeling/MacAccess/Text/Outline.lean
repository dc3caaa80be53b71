/-!
# Outlines of values

One-line renderings of structured values for logs and diagnostics: a name with its fields, a name
with one argument, an optional value, a list, a map.
-/

namespace MacAccess.Outline

/-- A named value with named fields. Without fields it is the bare name. -/
def record (name : String) (fields : List (String × String)) : String :=
  match fields with
  | [] => name
  | _ => name ++ " \x7b " ++ ", ".intercalate (fields.map fun f => f.1 ++ ": " ++ f.2) ++ " \x7d"

/-- A name applied to one argument. -/
def applied (name argument : String) : String := name ++ "(" ++ argument ++ ")"

def optional : Option String → String
  | none => "None"
  | some v => applied "Some" v

def listing (items : List String) : String := "[" ++ ", ".intercalate items ++ "]"

def mapping (entries : List (String × String)) : String :=
  "\x7b" ++ ", ".intercalate (entries.map fun e => e.1 ++ ": " ++ e.2) ++ "\x7d"

end MacAccess.Outline
