/-!
# Redacted text

Secrets and identities are shown in a shortened form. Lengths count characters, so a character
outside ASCII is never cut in two.
-/

namespace MacAccess.Text

/-- The shown form of a sensitive text: `EMPTY` for the empty text, `***` below twelve characters,
and otherwise the first and the last three characters around `***`. -/
def redacted (s : String) : String :=
  match s.toList with
  | [] => "EMPTY"
  | cs =>
    if cs.length < 12 then "***"
    else String.ofList (cs.take 3 ++ ['*', '*', '*'] ++ cs.drop (cs.length - 3))

end MacAccess.Text
