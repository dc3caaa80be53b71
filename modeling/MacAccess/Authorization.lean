import MacAccess.Context

/-!
# MAC authorizations

The value of the `Authorization` header in HTTP MAC access authentication: the scheme, then four
quoted fields in a fixed order. Quotes are not escaped, so a field holds no quote. Reading accepts
exactly this form; only the timestamp may be written with leading zeros.
-/

namespace MacAccess

structure Authorization where
  id : String
  timestamp : Timestamp
  nonce : String
  mac : String
  deriving DecidableEq

namespace Authorization

/-- The name of the authentication scheme. -/
def scheme : String := "MAC"

/-- A field name with its quoted value. -/
def field (name value : String) : String := name ++ "=\"" ++ value ++ "\""

/-- The header value. -/
def render (a : Authorization) : String :=
  scheme ++ " " ++ field "id" a.id ++ ", " ++ field "ts" (toString a.timestamp.toInt) ++ ", " ++
    field "nonce" a.nonce ++ ", " ++ field "mac" a.mac

def outline (a : Authorization) : String :=
  Outline.record "MacAuthorization" [
    ("id", Text.quoted a.id), ("ts", toString a.timestamp.toInt), ("nonce", Text.quoted a.nonce),
    ("mac", Text.quoted a.mac)]

/-! ## Flaws -/

inductive Flaw where
  | missingScheme
  | missingSeparator
  | missingField (name : String)
  | unterminatedField (name : String)
  | trailingData
  | timestampNotDecimal
  | timestampOutOfRange
  deriving DecidableEq

def Flaw.reason : Flaw → String
  | .missingScheme => "missing MAC scheme"
  | .missingSeparator => "fields must be separated by \", \""
  | .missingField name => "expect field `" ++ name ++ "`"
  | .unterminatedField name => "unterminated field `" ++ name ++ "`"
  | .trailingData => "unexpected trailing data"
  | .timestampNotDecimal => "`ts` must be decimal seconds"
  | .timestampOutOfRange => "`ts` out of range"

def Flaw.causes : Flaw → List Cause
  | .timestampOutOfRange => [.note "number too large to fit in target type"]
  | _ => []

def Flaw.failure (flaw : Flaw) : Failure :=
  { Failure.requestInvalid ("malformed MAC authorization header: " ++ flaw.reason) with
    causes := flaw.causes }

/-! ## Reading -/

/-- What follows a text at the start of the characters. -/
def after? (text : String) (cs : List Char) : Option (List Char) :=
  if text.toList.isPrefixOf cs then some (cs.drop text.length) else none

/-- The value of a field at the start of the characters, and what follows the field. -/
def readField (name : String) (cs : List Char) : Except Flaw (List Char × List Char) :=
  match after? (name ++ "=\"") cs with
  | none => .error (.missingField name)
  | some value =>
    match value.dropWhile (· != '"') with
    | [] => .error (.unterminatedField name)
    | _ :: rest => .ok (value.takeWhile (· != '"'), rest)

/-- The same for a field that others stand before. -/
def readNextField (name : String) (cs : List Char) : Except Flaw (List Char × List Char) :=
  match after? ", " cs with
  | none => .error .missingSeparator
  | some rest => readField name rest

/-- The timestamp that digits denote. -/
def readTimestamp (cs : List Char) : Except Flaw Timestamp :=
  if cs = [] ∨ ¬ cs.all Char.isDigit then .error .timestampNotDecimal
  else
    let n := Nat.ofDigitChars 10 cs 0
    if n ≤ lastTimestamp then .ok (Int64.ofNat n) else .error .timestampOutOfRange

/-- The four fields of a header value, as they are spelt. -/
def readFields (text : String) :
    Except Flaw (List Char × List Char × List Char × List Char) := do
  let some cs := after? (scheme ++ " ") text.toList | .error .missingScheme
  let (id, cs) ← readField "id" cs
  let (ts, cs) ← readNextField "ts" cs
  let (nonce, cs) ← readNextField "nonce" cs
  let (mac, cs) ← readNextField "mac" cs
  match cs with
  | [] => return (id, ts, nonce, mac)
  | _ :: _ => .error .trailingData

/-- The authorization that a header value spells. -/
def parse (text : String) : Except Flaw Authorization := do
  let (id, ts, nonce, mac) ← readFields text
  let timestamp ← readTimestamp ts
  return ⟨String.ofList id, timestamp, String.ofList nonce, String.ofList mac⟩

/-- The same with a failure for every flaw. -/
def read (text : String) : Except Failure Authorization := (parse text).mapError Flaw.failure

end Authorization

end MacAccess
