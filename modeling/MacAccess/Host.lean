import MacAccess.Bytes
import MacAccess.Journal

/-!
# Hosts

The outside at one moment: variables, files, the readings of time and randomness with how many of
them are used up, the state of foreign parties, and the journal. Operations take a host and give
back the one after them.
-/

namespace MacAccess

/-- Seconds since the Unix epoch. -/
abbrev Timestamp := Int64

/-- The greatest timestamp, as a number. -/
def lastTimestamp : Nat := 9223372036854775807

/-- The outside at one moment. The type `σ` is the state of foreign credential providers. -/
structure Host (σ : Type) where
  vars : List (String × Bytes)
  /-- The home directory that the system knows of the user, apart from all variables. -/
  userHome : Option Bytes := none
  files : List (String × Bytes)
  /-- What the system clock shows at each reading. -/
  time : Nat → Timestamp
  /-- What a draw of so many random octets yields, for each draw. -/
  entropy : Nat → Nat → Bytes
  /-- How many times a clock has been read. -/
  clockReads : Nat
  /-- How many nonces have been drawn. -/
  nonceDraws : Nat
  foreign : σ
  journal : List Record

namespace Host

variable {σ : Type}

/-- The host with records added at the end of its journal. -/
def note (h : Host σ) (records : List Record) : Host σ :=
  { h with journal := h.journal ++ records }

def setVariable (h : Host σ) (name : String) (value : Bytes) : Host σ :=
  { h with vars := (name, value) :: h.vars.filter fun v => v.1 != name }

def unsetVariable (h : Host σ) (name : String) : Host σ :=
  { h with vars := h.vars.filter fun v => v.1 != name }

def writeFile (h : Host σ) (path : String) (content : Bytes) : Host σ :=
  { h with files := (path, content) :: h.files.filter fun f => f.1 != path }

def removeFile (h : Host σ) (path : String) : Host σ :=
  { h with files := h.files.filter fun f => f.1 != path }

end Host

end MacAccess
