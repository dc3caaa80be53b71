/-!
# Journal records

What an operation notes down while it runs, for people who look into a failure later. No record
holds a secret in full.
-/

namespace MacAccess

inductive Level where
  | debug
  | warn
  deriving DecidableEq

def Level.name : Level → String
  | .debug => "DEBUG"
  | .warn => "WARN"

structure Record where
  level : Level
  message : String
  deriving DecidableEq

def Record.debug (message : String) : Record := ⟨.debug, message⟩

def Record.warn (message : String) : Record := ⟨.warn, message⟩

/-- A result with the records noted on the way to it. -/
structure Noted (α : Type) where
  value : α
  records : List Record

namespace Noted

/-- A result without records. -/
def silently {α : Type} (value : α) : Noted α := ⟨value, []⟩

def map {α β : Type} (f : α → β) (n : Noted α) : Noted β := ⟨f n.value, n.records⟩

end Noted

end MacAccess
