import MacAccess.Context
import MacAccess.Credential

/-!
# Scripts

A script is an operation laid out as the questions that it puts to its surroundings: which
credential to use, what time it is, which nonce to take. Between two questions nothing from outside
can reach it. Running a script on a host answers the questions in their order.
-/

namespace MacAccess

/-- What a credential provider answers. -/
abbrev Answer := Except Failure (Option Credential)

inductive Script (α : Type) where
  | done (result : α)
  | askCredential (next : Answer → Script α)
  | readClock (next : Timestamp → Script α)
  | drawNonce (next : String → Script α)
  | note (records : List Record) (next : Script α)

namespace Script

variable {α β σ : Type}

/-- The script with a function applied to its result. -/
def map (f : α → β) : Script α → Script β
  | done a => done (f a)
  | askCredential next => askCredential fun answer => (next answer).map f
  | readClock next => readClock fun t => (next t).map f
  | drawNonce next => drawNonce fun nonce => (next nonce).map f
  | note records next => note records (next.map f)

/-- A script that notes what a result was reached with and goes on from the result. -/
def noted (n : Noted α) (next : α → Script β) : Script β := note n.records (next n.value)

/-- The result of a script and the host after it. -/
def run (ask : Host σ → Answer × Host σ) (c : Context) : Script α → Host σ → α × Host σ
  | done a, h => (a, h)
  | askCredential next, h =>
    let (answer, h) := ask h
    (next answer).run ask c h
  | readClock next, h =>
    let (t, h) := c.readClock h
    (next t).run ask c h
  | drawNonce next, h =>
    let (nonce, h) := c.drawNonce h
    (next nonce).run ask c h
  | note records next, h => next.run ask c (h.note records)

end Script

end MacAccess
