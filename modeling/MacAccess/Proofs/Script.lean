import MacAccess.Script

/-!
# Scripts, at once and step by step

A run of a script answers all its questions at once. Step by step, each question is an event, and
what is left of the script depends on that event alone. So a script can be followed by the events
that it was told, on whatever hosts its steps were taken.
-/

namespace MacAccess

namespace Script

/-! ## Runs -/

section Runs

variable {α β σ : Type} (ask : Host σ → Answer × Host σ) (c : Context) (h : Host σ)

theorem run_done (a : α) : (done a).run ask c h = (a, h) := rfl

theorem run_readClock (next : Timestamp → Script α) :
    (readClock next).run ask c h =
      (next (c.reading h)).run ask c { h with clockReads := h.clockReads + 1 } := rfl

theorem run_drawNonce (next : String → Script α) :
    (drawNonce next).run ask c h =
      (next (c.nextNonce h)).run ask c { h with nonceDraws := h.nonceDraws + 1 } := rfl

theorem run_askCredential (next : Answer → Script α) :
    (askCredential next).run ask c h = (next (ask h).1).run ask c (ask h).2 := rfl

theorem run_noted (n : Noted β) (next : β → Script α) :
    (noted n next).run ask c h = (next n.value).run ask c (h.note n.records) := rfl

/-- A function of the result is applied after the run. -/
theorem run_map (f : α → β) (s : Script α) :
    (s.map f).run ask c h = (f (s.run ask c h).1, (s.run ask c h).2) := by
  induction s generalizing h with
  | done a => rfl
  | askCredential next ih => exact ih (ask h).1 (ask h).2
  | readClock next ih => exact ih (c.readClock h).1 (c.readClock h).2
  | drawNonce next ih => exact ih (c.drawNonce h).1 (c.drawNonce h).2
  | note records next ih => exact ih (h.note records)

end Runs

/-! ## Steps -/

variable {α σ : Type}

/-- What happens at one step of a script. -/
inductive Event where
  | credential (answer : Answer)
  | reading (t : Timestamp)
  | nonce (text : String)
  | noted

def Event.answer? : Event → Option Answer
  | .credential answer => some answer
  | _ => none

def Event.reading? : Event → Option Timestamp
  | .reading t => some t
  | _ => none

def Event.nonce? : Event → Option String
  | .nonce text => some text
  | _ => none

/-- An event that is what the host has to give. -/
def Event.IsGivenBy (ask : Host σ → Answer × Host σ) (c : Context) (h : Host σ) : Event → Prop
  | .credential answer => (ask h).1 = answer
  | .reading t => c.reading h = t
  | .nonce text => c.nextNonce h = text
  | .noted => True

/-- What a script comes to at a step: its result, or an event with what is left of the script and
the host after it. -/
inductive Advance (α σ : Type) where
  | result (a : α)
  | passes (event : Event) (rest : Script α) (after : Host σ)

def step (ask : Host σ → Answer × Host σ) (c : Context) : Script α → Host σ → Advance α σ
  | done a, _ => .result a
  | askCredential next, h =>
    let (answer, h) := ask h
    .passes (.credential answer) (next answer) h
  | readClock next, h =>
    let (t, h) := c.readClock h
    .passes (.reading t) (next t) h
  | drawNonce next, h =>
    let (nonce, h) := c.drawNonce h
    .passes (.nonce nonce) (next nonce) h
  | note records next, h => .passes .noted next (h.note records)

/-- All that happens when a script is run without a break. -/
def transcript (ask : Host σ → Answer × Host σ) (c : Context) : Script α → Host σ → List Event
  | done _, _ => []
  | askCredential next, h =>
    let (answer, h) := ask h
    .credential answer :: (next answer).transcript ask c h
  | readClock next, h =>
    let (t, h) := c.readClock h
    .reading t :: (next t).transcript ask c h
  | drawNonce next, h =>
    let (nonce, h) := c.drawNonce h
    .nonce nonce :: (next nonce).transcript ask c h
  | note records next, h => .noted :: next.transcript ask c (h.note records)

section Transcripts

variable {β : Type} (ask : Host σ → Answer × Host σ) (c : Context) (h : Host σ)

theorem transcript_askCredential (next : Answer → Script α) :
    (askCredential next).transcript ask c h =
      .credential (ask h).1 :: (next (ask h).1).transcript ask c (ask h).2 := rfl

theorem transcript_readClock (next : Timestamp → Script α) :
    (readClock next).transcript ask c h =
      .reading (c.reading h) ::
        (next (c.reading h)).transcript ask c { h with clockReads := h.clockReads + 1 } := rfl

theorem transcript_drawNonce (next : String → Script α) :
    (drawNonce next).transcript ask c h =
      .nonce (c.nextNonce h) ::
        (next (c.nextNonce h)).transcript ask c { h with nonceDraws := h.nonceDraws + 1 } := rfl

theorem transcript_noted (n : Noted β) (next : β → Script α) :
    (noted n next).transcript ask c h =
      .noted :: (next n.value).transcript ask c (h.note n.records) := rfl

/-- What is done with the result is no event. -/
theorem transcript_map (f : α → β) (s : Script α) :
    (s.map f).transcript ask c h = s.transcript ask c h := by
  induction s generalizing h with
  | done a => rfl
  | askCredential next ih => exact congrArg (_ :: ·) (ih (ask h).1 (ask h).2)
  | readClock next ih => exact congrArg (_ :: ·) (ih (c.readClock h).1 (c.readClock h).2)
  | drawNonce next ih => exact congrArg (_ :: ·) (ih (c.drawNonce h).1 (c.drawNonce h).2)
  | note records next ih => exact congrArg (_ :: ·) (ih (h.note records))

end Transcripts

/-- What is left of a script after an event, if it is one that the script waits for. -/
def hear : Script α → Event → Option (Script α)
  | askCredential next, .credential answer => some (next answer)
  | readClock next, .reading t => some (next t)
  | drawNonce next, .nonce text => some (next text)
  | note _ next, .noted => some next
  | _, _ => none

/-- What is left of a script after some events. -/
def hearAll (s : Script α) (events : List Event) : Option (Script α) := events.foldlM hear s

section Step

variable {ask : Host σ → Answer × Host σ} {c : Context} {s rest : Script α} {h after : Host σ}
  {event : Event}

theorem eq_done_of_step {a : α} (hstep : s.step ask c h = .result a) : s = done a := by
  cases s with
  | done b => rw [Advance.result.inj hstep]
  | _ => exact nomatch hstep

theorem isGivenBy_of_step (hstep : s.step ask c h = .passes event rest after) :
    event.IsGivenBy ask c h := by
  cases s with
  | done a => exact nomatch hstep
  | askCredential next | readClock next | drawNonce next =>
      obtain ⟨rfl, -, -⟩ := Advance.passes.inj hstep
      exact rfl
  | note records next =>
      obtain ⟨rfl, -, -⟩ := Advance.passes.inj hstep
      exact trivial

/-- What is left of a script depends on the event alone, not on the host that it comes from. -/
theorem hear_of_step (hstep : s.step ask c h = .passes event rest after) :
    s.hear event = some rest := by
  cases s with
  | done a => exact nomatch hstep
  | askCredential next | readClock next | drawNonce next | note records next =>
      obtain ⟨rfl, rfl, -⟩ := Advance.passes.inj hstep
      rfl

/-- A run is a step and the run of what is left, -/
theorem run_of_step (hstep : s.step ask c h = .passes event rest after) :
    s.run ask c h = rest.run ask c after := by
  cases s with
  | done a => exact nomatch hstep
  | askCredential next | readClock next | drawNonce next | note records next =>
      obtain ⟨-, rfl, rfl⟩ := Advance.passes.inj hstep
      rfl

/-- and a transcript is the event of a step and the transcript of what is left. -/
theorem transcript_of_step (hstep : s.step ask c h = .passes event rest after) :
    s.transcript ask c h = event :: rest.transcript ask c after := by
  cases s with
  | done a => exact nomatch hstep
  | askCredential next | readClock next | drawNonce next | note records next =>
      obtain ⟨rfl, rfl, rfl⟩ := Advance.passes.inj hstep
      rfl

end Step

/-! ## Events -/

theorem hearAll_nil (s : Script α) : s.hearAll [] = some s := rfl

theorem hearAll_cons (s : Script α) (event : Event) (events : List Event) :
    s.hearAll (event :: events) = (s.hear event).bind (hearAll · events) := by
  unfold hearAll
  exact List.foldlM_cons

theorem hearAll_concat {s rest : Script α} {events : List Event} (hs : s.hearAll events = some rest)
    (event : Event) : s.hearAll (events ++ [event]) = rest.hear event := by
  unfold hearAll at hs ⊢
  rw [List.foldlM_append, hs]
  show (rest.hear event).bind some = _
  exact Option.bind_fun_some _

/-- **A script that has come to its result was told all that it asked for**, and nothing else. -/
theorem told_of_done {s : Script α} {events : List Event} {a : α}
    (h : s.hearAll events = some (done a)) :
    match s with
    | done b => events = [] ∧ b = a
    | askCredential next => ∃ answer rest, events = .credential answer :: rest ∧
        (next answer).hearAll rest = some (done a)
    | readClock next => ∃ t rest, events = .reading t :: rest ∧
        (next t).hearAll rest = some (done a)
    | drawNonce next => ∃ text rest, events = .nonce text :: rest ∧
        (next text).hearAll rest = some (done a)
    | note _ next => ∃ rest, events = .noted :: rest ∧ next.hearAll rest = some (done a) := by
  cases events with
  | nil =>
      obtain rfl : s = done a := Option.some.inj h
      exact ⟨rfl, rfl⟩
  | cons event rest =>
      rw [hearAll_cons] at h
      cases s with
      | done b => exact nomatch h
      | askCredential next =>
          cases event with
          | credential answer => exact ⟨answer, rest, rfl, h⟩
          | _ => exact nomatch h
      | readClock next =>
          cases event with
          | reading t => exact ⟨t, rest, rfl, h⟩
          | _ => exact nomatch h
      | drawNonce next =>
          cases event with
          | nonce text => exact ⟨text, rest, rfl, h⟩
          | _ => exact nomatch h
      | note records next =>
          cases event with
          | noted => exact ⟨rest, rfl, h⟩
          | _ => exact nomatch h

end Script

end MacAccess
