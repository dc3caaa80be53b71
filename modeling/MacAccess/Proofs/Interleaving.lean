import Mathlib.Data.List.Induction
import Mathlib.Data.List.Pairwise
import Mathlib.Logic.Function.Basic
import MacAccess.Proofs.Script
import MacAccess.Proofs.Signer
import MacAccess.Proofs.Verification

/-!
# Signing side by side

Calls of one signer run side by side, each on a request of its own. They share the host, and with
it the provider, the clock and the source of nonces. Whose turn it is, and what happens outside
before the next one, is up to a schedule: between any two questions of a call the others may have
their turns, and a credential may be replaced.

What a call has been told decides what it does next, whoever had a turn in between. So it ends
where signing alone would have ended, had it been told the same. In particular nothing that was told
to one call gets into the request of another.
-/

namespace MacAccess

/-! ## What a signing was told -/

namespace Signing

variable {r : Http.Request} {outcome : Outcome} {events : List Script.Event}

/-- Signing with a given credential asks for the time and a nonce only, -/
theorem told_of_signed {credential? : Option Credential}
    (h : (sign r credential?).hearAll events = some (.done outcome))
    (hok : outcome.verdict = .ok ()) :
    ∃ t nonce, events = [.reading t, .nonce nonce, .noted] ∧
      outcome = (⟨r, credential?, t, nonce⟩ : Attempt).outcome := by
  unfold sign at h
  cases hprepare : prepare r credential? with
  | error f =>
      rw [hprepare] at h
      obtain ⟨-, rfl⟩ := Script.told_of_done h
      exact nomatch hok
  | ok prepared =>
      rw [hprepare] at h
      obtain ⟨t, afterClock, rfl, hread⟩ := Script.told_of_done h
      dsimp only at hread
      split_ifs at hread with hclock
      · obtain ⟨-, rfl⟩ := Script.told_of_done hread
        exact nomatch hok
      · obtain ⟨nonce, afterNonce, rfl, hdrawn⟩ := Script.told_of_done hread
        obtain ⟨afterNote, rfl, hnoted⟩ := Script.told_of_done hdrawn
        cases htext : (prepared.2.signedText t nonce).value with
        | error f =>
            rw [htext] at hnoted
            obtain ⟨-, rfl⟩ := Script.told_of_done hnoted
            exact nomatch hok
        | ok text =>
            rw [htext] at hnoted
            obtain ⟨rfl, rfl⟩ := Script.told_of_done hnoted
            refine ⟨t, nonce, rfl, ?_⟩
            simp only [Attempt.outcome, hprepare, if_neg hclock, htext]

end Signing

/-- and a signer asks for the credential before. -/
theorem Signer.told_of_signed {r : Http.Request} {outcome : Outcome} {events : List Script.Event}
    (h : (Signer.sign r).hearAll events = some (.done outcome)) (hok : outcome.verdict = .ok ()) :
    ∃ c t nonce, events = [.credential (.ok (some c)), .reading t, .nonce nonce, .noted] ∧
      outcome = (⟨r, some c, t, nonce⟩ : Signing.Attempt).outcome := by
  unfold Signer.sign at h
  obtain ⟨answer, afterAnswer, rfl, hanswered⟩ := Script.told_of_done h
  rcases answer with f | (_ | c)
  · obtain ⟨-, rfl⟩ := Script.told_of_done hanswered
    exact nomatch hok
  · obtain ⟨-, rfl⟩ := Script.told_of_done hanswered
    exact nomatch hok
  · obtain ⟨t, nonce, rfl, hattempt⟩ := Signing.told_of_signed hanswered hok
    exact ⟨c, t, nonce, rfl, hattempt⟩

/-! ## Calls side by side -/

/-- How far a call has come. -/
inductive Stage where
  | running (rest : Script Outcome)
  | finished (verdict : Except Failure Unit)

/-- A call of the signer with the request that it signs in place. -/
structure Call where
  request : Http.Request
  stage : Stage

/-- Calls on one host, and what has happened to which of them, in this order. -/
structure Pool (ι σ : Type) where
  host : Host σ
  calls : ι → Call
  log : List (ι × Script.Event)

/-- Either a call has its turn or the outside has, which may change the host in any way. -/
inductive Turn (ι σ : Type) where
  | call (i : ι)
  | outside (change : Host σ → Host σ)

/-- A call that is where some events lead the signing of a request. -/
inductive Call.Follows (r : Http.Request) (events : List Script.Event) : Call → Prop
  | running {rest : Script Outcome} (h : (Signer.sign r).hearAll events = some rest) :
      Follows r events ⟨r, .running rest⟩
  | finished {outcome : Outcome} (h : (Signer.sign r).hearAll events = some (.done outcome)) :
      Follows r events ⟨outcome.request, .finished outcome.verdict⟩

namespace Pool

variable {ι σ : Type}

/-- Calls of which none has had a turn. -/
def start (h : Host σ) (requests : ι → Http.Request) : Pool ι σ :=
  ⟨h, fun i => ⟨requests i, .running (Signer.sign (requests i))⟩, []⟩

/-- What has happened to a call. -/
def eventsOf [DecidableEq ι] (P : Pool ι σ) (i : ι) : List Script.Event :=
  P.log.filterMap fun entry => if entry.1 = i then some entry.2 else none

/-- The nonces that were drawn, by any of the calls and whatever became of it. -/
def drawn (P : Pool ι σ) : List String := P.log.filterMap fun entry => entry.2.nonce?

section Turns

variable [DecidableEq ι]

/-- The calls after an event that happened to one of them. -/
def passed (P : Pool ι σ) (i : ι) (event : Script.Event) (rest : Script Outcome)
    (after : Host σ) : Pool ι σ :=
  ⟨after, Function.update P.calls i ⟨(P.calls i).request, .running rest⟩, P.log ++ [(i, event)]⟩

/-- The calls after one of them has put its outcome in the place of its request. -/
def ended (P : Pool ι σ) (i : ι) (outcome : Outcome) : Pool ι σ :=
  { P with calls := Function.update P.calls i ⟨outcome.request, .finished outcome.verdict⟩ }

variable (ask : Host σ → Answer × Host σ) (context : Context)

/-- One turn: a step of a call, or a change of the host. -/
def turn (P : Pool ι σ) : Turn ι σ → Pool ι σ
  | .outside change => { P with host := change P.host }
  | .call i =>
    match (P.calls i).stage with
    | .finished _ => P
    | .running script =>
      match script.step ask context P.host with
      | .result outcome => P.ended i outcome
      | .passes event rest after => P.passed i event rest after

def turns (P : Pool ι σ) (schedule : List (Turn ι σ)) : Pool ι σ :=
  schedule.foldl (turn ask context) P

theorem turns_cons (P : Pool ι σ) (t : Turn ι σ) (schedule : List (Turn ι σ)) :
    P.turns ask context (t :: schedule) = (P.turn ask context t).turns ask context schedule := rfl

theorem turns_append (P : Pool ι σ) (before after : List (Turn ι σ)) :
    P.turns ask context (before ++ after) =
      (P.turns ask context before).turns ask context after :=
  List.foldl_append

/-! ### What a turn changes -/

variable {ask context} {P : Pool ι σ} {i j : ι}

theorem calls_passed_self (event : Script.Event) (rest : Script Outcome) (after : Host σ) :
    (P.passed i event rest after).calls i = ⟨(P.calls i).request, .running rest⟩ :=
  Function.update_self ..

theorem calls_passed_of_ne (hj : i ≠ j) (event : Script.Event) (rest : Script Outcome)
    (after : Host σ) : (P.passed i event rest after).calls j = P.calls j :=
  Function.update_of_ne hj.symm ..

theorem eventsOf_passed_self (event : Script.Event) (rest : Script Outcome) (after : Host σ) :
    (P.passed i event rest after).eventsOf i = P.eventsOf i ++ [event] := by
  simp [eventsOf, passed]

theorem eventsOf_passed_of_ne (hj : i ≠ j) (event : Script.Event) (rest : Script Outcome)
    (after : Host σ) : (P.passed i event rest after).eventsOf j = P.eventsOf j := by
  simp [eventsOf, passed, hj]

theorem calls_ended_self (outcome : Outcome) :
    (P.ended i outcome).calls i = ⟨outcome.request, .finished outcome.verdict⟩ :=
  Function.update_self ..

theorem calls_ended_of_ne (hj : i ≠ j) (outcome : Outcome) :
    (P.ended i outcome).calls j = P.calls j :=
  Function.update_of_ne hj.symm ..

theorem eventsOf_ended (outcome : Outcome) : (P.ended i outcome).eventsOf j = P.eventsOf j := rfl

theorem turn_of_passes {script rest : Script Outcome} {event : Script.Event} {after : Host σ}
    (hi : (P.calls i).stage = .running script)
    (hstep : script.step ask context P.host = .passes event rest after) :
    P.turn ask context (.call i) = P.passed i event rest after := by
  simp only [turn, hi, hstep]

theorem turn_of_result {script : Script Outcome} {outcome : Outcome}
    (hi : (P.calls i).stage = .running script)
    (hstep : script.step ask context P.host = .result outcome) :
    P.turn ask context (.call i) = P.ended i outcome := by
  simp only [turn, hi, hstep]

theorem turn_of_finished {verdict : Except Failure Unit}
    (hi : (P.calls i).stage = .finished verdict) : P.turn ask context (.call i) = P := by
  simp only [turn, hi]

/-! ### Where a call gets -/

variable {requests : ι → Http.Request}

/-- Every call is where its own events lead the signing of its own request. -/
def IsLed (requests : ι → Http.Request) (P : Pool ι σ) : Prop :=
  ∀ i, Call.Follows (requests i) (P.eventsOf i) (P.calls i)

theorem isLed_start (h : Host σ) (requests : ι → Http.Request) :
    (start h requests).IsLed requests :=
  fun _ => .running (Script.hearAll_nil _)

/-- An event leads the call to which it happens, and no other. -/
theorem IsLed.passed (hP : P.IsLed requests) {script rest : Script Outcome} {event : Script.Event}
    (after : Host σ) (hled : (Signer.sign (requests i)).hearAll (P.eventsOf i) = some script)
    (hrequest : (P.calls i).request = requests i) (hhear : script.hear event = some rest) :
    (P.passed i event rest after).IsLed requests := by
  intro j
  by_cases hj : i = j
  · subst hj
    rw [calls_passed_self, eventsOf_passed_self, hrequest]
    refine .running ?_
    rw [Script.hearAll_concat hled, hhear]
  · rw [calls_passed_of_ne hj, eventsOf_passed_of_ne hj]
    exact hP j

theorem IsLed.ended (hP : P.IsLed requests) {outcome : Outcome}
    (hled : (Signer.sign (requests i)).hearAll (P.eventsOf i) = some (.done outcome)) :
    (P.ended i outcome).IsLed requests := by
  intro j
  rw [eventsOf_ended]
  by_cases hj : i = j
  · subst hj
    rw [calls_ended_self]
    exact .finished hled
  · rw [calls_ended_of_ne hj]
    exact hP j

/-- A turn leaves every call where its events lead, -/
theorem IsLed.turn (hP : P.IsLed requests) (t : Turn ι σ) :
    (P.turn ask context t).IsLed requests := by
  cases t with
  | outside change => exact hP
  | call i =>
      have hi := hP i
      cases hcall : P.calls i with
      | mk request stage =>
          rw [hcall] at hi
          have hstage : (P.calls i).stage = stage := by rw [hcall]
          cases hi with
          | finished _ =>
              rw [turn_of_finished hstage]
              exact hP
          | @running script hled =>
              cases hstep : script.step ask context P.host with
              | result outcome =>
                  rw [turn_of_result hstage hstep]
                  rw [Script.eq_done_of_step hstep] at hled
                  exact hP.ended hled
              | passes event rest after =>
                  rw [turn_of_passes hstage hstep]
                  exact hP.passed after hled (by rw [hcall]) (Script.hear_of_step hstep)

/-- and so does every schedule. -/
theorem IsLed.turns (hP : P.IsLed requests) (schedule : List (Turn ι σ)) :
    (P.turns ask context schedule).IsLed requests := by
  induction schedule generalizing P with
  | nil => exact hP
  | cons t schedule ih => exact ih (hP.turn t)

/-- The request of a call that ends well is what an attempt comes to, which is made of the request
that the call was given and of all that has happened to it. -/
theorem IsLed.exists_accepted (hP : P.IsLed requests)
    (hok : (P.calls i).stage = .finished (.ok ())) :
    ∃ (attempt : Signing.Attempt) (c : Credential) (canonical : CanonicalRequest),
      attempt.Accepted c canonical ∧ attempt.request = requests i ∧
      P.eventsOf i =
        [.credential (.ok (some c)), .reading attempt.timestamp, .nonce attempt.nonce, .noted] ∧
      (P.calls i).request = attempt.outcome.request := by
  have hi := hP i
  cases hcall : P.calls i with
  | mk request stage =>
      rw [hcall] at hi hok
      cases hi with
      | running _ => exact nomatch hok
      | @finished outcome hled =>
          have hverdict : outcome.verdict = .ok () := Stage.finished.inj hok
          obtain ⟨c, t, nonce, hevents, rfl⟩ := Signer.told_of_signed hled hverdict
          obtain ⟨c', canonical, haccepted⟩ := Signing.Attempt.accepted_of_ok hverdict
          have hcredential : some c = some c' := haccepted.credential
          obtain rfl : c = c' := Option.some.inj hcredential
          exact ⟨_, c, canonical, haccepted, rfl, hevents, rfl⟩

/-! ### Where events come from -/

theorem mem_log_of_mem_eventsOf {event : Script.Event} (h : event ∈ P.eventsOf i) :
    (i, event) ∈ P.log := by
  obtain ⟨⟨j, event'⟩, hmem, hentry⟩ := List.mem_filterMap.mp h
  split_ifs at hentry with hj
  rw [← hj, ← Option.some.inj hentry]
  exact hmem

/-- What happens to a call happens at its own turn, and the host gives it. -/
theorem mem_log_turn {t : Turn ι σ} {event : Script.Event}
    (h : (i, event) ∈ (P.turn ask context t).log) :
    (i, event) ∈ P.log ∨ t = .call i ∧ event.IsGivenBy ask context P.host := by
  cases t with
  | outside change => exact Or.inl h
  | call j =>
      cases hstage : (P.calls j).stage with
      | finished verdict =>
          rw [turn_of_finished hstage] at h
          exact Or.inl h
      | running script =>
          cases hstep : script.step ask context P.host with
          | result outcome =>
              rw [turn_of_result hstage hstep] at h
              exact Or.inl h
          | passes event' rest after =>
              rw [turn_of_passes hstage hstep] at h
              rcases List.mem_append.mp h with hbefore | hnew
              · exact Or.inl hbefore
              · obtain ⟨rfl, rfl⟩ := Prod.mk.inj (List.mem_singleton.mp hnew)
                exact Or.inr ⟨rfl, Script.isGivenBy_of_step hstep⟩

/-- **All that happens to a call is given by the host as it was at a turn of this call.** -/
theorem exists_turn_of_mem_log (P : Pool ι σ) (hP : P.log = []) {schedule : List (Turn ι σ)}
    {event : Script.Event} (h : (i, event) ∈ (P.turns ask context schedule).log) :
    ∃ before after, schedule = before ++ .call i :: after ∧
      event.IsGivenBy ask context (P.turns ask context before).host := by
  induction schedule using List.reverseRecOn with
  | nil =>
      have hnone : (i, event) ∈ P.log := h
      rw [hP] at hnone
      exact absurd hnone List.not_mem_nil
  | append_singleton schedule t ih =>
      rw [turns_append] at h
      rcases mem_log_turn h with hbefore | ⟨rfl, hgiven⟩
      · obtain ⟨before, after, rfl, hgiven⟩ := ih hbefore
        exact ⟨before, after ++ [t], by rw [List.append_assoc, List.cons_append], hgiven⟩
      · exact ⟨schedule, [], rfl, hgiven⟩

/-! ### Nonces -/

/-- A nonce that was not drawn again was drawn by one call only. -/
theorem eq_of_drawn (hdrawn : P.drawn.Nodup) {text : String}
    (hi : .nonce text ∈ P.eventsOf i) (hj : .nonce text ∈ P.eventsOf j) : i = j := by
  by_contra hne
  have hentries : (i, Script.Event.nonce text) ≠ (j, .nonce text) :=
    fun hsame => hne (congrArg Prod.fst hsame)
  have hapart := List.pairwise_filterMap.mp hdrawn
  -- two entries have different nonces, whichever of them is the earlier one
  have hsymm : Std.Symm fun entry entry' : ι × Script.Event =>
      ∀ text, entry.2.nonce? = some text → ∀ text', entry'.2.nonce? = some text' →
        text ≠ text' :=
    ⟨fun _ _ h text htext text' htext' => (h text' htext' text htext).symm⟩
  exact hapart.forall (mem_log_of_mem_eventsOf hi) (mem_log_of_mem_eventsOf hj) hentries
    text rfl text rfl rfl

theorem IsLed.nonce_mem_eventsOf (hP : P.IsLed requests)
    (hok : (P.calls i).stage = .finished (.ok ())) {a : Authorization}
    (ha : Verification.authorization (P.calls i).request = .ok a) :
    .nonce a.nonce ∈ P.eventsOf i := by
  obtain ⟨attempt, c, canonical, haccepted, -, hevents, hrequest⟩ := hP.exists_accepted hok
  rw [hrequest, Verification.authorization_of_accepted haccepted] at ha
  obtain rfl := Except.ok.inj ha
  rw [hevents]
  show Script.Event.nonce attempt.nonce ∈ _
  simp only [List.mem_cons, true_or, or_true]

/-! ### Calls left alone -/

section Alone

variable (ask context)

/-- **A call that has all turns to itself comes to what its run comes to.** -/
theorem turns_alone (P : Pool ι σ) {script : Script Outcome}
    (hi : (P.calls i).stage = .running script) :
    P.turns ask context
        (List.replicate ((script.transcript ask context P.host).length + 1) (.call i)) =
      ended ⟨(script.run ask context P.host).2, P.calls,
        P.log ++ (script.transcript ask context P.host).map (i, ·)⟩ i
          (script.run ask context P.host).1 := by
  induction hlength : (script.transcript ask context P.host).length generalizing P script with
  | zero =>
      cases hstep : script.step ask context P.host with
      | result outcome =>
          have hturn := turn_of_result hi hstep
          obtain rfl := Script.eq_done_of_step hstep
          show P.turn ask context (.call i) = _
          rw [hturn]
          simp only [Script.run, Script.transcript, List.map_nil, List.append_nil]
      | passes event rest after =>
          rw [Script.transcript_of_step hstep] at hlength
          exact nomatch hlength
  | succ n ih =>
      cases hstep : script.step ask context P.host with
      | result outcome =>
          obtain rfl := Script.eq_done_of_step hstep
          exact nomatch hlength
      | passes event rest after =>
          rw [Script.transcript_of_step hstep] at hlength ⊢
          have hrunning : ((P.passed i event rest after).calls i).stage = .running rest := by
            rw [calls_passed_self]
          rw [List.replicate_succ, turns_cons, turn_of_passes hi hstep, Script.run_of_step hstep,
            ih _ hrunning (Nat.succ.inj hlength)]
          simp only [passed, ended, Function.update_idem, List.map_cons, List.append_assoc,
            List.singleton_append]

/-- With an acceptable credential this takes four turns. -/
theorem turns_of_accepted (P : Pool ι σ) {r : Http.Request} {c : Credential}
    {canonical : CanonicalRequest} (hi : (P.calls i).stage = .running (sign r (some c)))
    (haccepted : (Signing.Attempt.on context P.host r (some c)).Accepted c canonical) :
    ∃ records, P.turns ask context (List.replicate 4 (.call i)) =
      ended ⟨Host.note { P.host with
            clockReads := P.host.clockReads + 1, nonceDraws := P.host.nonceDraws + 1 } records,
        P.calls,
        P.log ++ [(i, .reading (context.reading P.host)), (i, .nonce (context.nextNonce P.host)),
          (i, .noted)]⟩ i
        (Signing.Attempt.on context P.host r (some c)).outcome := by
  have hprepare : Signing.prepare r (some c) = .ok (c, canonical) := haccepted.prepare_eq
  obtain ⟨htranscript, records, hhost⟩ :=
    Signing.takes_of_prepared ask hprepare haccepted.clock
  have hends := turns_alone ask context P hi
  rw [htranscript, hhost, Signing.Attempt.run_sign] at hends
  exact ⟨records, hends⟩

end Alone

/-! ### Isolation -/

/-- **Calls that run side by side are isolated.** Under every schedule, a call that ends well was
told one credential, one reading and one nonce, and nothing else, each by the host as it was at a
turn of this call. Its request is the one that it was given with an authorization made of these
three, and it passes verification with the secret of this very credential. If no nonce is drawn
twice, then no two signed requests have the same. -/
theorem sign_isolated (h : Host σ) (requests : ι → Http.Request) (schedule : List (Turn ι σ))
    {P : Pool ι σ} (hP : (start h requests).turns ask context schedule = P) :
    (∀ i, ∀ event ∈ P.eventsOf i, ∃ before after, schedule = before ++ .call i :: after ∧
      event.IsGivenBy ask context ((start h requests).turns ask context before).host) ∧
    (∀ i, (P.calls i).stage = .finished (.ok ()) →
      ∃ c t nonce value a,
        P.eventsOf i = [.credential (.ok (some c)), .reading t, .nonce nonce, .noted] ∧
        (P.calls i).request = (requests i).authorize value ∧
        Verification.authorization (P.calls i).request = .ok a ∧
        a.id = c.identity ∧ a.timestamp = t ∧ a.nonce = nonce ∧
        (verify (P.calls i).request c.secret).value = .ok true) ∧
    (P.drawn.Nodup → ∀ i j, i ≠ j →
      (P.calls i).stage = .finished (.ok ()) → (P.calls j).stage = .finished (.ok ()) →
      ∀ a b, Verification.authorization (P.calls i).request = .ok a →
        Verification.authorization (P.calls j).request = .ok b → a.nonce ≠ b.nonce) := by
  subst hP
  refine ⟨fun i event hevent =>
    exists_turn_of_mem_log (start h requests) rfl (mem_log_of_mem_eventsOf hevent), ?_⟩
  have hled : ((start h requests).turns ask context schedule).IsLed requests :=
    (isLed_start h requests).turns schedule
  generalize (start h requests).turns ask context schedule = P at hled ⊢
  constructor
  · intro i hok
    obtain ⟨attempt, c, canonical, haccepted, hgiven, hevents, hrequest⟩ :=
      hled.exists_accepted hok
    rw [hrequest, ← hgiven]
    refine ⟨c, attempt.timestamp, attempt.nonce, attempt.madeValue c canonical,
      attempt.made c canonical, hevents, ?_, Verification.authorization_of_accepted haccepted, rfl,
      rfl, rfl, Verification.verify_outcome_of_accepted haccepted⟩
    rw [haccepted.outcome_eq]
  · intro hdrawn i j hne hi hj a b ha hb hsame
    have hmem := hled.nonce_mem_eventsOf hj hb
    rw [← hsame] at hmem
    exact hne (eq_of_drawn hdrawn (hled.nonce_mem_eventsOf hi ha) hmem)

end Turns

/-- A provider that answers the credential in use. -/
def inUse (h : Host Credential) : Answer × Host Credential := (.ok (some h.foreign), h)

/-- A context with a nonce for the first signing and another one for all others. -/
def twoNonces : Context :=
  ⟨.unavailable, .empty, .fixed 1336363200, .scripted "TwoNonces" fun
    | 0 => "first"
    | _ => "other"⟩

def busyHost : Host Credential :=
  ⟨[], none, [], fun _ => 0, fun _ _ => [], 0, 0, Verification.someCredential, []⟩

def newCredential : Credential := ⟨"uuid2", "apikey2"⟩

def replaceCredential (h : Host Credential) : Host Credential := { h with foreign := newCredential }

def given (i : Bool) : Http.Request :=
  bif i then Verification.elsewhere else CanonicalRequest.plain

/-- One call gets the credential, which is then replaced, and another call gets the new one. -/
def rotation : List (Turn Bool Credential) :=
  [.call false, .outside replaceCredential, .call true]

def laterAttempt : Signing.Attempt :=
  ⟨Verification.elsewhere, some newCredential, 1336363200, "first"⟩

def earlierAttempt : Signing.Attempt :=
  ⟨CanonicalRequest.plain, some Verification.someCredential, 1336363200, "other"⟩

theorem accepted_laterAttempt : laterAttempt.Accepted newCredential
    ⟨"GET", "http", "example.com", 80, "/b"⟩ :=
  ⟨rfl, by decide, by decide +kernel, by decide +kernel, by decide, by decide +kernel⟩

theorem accepted_earlierAttempt : earlierAttempt.Accepted Verification.someCredential
    CanonicalRequest.common :=
  ⟨rfl, by decide, by decide +kernel, by decide +kernel, by decide, by decide +kernel⟩

def supplied : Pool Bool Credential :=
  (start busyHost given).turns inUse twoNonces rotation

/-- The two calls after the later one has signed. -/
def overtaking (records : List Record) : Pool Bool Credential :=
  ended ⟨Host.note { replaceCredential busyHost with clockReads := 1, nonceDraws := 1 } records,
    supplied.calls,
    supplied.log ++ [(true, .reading 1336363200), (true, .nonce "first"), (true, .noted)]⟩
    true laterAttempt.outcome

theorem turns_later : ∃ records,
    supplied.turns inUse twoNonces (List.replicate 4 (.call true)) = overtaking records :=
  turns_of_accepted inUse twoNonces supplied rfl accepted_laterAttempt

theorem turns_earlier (records : List Record) : ∃ h,
    (overtaking records).turns inUse twoNonces (List.replicate 4 (.call false)) =
      ended ⟨h, (overtaking records).calls, (overtaking records).log ++
        [(false, .reading 1336363200), (false, .nonce "other"), (false, .noted)]⟩
        false earlierAttempt.outcome := by
  have hattempt : Signing.Attempt.on twoNonces (overtaking records).host CanonicalRequest.plain
      (some Verification.someCredential) = earlierAttempt := rfl
  have haccepted := accepted_earlierAttempt
  rw [← hattempt] at haccepted
  have hstage : ((overtaking records).calls false).stage =
      .running (sign CanonicalRequest.plain (some Verification.someCredential)) := rfl
  obtain ⟨_, hturns⟩ := turns_of_accepted inUse twoNonces (overtaking records) hstage haccepted
  rw [hattempt] at hturns
  exact ⟨_, hturns⟩

/-- The two calls in the end. -/
def overtaken : Pool Bool Credential :=
  (start busyHost given).turns inUse twoNonces
    (rotation ++ (List.replicate 4 (.call true) ++ List.replicate 4 (.call false)))

theorem overtaken_eq : ∃ h records, overtaken =
    ended ⟨h, (overtaking records).calls, (overtaking records).log ++
      [(false, .reading 1336363200), (false, .nonce "other"), (false, .noted)]⟩
      false earlierAttempt.outcome := by
  obtain ⟨records, hlater⟩ := turns_later
  obtain ⟨h, hearlier⟩ := turns_earlier records
  refine ⟨h, records, ?_⟩
  rw [overtaken, turns_append, turns_append, ← hearlier, ← hlater, supplied]

theorem sign_isolated_overtaken :
    (overtaken.calls false).stage = .finished (.ok ()) ∧
    (overtaken.calls true).stage = .finished (.ok ()) ∧ overtaken.drawn.Nodup ∧
    ∃ a b, Verification.authorization (overtaken.calls false).request = .ok a ∧
      Verification.authorization (overtaken.calls true).request = .ok b ∧
      a.id = "uuid" ∧ b.id = "uuid2" ∧ a.nonce ≠ b.nonce ∧
      (verify (overtaken.calls false).request "apikey").value = .ok true ∧
      (verify (overtaken.calls true).request "apikey2").value = .ok true := by
  obtain ⟨-, hsigned, hdistinct⟩ := sign_isolated busyHost given _ (Eq.refl overtaken)
  obtain ⟨h, records, hends⟩ := overtaken_eq
  have hearlier : (overtaken.calls false).stage = .finished (.ok ()) := by
    rw [hends, calls_ended_self, accepted_earlierAttempt.outcome_eq]
  have hlater : (overtaken.calls true).stage = .finished (.ok ()) := by
    rw [hends, calls_ended_of_ne (by decide)]
    show ((overtaking records).calls true).stage = _
    rw [overtaking, calls_ended_self, accepted_laterAttempt.outcome_eq]
  have hdrawn : overtaken.drawn = ["first", "other"] := by
    rw [hends]
    rfl
  have hnodup : overtaken.drawn.Nodup := by
    rw [hdrawn]
    decide
  have htold : overtaken.eventsOf false = [.credential (.ok (some Verification.someCredential)),
      .reading 1336363200, .nonce "other", .noted] := by
    rw [hends]
    rfl
  have htold' : overtaken.eventsOf true = [.credential (.ok (some newCredential)),
      .reading 1336363200, .nonce "first", .noted] := by
    rw [hends]
    rfl
  obtain ⟨c, _, _, _, a, hevents, -, ha, hid, -, -, hverify⟩ := hsigned false hearlier
  obtain ⟨c', _, _, _, b, hevents', -, hb, hid', -, -, hverify'⟩ := hsigned true hlater
  obtain ⟨rfl, -, -⟩ : Verification.someCredential = c ∧ _ ∧ _ := by
    simpa using htold.symm.trans hevents
  obtain ⟨rfl, -, -⟩ : newCredential = c' ∧ _ ∧ _ := by
    simpa using htold'.symm.trans hevents'
  exact ⟨hearlier, hlater, hnodup, a, b, ha, hb, hid, hid',
    hdistinct hnodup false true (by decide) hearlier hlater a b ha hb, hverify, hverify'⟩

end Pool

end MacAccess
