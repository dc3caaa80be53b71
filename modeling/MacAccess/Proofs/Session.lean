import Mathlib.Data.List.Range
import MacAccess.Proofs.Provider
import MacAccess.Proofs.Signer
import MacAccess.Proofs.Verification

/-!
# Signing one request after another

A signer keeps nothing from one call to the next. Each call asks the provider, once and before all
else. Only a call that is given a credential that can sign, for a request with a host, reads the
clock, once; and only one that finds the clock at the epoch or later draws a nonce, once. So the
readings of all calls, one after another, are the next readings of the clock, none left out and none
twice, and so it is with the nonces. No two headers share either.

The provider is any function of the host with a state of its own, as long as it takes no time and no
nonces for itself. The clock and the source of nonces may give anything, from use to use.
-/

namespace MacAccess

variable {σ : Type}

/-! ## Supplies -/

/-- Whether time and randomness come from the same place on two hosts. -/
structure Host.SameSources (h h' : Host σ) : Prop where
  time : h.time = h'.time
  entropy : h.entropy = h'.entropy

theorem Host.note_nil (h : Host σ) : h.note [] = h := by
  rw [note, List.append_nil]

/-- Whether asking for a credential takes no time and no nonces. -/
structure LeavesSupplies (ask : Host σ → Answer × Host σ) : Prop where
  sources (h : Host σ) : (ask h).2.SameSources h
  clockReads (h : Host σ) : (ask h).2.clockReads = h.clockReads
  nonceDraws (h : Host σ) : (ask h).2.nonceDraws = h.nonceDraws

namespace Context

/-- What the clock shows at the reading of a number. -/
def readingAt (c : Context) (h : Host σ) (n : Nat) : Timestamp :=
  c.reading { h with clockReads := n }

/-- The nonce that the draw of a number gives. -/
def nonceAt (c : Context) (h : Host σ) (n : Nat) : String :=
  c.nextNonce { h with nonceDraws := n }

theorem reading_eq_readingAt (c : Context) {h h' : Host σ} (hsources : h'.SameSources h) :
    c.reading h' = c.readingAt h h'.clockReads := by
  simp only [reading, readingAt, hsources.time]

theorem nextNonce_eq_nonceAt (c : Context) {h h' : Host σ} (hsources : h'.SameSources h) :
    c.nextNonce h' = c.nonceAt h h'.nonceDraws := by
  simp only [nextNonce, nonceAt, hsources.entropy]

end Context

namespace Provider

variable (c : Context)

mutual

/-- Every provider leaves the supplies alone, whatever it is made of. -/
theorem provide_leavesSupplies : ∀ (p : Provider σ) (h : Host σ),
    (provide c p h).2.SameSources h ∧ (provide c p h).2.clockReads = h.clockReads ∧
      (provide c p h).2.nonceDraws = h.nonceDraws
  | .chain ps, h => provideFirst_leavesSupplies ps h
  | .layered ps, h => provideFirst_leavesSupplies ps h
  | .fixed _, _ => ⟨⟨rfl, rfl⟩, rfl, rfl⟩
  | .environment _, _ => ⟨⟨rfl, rfl⟩, rfl, rfl⟩
  | .profile _, _ => ⟨⟨rfl, rfl⟩, rfl, rfl⟩
  | .foreign _ _, _ => ⟨⟨rfl, rfl⟩, rfl, rfl⟩

theorem provideFirst_leavesSupplies : ∀ (ps : List (Provider σ)) (h : Host σ),
    (provideFirst c ps h).2.SameSources h ∧ (provideFirst c ps h).2.clockReads = h.clockReads ∧
      (provideFirst c ps h).2.nonceDraws = h.nonceDraws
  | [], _ => ⟨⟨rfl, rfl⟩, rfl, rfl⟩
  | p :: ps, h => by
      have hp := provide_leavesSupplies p (h.note [trying p.outline])
      simp only [provideFirst]
      cases accepted? (provide c p (h.note [trying p.outline])).1 with
      | some credential => exact ⟨⟨hp.1.time, hp.1.entropy⟩, hp.2.1, hp.2.2⟩
      | none =>
          obtain ⟨hsources, hreads, hdraws⟩ := provideFirst_leavesSupplies ps
            ((provide c p (h.note [trying p.outline])).2.note
              [reaction p.outline (provide c p (h.note [trying p.outline])).1])
          exact ⟨⟨hsources.time.trans hp.1.time, hsources.entropy.trans hp.1.entropy⟩,
            hreads.trans hp.2.1, hdraws.trans hp.2.2⟩

end

theorem leavesSupplies (p : Provider σ) : LeavesSupplies (provide c p) where
  sources h := (provide_leavesSupplies c p h).1
  clockReads h := (provide_leavesSupplies c p h).2.1
  nonceDraws h := (provide_leavesSupplies c p h).2.2

end Provider

/-! ## Items at successive places -/

/-- Whether some items are those at successive places, from one place up to another. -/
def Successive {α : Type} (item : Nat → α) (start stop : Nat) (items : List α) : Prop :=
  stop = start + items.length ∧ items = (List.range' start items.length).map item

namespace Successive

variable {α : Type} {item : Nat → α}

theorem nil (start : Nat) : Successive item start start [] := ⟨rfl, rfl⟩

theorem single (start : Nat) : Successive item start (start + 1) [item start] := ⟨rfl, rfl⟩

theorem append {start middle stop : Nat} {items items' : List α}
    (h : Successive item start middle items) (h' : Successive item middle stop items') :
    Successive item start stop (items ++ items') := by
  obtain ⟨rfl, hitems⟩ := h
  obtain ⟨rfl, hitems'⟩ := h'
  constructor
  · rw [List.length_append]
    omega
  · rw [List.length_append, ← List.range'_append_1, List.map_append, ← hitems, ← hitems']

end Successive

/-- The signed request, or why there is none. -/
def Outcome.signed (outcome : Outcome) : Except Failure Http.Request :=
  outcome.verdict.map fun _ => outcome.request

namespace Signer

/-! ## A call -/

/-- Whether a call comes to the clock: it was given a credential that can sign, for a request with a
host. -/
def Ready (r : Http.Request) (answer : Answer) : Prop :=
  ∃ c, answer = .ok (some c) ∧ c.secret ≠ "" ∧
    (∀ b ∈ Utf8.encode c.identity, 0x21 ≤ b ∧ b ≤ 0x7E ∧ b ≠ 0x22) ∧
    ∃ host ∈ r.uri.host?, host ≠ ""

theorem prepare_of_ready {r : Http.Request} {c : Credential} (h : Ready r (.ok (some c))) :
    ∃ prepared, Signing.prepare r (some c) = .ok prepared := by
  obtain ⟨_, ⟨⟩, hsecret, hidentity, hhost⟩ := h
  obtain ⟨canonical, hcanonical⟩ := CanonicalRequest.exists_ofRequest hhost
  rw [Signing.prepare_of_identity hsecret ((isQuotable_iff_octets _).mpr hidentity), hcanonical]
  exact ⟨_, rfl⟩

theorem ready_of_prepare {r : Http.Request} {c : Credential}
    {prepared : Credential × CanonicalRequest}
    (h : Signing.prepare r (some c) = .ok prepared) : Ready r (.ok (some c)) := by
  dsimp only [Signing.prepare] at h
  split_ifs at h with hsecret hidentity
  obtain ⟨canonical, hcanonical, -⟩ := ok_of_map h
  obtain ⟨host, hhost, hne, -⟩ := CanonicalRequest.ofRequest_eq_ok_iff.mp hcanonical
  refine ⟨c, rfl, by simpa using hsecret, ?_, host, hhost, hne⟩
  exact (isQuotable_iff_octets _).mp (by simpa using hidentity)

section Call

variable (ask : Host σ → Answer × Host σ) (context : Context) (h : Host σ) (r : Http.Request)

/-- **All that a call takes from the host**, in its order, and all that it leaves behind. -/
theorem takes_sign :
    (¬ Ready r (ask h).1 ∧
      (sign r).transcript ask context h = [.credential (ask h).1] ∧
      ((sign r).run ask context h).2 = (ask h).2) ∨
    (Ready r (ask h).1 ∧ context.reading (ask h).2 < 0 ∧
      (sign r).transcript ask context h =
        [.credential (ask h).1, .reading (context.reading (ask h).2)] ∧
      ((sign r).run ask context h).2 =
        { (ask h).2 with clockReads := (ask h).2.clockReads + 1 }) ∨
    (Ready r (ask h).1 ∧ 0 ≤ context.reading (ask h).2 ∧
      (sign r).transcript ask context h =
        [.credential (ask h).1, .reading (context.reading (ask h).2),
          .nonce (context.nextNonce (ask h).2), .noted] ∧
      ∃ records, ((sign r).run ask context h).2 =
        Host.note { (ask h).2 with
          clockReads := (ask h).2.clockReads + 1
          nonceDraws := (ask h).2.nonceDraws + 1 } records) := by
  rw [sign, Script.transcript_askCredential, Script.run_askCredential]
  rcases (ask h).1 with f | (_ | c)
  · refine Or.inl ⟨?_, rfl, rfl⟩
    rintro ⟨_, hanswer, -⟩
    cases hanswer
  · refine Or.inl ⟨?_, rfl, rfl⟩
    rintro ⟨_, hanswer, -⟩
    cases hanswer
  · dsimp only
    cases hprepare : Signing.prepare r (some c) with
    | error f =>
        obtain ⟨htranscript, hafter⟩ := Signing.takes_of_refused ask hprepare
        refine Or.inl ⟨fun hready => ?_, by rw [htranscript], hafter⟩
        obtain ⟨prepared, hprepared⟩ := prepare_of_ready hready
        rw [hprepare] at hprepared
        cases hprepared
    | ok prepared =>
        have hready := ready_of_prepare hprepare
        by_cases hclock : context.reading (ask h).2 < 0
        · obtain ⟨htranscript, hafter⟩ := Signing.takes_of_early ask hprepare hclock
          exact Or.inr (Or.inl ⟨hready, hclock, by rw [htranscript], hafter⟩)
        · have hlate := Int64.not_lt.mp hclock
          obtain ⟨htranscript, hafter⟩ := Signing.takes_of_prepared ask hprepare hlate
          exact Or.inr (Or.inr ⟨hready, hlate, by rw [htranscript], hafter⟩)

end Call

/-- What a call comes to, by what it was told. -/
def resultOn (r : Http.Request) (t : Timestamp) (nonce : String) :
    Answer → Except Failure Http.Request
  | .error f => .error (loadingFailed.because f)
  | .ok none => .error notConfigured
  | .ok (some c) => (⟨r, some c, t, nonce⟩ : Signing.Attempt).outcome.signed

/-- A result that is a signed request was made of what the call was told. -/
theorem exists_of_resultOn_eq_ok {r r' : Http.Request} {t : Timestamp} {nonce : String}
    {answer : Answer} (h : resultOn r t nonce answer = .ok r') :
    Ready r answer ∧ 0 ≤ t ∧
      ∃ a, Verification.authorization r' = .ok a ∧ a.timestamp = t ∧ a.nonce = nonce := by
  rcases answer with f | (_ | c)
  · exact nomatch h
  · exact nomatch h
  · obtain ⟨⟨⟩, hok, rfl⟩ := ok_of_map h
    obtain ⟨c', canonical, haccepted⟩ := Signing.Attempt.accepted_of_ok hok
    have hclock : 0 ≤ t := haccepted.clock
    refine ⟨?_, hclock, _, Verification.authorization_of_accepted haccepted, rfl, rfl⟩
    exact ⟨c, rfl, haccepted.meets .secret c rfl, haccepted.meets .identity c rfl,
      haccepted.meets .host⟩

/-! ## Calls in place and copies -/

/-- A call of a signer: on a request in place, or for a signed copy of a message. -/
inductive Order where
  | sign (r : Http.Request)
  | signed (m : Http.Message)

namespace Order

def request : Order → Http.Request
  | .sign r => r
  | .signed m => m.head

/-- The call, with the signed request as its result. -/
def script : Order → Script (Except Failure Http.Request)
  | .sign r => (Signer.sign r).map Outcome.signed
  | .signed m => (Signer.signed m).map fun result => result.map Http.Message.head

section Script

variable (ask : Host σ → Answer × Host σ) (context : Context) (h : Host σ)

theorem transcript_script (o : Order) :
    o.script.transcript ask context h = (Signer.sign o.request).transcript ask context h := by
  cases o with
  | sign r => exact Script.transcript_map ask context h _ _
  | signed m =>
      rw [script, Script.transcript_map, Signer.signed, Script.transcript_map]
      rfl

theorem run_script (o : Order) :
    o.script.run ask context h =
      (resultOn o.request (context.reading (ask h).2) (context.nextNonce (ask h).2) (ask h).1,
        ((Signer.sign o.request).run ask context h).2) := by
  have hsign : ((Signer.sign o.request).run ask context h).1.signed =
      resultOn o.request (context.reading (ask h).2) (context.nextNonce (ask h).2) (ask h).1 := by
    rw [Signer.sign, Script.run_askCredential]
    rcases (ask h).1 with f | (_ | c)
    · rfl
    · rfl
    · dsimp only
      rw [Signing.Attempt.run_sign]
      rfl
  rw [← hsign]
  cases o with
  | sign r => rw [script, Script.run_map]; rfl
  | signed m =>
      rw [script, Script.run_map, Signer.run_signed]
      dsimp only [request, Outcome.signed]
      cases ((Signer.sign m.head).run ask context h).1.verdict <;> rfl

end Script

end Order

/-! ## Calls one after another -/

/-- A call with the host before and after it, all that happened in it, and what it came to. -/
structure Entry (σ : Type) where
  order : Order
  before : Host σ
  events : List Script.Event
  result : Except Failure Http.Request
  after : Host σ

namespace Entry

def readings (e : Entry σ) : List Timestamp := e.events.filterMap Script.Event.reading?

def nonces (e : Entry σ) : List String := e.events.filterMap Script.Event.nonce?

def IsSigned (e : Entry σ) : Prop := ∃ r, e.result = .ok r

end Entry

section Session

variable (ask : Host σ → Answer × Host σ) (context : Context)

/-- A call on a host. -/
def entry (o : Order) (h : Host σ) : Entry σ :=
  ⟨o, h, o.script.transcript ask context h, (o.script.run ask context h).1,
    (o.script.run ask context h).2⟩

/-- Calls one after another, and the host after them. -/
def serve : List Order → Host σ → List (Entry σ) × Host σ
  | [], h => ([], h)
  | o :: orders, h =>
    let e := entry ask context o h
    let (entries, last) := serve orders e.after
    (e :: entries, last)

/-- What the books say of a call in a run that began on the host `h`. -/
structure Entry.IsAccounted (h : Host σ) (e : Entry σ) : Prop where
  /-- The provider is asked once, -/
  asked : e.events.filterMap Script.Event.answer? = [(ask e.before).1]
  /-- the clock is read once if the call is ready, -/
  read : Ready e.order.request (ask e.before).1 →
    e.readings = [context.readingAt h e.before.clockReads]
  /-- and not at all otherwise; -/
  unread : ¬ Ready e.order.request (ask e.before).1 → e.readings = []
  /-- a nonce is drawn if the clock then shows no time before the epoch, -/
  drawn : Ready e.order.request (ask e.before).1 →
    0 ≤ context.readingAt h e.before.clockReads →
      e.nonces = [context.nonceAt h e.before.nonceDraws]
  /-- and not at all otherwise. -/
  undrawn : ¬ (Ready e.order.request (ask e.before).1 ∧
    0 ≤ context.readingAt h e.before.clockReads) → e.nonces = []
  /-- The call comes to what this answer, this reading and this nonce make of its request. -/
  result : e.result = resultOn e.order.request (context.readingAt h e.before.clockReads)
    (context.nonceAt h e.before.nonceDraws) (ask e.before).1
  /-- A header carries the reading and the nonce of its call. -/
  carried : ∀ r, e.result = .ok r → ∃ a, Verification.authorization r = .ok a ∧
    e.readings = [a.timestamp] ∧ e.nonces = [a.nonce]
  /-- Asking once, taking what was taken, and records are all that is left behind. -/
  left : ∃ records, e.after = Host.note { (ask e.before).2 with
    clockReads := e.before.clockReads + e.readings.length
    nonceDraws := e.before.nonceDraws + e.nonces.length } records

variable {ask}

/-- Every call is accounted for, -/
theorem isAccounted_entry (hask : LeavesSupplies ask) (o : Order) {h h' : Host σ}
    (hsources : h'.SameSources h) : (entry ask context o h').IsAccounted ask context h := by
  have hasked : (ask h').2.SameSources h :=
    ⟨(hask.sources h').time.trans hsources.time, (hask.sources h').entropy.trans hsources.entropy⟩
  have hreading := context.reading_eq_readingAt hasked
  have hnonce := context.nextNonce_eq_nonceAt hasked
  rw [hask.clockReads] at hreading
  rw [hask.nonceDraws] at hnonce
  have htakes := takes_sign ask context h' o.request
  rw [hreading, hnonce, hask.clockReads, hask.nonceDraws] at htakes
  have hrun := o.run_script ask context h'
  rw [hreading, hnonce] at hrun
  rw [entry, o.transcript_script, hrun]
  generalize (Signer.sign o.request).transcript ask context h' = events at htakes ⊢
  generalize ((Signer.sign o.request).run ask context h').2 = after at htakes ⊢
  -- the three ways in which a call goes, each with its own list of events
  rcases htakes with ⟨hready, rfl, rfl⟩ | ⟨hready, hclock, rfl, rfl⟩ |
    ⟨hready, hclock, rfl, records, rfl⟩
  · exact {
      asked := rfl
      read := fun h => absurd h hready
      unread := fun _ => rfl
      drawn := fun h => absurd h hready
      undrawn := fun _ => rfl
      result := rfl
      carried := fun r hok => absurd (exists_of_resultOn_eq_ok hok).1 hready
      left := ⟨[], by rw [Host.note_nil, ← hask.clockReads h', ← hask.nonceDraws h']; rfl⟩ }
  · exact {
      asked := rfl
      read := fun _ => rfl
      unread := fun h => absurd hready h
      drawn := fun _ h => absurd hclock (Int64.not_lt.mpr h)
      undrawn := fun _ => rfl
      result := rfl
      carried := fun r hok =>
        absurd hclock (Int64.not_lt.mpr (exists_of_resultOn_eq_ok hok).2.1)
      left := ⟨[], by rw [Host.note_nil, ← hask.nonceDraws h']; rfl⟩ }
  · exact {
      asked := rfl
      read := fun _ => rfl
      unread := fun h => absurd hready h
      drawn := fun _ _ => rfl
      undrawn := fun h => absurd ⟨hready, hclock⟩ h
      result := rfl
      carried := by
        intro r hok
        obtain ⟨-, -, a, ha, ht, hn⟩ := exists_of_resultOn_eq_ok hok
        exact ⟨a, ha, congrArg (fun t => [t]) ht.symm, congrArg (fun n => [n]) hn.symm⟩
      left := ⟨records, rfl⟩ }

namespace Entry.IsAccounted

variable {context} {h : Host σ} {e : Entry σ}

theorem sources_after (he : e.IsAccounted ask context h) (hask : LeavesSupplies ask)
    (hsources : e.before.SameSources h) : e.after.SameSources h := by
  obtain ⟨records, hleft⟩ := he.left
  have hasked := hask.sources e.before
  rw [hleft]
  exact ⟨hasked.time.trans hsources.time, hasked.entropy.trans hsources.entropy⟩

/-- A call takes the next reading or none, -/
theorem successive_readings (he : e.IsAccounted ask context h) :
    Successive (context.readingAt h) e.before.clockReads e.after.clockReads e.readings := by
  obtain ⟨records, hleft⟩ := he.left
  have hcount : e.after.clockReads = e.before.clockReads + e.readings.length := by
    rw [hleft]
    rfl
  by_cases hready : Ready e.order.request (ask e.before).1
  · rw [hcount, he.read hready]
    exact .single _
  · rw [hcount, he.unread hready]
    exact .nil _

/-- and the next nonce or none. -/
theorem successive_nonces (he : e.IsAccounted ask context h) :
    Successive (context.nonceAt h) e.before.nonceDraws e.after.nonceDraws e.nonces := by
  obtain ⟨records, hleft⟩ := he.left
  have hcount : e.after.nonceDraws = e.before.nonceDraws + e.nonces.length := by
    rw [hleft]
    rfl
  by_cases hdraws : Ready e.order.request (ask e.before).1 ∧
      0 ≤ context.readingAt h e.before.clockReads
  · rw [hcount, he.drawn hdraws.1 hdraws.2]
    exact .single _
  · rw [hcount, he.undrawn hdraws]
    exact .nil _

/-- A call that signs uses up one of each. -/
theorem lt_after_of_isSigned (he : e.IsAccounted ask context h) (hsigned : e.IsSigned) :
    e.before.clockReads < e.after.clockReads ∧ e.before.nonceDraws < e.after.nonceDraws := by
  obtain ⟨r, hok⟩ := hsigned
  obtain ⟨a, -, hreadings, hnonces⟩ := he.carried r hok
  have hreads := he.successive_readings.1
  have hdraws := he.successive_nonces.1
  rw [hreadings] at hreads
  rw [hnonces] at hdraws
  exact ⟨Nat.lt_of_lt_of_eq (Nat.lt_succ_self _) hreads.symm,
    Nat.lt_of_lt_of_eq (Nat.lt_succ_self _) hdraws.symm⟩

end Entry.IsAccounted

variable (ask)

theorem serve_cons (o : Order) (orders : List Order) (h : Host σ) :
    serve ask context (o :: orders) h =
      (entry ask context o h :: (serve ask context orders (entry ask context o h).after).1,
        (serve ask context orders (entry ask context o h).after).2) := rfl

theorem map_order_serve (orders : List Order) (h : Host σ) :
    (serve ask context orders h).1.map Entry.order = orders := by
  induction orders generalizing h with
  | nil => rfl
  | cons o orders ih => rw [serve_cons, List.map_cons, ih]; rfl

variable {ask}

/-- and so is every call of a run, -/
theorem isAccounted_serve (hask : LeavesSupplies ask) (orders : List Order) {h h' : Host σ}
    (hsources : h'.SameSources h) :
    ∀ e ∈ (serve ask context orders h').1, e.IsAccounted ask context h := by
  induction orders generalizing h' with
  | nil => exact fun e hmem => absurd hmem List.not_mem_nil
  | cons o orders ih =>
      have he := isAccounted_entry context hask o hsources
      rw [serve_cons]
      exact List.forall_mem_cons.mpr ⟨he, ih (he.sources_after hask hsources)⟩

/-- which takes readings and nonces from where it began to where it ends. -/
theorem successive_serve (hask : LeavesSupplies ask) (orders : List Order) {h h' : Host σ}
    (hsources : h'.SameSources h) :
    Successive (context.readingAt h) h'.clockReads (serve ask context orders h').2.clockReads
        ((serve ask context orders h').1.flatMap Entry.readings) ∧
      Successive (context.nonceAt h) h'.nonceDraws (serve ask context orders h').2.nonceDraws
        ((serve ask context orders h').1.flatMap Entry.nonces) := by
  induction orders generalizing h' with
  | nil => exact ⟨.nil _, .nil _⟩
  | cons o orders ih =>
      have he := isAccounted_entry context hask o hsources
      obtain ⟨hreadings, hnonces⟩ := ih (he.sources_after hask hsources)
      rw [serve_cons, List.flatMap_cons, List.flatMap_cons]
      exact ⟨he.successive_readings.append hreadings, he.successive_nonces.append hnonces⟩

/-- A later call begins where an earlier one ended, or further on. -/
theorem le_before_of_mem_serve (hask : LeavesSupplies ask) (orders : List Order) {h h' : Host σ}
    (hsources : h'.SameSources h) : ∀ e ∈ (serve ask context orders h').1,
      h'.clockReads ≤ e.before.clockReads ∧ h'.nonceDraws ≤ e.before.nonceDraws := by
  induction orders generalizing h' with
  | nil => exact fun e hmem => absurd hmem List.not_mem_nil
  | cons o orders ih =>
      have he := isAccounted_entry context hask o hsources
      have hreads : h'.clockReads ≤ (entry ask context o h').after.clockReads := by
        rw [he.successive_readings.1]
        exact Nat.le_add_right _ _
      have hdraws : h'.nonceDraws ≤ (entry ask context o h').after.nonceDraws := by
        rw [he.successive_nonces.1]
        exact Nat.le_add_right _ _
      rw [serve_cons]
      refine List.forall_mem_cons.mpr ⟨⟨Nat.le_refl _, Nat.le_refl _⟩, fun e hmem => ?_⟩
      have hlater := ih (he.sources_after hask hsources) e hmem
      exact ⟨hreads.trans hlater.1, hdraws.trans hlater.2⟩

theorem pairwise_serve (hask : LeavesSupplies ask) (orders : List Order) {h h' : Host σ}
    (hsources : h'.SameSources h) :
    (serve ask context orders h').1.Pairwise fun e later => e.IsSigned →
      e.before.clockReads < later.before.clockReads ∧
        e.before.nonceDraws < later.before.nonceDraws := by
  induction orders generalizing h' with
  | nil => exact .nil
  | cons o orders ih =>
      have he := isAccounted_entry context hask o hsources
      have hafter := he.sources_after hask hsources
      rw [serve_cons]
      refine List.pairwise_cons.mpr ⟨fun later hmem hsigned => ?_, ih hafter⟩
      have hused := he.lt_after_of_isSigned hsigned
      have hlater := le_before_of_mem_serve context hask orders hafter later hmem
      exact ⟨Nat.lt_of_lt_of_le hused.1 hlater.1, Nat.lt_of_lt_of_le hused.2 hlater.2⟩

/-- **A run of calls takes what it needs, each thing once.** Every call is accounted for: it asks
the provider once and comes to what this answer makes of its request. The readings of all calls are
the next readings of the clock, and the nonces are the next nonces. A call that signs takes its
reading and its nonce from places before those of any later call, so no two headers share one. -/
theorem serve_accounts (hask : LeavesSupplies ask) (orders : List Order) (h : Host σ)
    {entries : List (Entry σ)} {last : Host σ}
    (hserve : serve ask context orders h = (entries, last)) :
    entries.map Entry.order = orders ∧
    (∀ e ∈ entries, e.IsAccounted ask context h) ∧
    Successive (context.readingAt h) h.clockReads last.clockReads
      (entries.flatMap Entry.readings) ∧
    Successive (context.nonceAt h) h.nonceDraws last.nonceDraws
      (entries.flatMap Entry.nonces) ∧
    entries.Pairwise fun e later => e.IsSigned →
      e.before.clockReads < later.before.clockReads ∧
        e.before.nonceDraws < later.before.nonceDraws := by
  have hsources : h.SameSources h := ⟨rfl, rfl⟩
  have horders := map_order_serve ask context orders h
  have haccounted := isAccounted_serve context hask orders hsources
  have hsuccessive := successive_serve context hask orders hsources
  have hapart := pairwise_serve context hask orders hsources
  rw [hserve] at horders haccounted hsuccessive hapart
  exact ⟨horders, haccounted, hsuccessive.1, hsuccessive.2, hapart⟩

end Session

/-- The answers of a provider that has another one each time. -/
def answerOf : Nat → Answer
  | 0 => .ok (some Verification.someCredential)
  | 1 => .error (.unexpected "down")
  | _ => .ok (some ⟨"uuid2", "apikey2"⟩)

def rotating : Provider Nat := .foreign "Rotating" fun n => (answerOf n, n + 1)

/-- A context that tells its first reading and its first nonce from all others. -/
def ticking : Context :=
  ⟨.unavailable, .empty, .scripted "Ticking" fun n => if n = 0 then 1336363200 else 1336363201,
    .scripted "Numbered" fun n => if n = 0 then "first" else "other"⟩

def freshHost : Host Nat := ⟨[], none, [], fun _ => 0, fun _ _ => [], 0, 0, 0, []⟩

def askRotating : Host Nat → Answer × Host Nat := rotating.provide ticking

/-- A call in place, -/
def signedEntry : Entry Nat := entry askRotating ticking (.sign CanonicalRequest.plain) freshHost

/-- a copy that fails, -/
def failedEntry : Entry Nat :=
  entry askRotating ticking (.signed ⟨Verification.elsewhere, "body"⟩) signedEntry.after

/-- and the same tried again. -/
def retriedEntry : Entry Nat :=
  entry askRotating ticking (.signed ⟨Verification.elsewhere, "body"⟩) failedEntry.after

def threeOrders : List Order :=
  [.sign CanonicalRequest.plain, .signed ⟨Verification.elsewhere, "body"⟩,
    .signed ⟨Verification.elsewhere, "body"⟩]

theorem serve_threeOrders : serve askRotating ticking threeOrders freshHost =
    ([signedEntry, failedEntry, retriedEntry], retriedEntry.after) := rfl

theorem foreign_after {h : Host Nat} {e : Entry Nat} (he : e.IsAccounted askRotating ticking h) :
    e.after.foreign = e.before.foreign + 1 := by
  obtain ⟨records, hleft⟩ := he.left
  rw [hleft]
  rfl

def signedAttempt : Signing.Attempt :=
  ⟨CanonicalRequest.plain, some Verification.someCredential, 1336363200, "first"⟩

def retriedAttempt : Signing.Attempt :=
  ⟨Verification.elsewhere, some ⟨"uuid2", "apikey2"⟩, 1336363201, "other"⟩

theorem accepted_signedAttempt :
    signedAttempt.Accepted Verification.someCredential CanonicalRequest.common :=
  ⟨rfl, by decide, by decide +kernel, by decide +kernel, by decide, by decide +kernel⟩

theorem accepted_retriedAttempt : retriedAttempt.Accepted ⟨"uuid2", "apikey2"⟩
    ⟨"GET", "http", "example.com", 80, "/b"⟩ :=
  ⟨rfl, by decide, by decide +kernel, by decide +kernel, by decide, by decide +kernel⟩

theorem serve_accounts_rotating : LeavesSupplies askRotating ∧
    serve askRotating ticking threeOrders freshHost =
      ([signedEntry, failedEntry, retriedEntry], retriedEntry.after) ∧
    failedEntry.readings = [] ∧ failedEntry.nonces = [] ∧
    ∃ r r' a b, signedEntry.result = .ok r ∧ retriedEntry.result = .ok r' ∧
      Verification.authorization r = .ok a ∧ Verification.authorization r' = .ok b ∧
      a.timestamp = 1336363200 ∧ a.nonce = "first" ∧
      b.timestamp = 1336363201 ∧ b.nonce = "other" := by
  have hask : LeavesSupplies askRotating := Provider.leavesSupplies ticking rotating
  obtain ⟨-, haccounted, -, -, -⟩ :=
    serve_accounts ticking hask threeOrders freshHost serve_threeOrders
  have hsigned := haccounted signedEntry (by simp)
  have hfailed := haccounted failedEntry (by simp)
  have hretried := haccounted retriedEntry (by simp)
  have hok : signedEntry.result = .ok _ :=
    hsigned.result.trans (congrArg Outcome.signed accepted_signedAttempt.outcome_eq)
  obtain ⟨a, ha, htime, hnonce⟩ := hsigned.carried _ hok
  -- the provider has moved on by one answer, whatever the call came to
  have hforeign : failedEntry.before.foreign = 1 := foreign_after hsigned
  have hforeign' : retriedEntry.before.foreign = 2 :=
    (foreign_after hfailed).trans (congrArg (· + 1) hforeign)
  have hunready : ¬ Ready failedEntry.order.request (askRotating failedEntry.before).1 := by
    rintro ⟨c, hanswer, -⟩
    have hdown : answerOf failedEntry.before.foreign = .ok (some c) := hanswer
    rw [hforeign] at hdown
    exact nomatch hdown
  have hunread := hfailed.unread hunready
  have hundrawn := hfailed.undrawn fun h => hunready h.1
  have hreads : retriedEntry.before.clockReads = 1 := by
    have hfirst := hsigned.successive_readings.1
    have hnone := hfailed.successive_readings.1
    rw [htime] at hfirst
    rw [hunread] at hnone
    exact hnone.trans hfirst
  have hdraws : retriedEntry.before.nonceDraws = 1 := by
    have hfirst := hsigned.successive_nonces.1
    have hnone := hfailed.successive_nonces.1
    rw [hnonce] at hfirst
    rw [hundrawn] at hnone
    exact hnone.trans hfirst
  have hretry := hretried.result
  have hnew : (askRotating retriedEntry.before).1 = .ok (some ⟨"uuid2", "apikey2"⟩) := by
    show answerOf retriedEntry.before.foreign = _
    rw [hforeign']
    rfl
  rw [hreads, hdraws, hnew] at hretry
  have hok' : retriedEntry.result = .ok _ :=
    hretry.trans (congrArg Outcome.signed accepted_retriedAttempt.outcome_eq)
  obtain ⟨b, hb, htime', hnonce'⟩ := hretried.carried _ hok'
  have hready := (exists_of_resultOn_eq_ok (hsigned.result.symm.trans hok)).1
  have hready' := (exists_of_resultOn_eq_ok (hretried.result.symm.trans hok')).1
  have hread := htime.symm.trans (hsigned.read hready)
  have hdrawn := hnonce.symm.trans (hsigned.drawn hready (by decide))
  have hread' := htime'.symm.trans (hretried.read hready')
  rw [hreads] at hread'
  have hdrawn' := hnonce'.symm.trans (hretried.drawn hready' (by rw [hreads]; decide))
  rw [hdraws] at hdrawn'
  exact ⟨hask, serve_threeOrders, hunread, hundrawn, _, _, a, b, hok, hok', ha, hb,
    List.singleton_inj.mp hread, List.singleton_inj.mp hdrawn, List.singleton_inj.mp hread',
    List.singleton_inj.mp hdrawn'⟩

end Signer

end MacAccess
