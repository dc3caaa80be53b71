import Mathlib.Data.List.Basic
import MacAccess.Provider

/-!
# What chains of providers come to

A chain asks its members in order, and a member may be a chain itself. Seen from outside, such a
tree does what its leaves would do in one row: they are asked from left to right, each once, up to
the first one that answers a valid credential. Only the journal tells the two apart, as a chain
notes down each of its members. So everything here is stated of hosts without their journals.

A foreign leaf is a function of the foreign state and may be any one; what it knows of the context
and the host is part of that function.
-/

namespace MacAccess

variable {σ : Type}

/-! ## Building chains -/

namespace Chain

/-- One member more, at one of the two ends. -/
inductive Addition (σ : Type) where
  | back (p : Provider σ)
  | front (p : Provider σ)

def add (ps : Chain σ) : Addition σ → Chain σ
  | .back p => ps.push p
  | .front p => ps.pushFront p

/-- The chain after some additions, one after another. -/
def extend (ps : Chain σ) (additions : List (Addition σ)) : Chain σ := additions.foldl add ps

def Addition.back? : Addition σ → Option (Provider σ)
  | .back p => some p
  | .front _ => none

def Addition.front? : Addition σ → Option (Provider σ)
  | .back _ => none
  | .front p => some p

/-- **Members added at the front are asked in reverse order of addition**, before all others, and
those added at the back in order, after all others. -/
theorem extend_eq (ps : Chain σ) (additions : List (Addition σ)) :
    extend ps additions =
      (additions.filterMap Addition.front?).reverse ++ ps ++
        additions.filterMap Addition.back? := by
  induction additions generalizing ps with
  | nil => simp [extend]
  | cons addition additions ih =>
      show extend (add ps addition) additions = _
      rw [ih]
      cases addition with
      | back p => simp [add, push, List.filterMap_cons, Addition.front?, Addition.back?]
      | front p => simp [add, pushFront, List.filterMap_cons, Addition.front?, Addition.back?]

end Chain

/-- The host without its journal. -/
def Host.unnoted (h : Host σ) : Host σ := { h with journal := [] }

@[simp] theorem Host.unnoted_note (h : Host σ) (records : List Record) :
    (h.note records).unnoted = h.unnoted := rfl

namespace Provider

/-! ## Leaves and calls -/

/-- Whether a provider only asks others. -/
def IsChain : Provider σ → Prop
  | .chain _ | .layered _ => True
  | _ => False

mutual

/-- The providers of a tree that are no chains, from left to right. -/
def leaves : Provider σ → List (Provider σ)
  | .chain ps => leavesOf ps
  | .layered ps => leavesOf ps
  | p => [p]

def leavesOf : List (Provider σ) → List (Provider σ)
  | [] => []
  | p :: ps => p.leaves ++ leavesOf ps

end

theorem leavesOf_eq_flatMap (ps : List (Provider σ)) : leavesOf ps = ps.flatMap leaves := by
  induction ps with
  | nil => rfl
  | cons p ps ih => rw [leavesOf, ih, List.flatMap_cons]

/-- A leaf that was asked, with its answer. -/
structure Call (σ : Type) where
  leaf : Provider σ
  answer : Answer

/-- Whether the answer is a valid credential. -/
def Call.Succeeds (call : Call σ) : Prop :=
  ∃ credential, call.answer = .ok (some credential) ∧ credential.isValid = true

mutual

/-- The calls of leaves that asking a provider makes, in their order. -/
def calls (c : Context) : Provider σ → Host σ → List (Call σ)
  | .chain ps, h => callsOf c ps h
  | .layered ps, h => callsOf c ps h
  | p, h => [⟨p, (provide c p h).1⟩]

def callsOf (c : Context) : List (Provider σ) → Host σ → List (Call σ)
  | [], _ => []
  | p :: ps, h =>
    let asked := h.note [trying p.outline]
    let (answer, after) := provide c p asked
    match accepted? answer with
    | some _ => calls c p asked
    | none => calls c p asked ++ callsOf c ps (after.note [reaction p.outline answer])

end

/-- Asks each of some providers, one after another, whatever they answer. -/
def askAll (c : Context) : List (Provider σ) → Host σ → List (Call σ) × Host σ
  | [], h => ([], h)
  | p :: ps, h =>
    let (answer, after) := provide c p h
    let (calls, last) := askAll c ps after.unnoted
    (⟨p, answer⟩ :: calls, last)

/-- Asks providers one after another until one of them answers a valid credential. -/
def askInTurn (c : Context) : List (Provider σ) → Host σ → List (Call σ) × Answer × Host σ
  | [], h => ([], .ok none, h)
  | p :: ps, h =>
    let (answer, after) := provide c p h
    match accepted? answer with
    | some credential => ([⟨p, answer⟩], .ok (some credential), after.unnoted)
    | none =>
      let (calls, rest) := askInTurn c ps after.unnoted
      (⟨p, answer⟩ :: calls, rest)

/-! ## Asking leaves -/

theorem accepted?_eq_some_iff {answer : Answer} {credential : Credential} :
    accepted? answer = some credential ↔
      answer = .ok (some credential) ∧ credential.isValid = true := by
  unfold accepted?
  split
  · next offered =>
    by_cases hvalid : offered.isValid = true
    · rw [if_pos hvalid]
      constructor
      · rintro ⟨⟩
        exact ⟨rfl, hvalid⟩
      · rintro ⟨⟨⟩, -⟩
        rfl
    · rw [if_neg hvalid]
      constructor
      · exact nofun
      · rintro ⟨⟨⟩, hother⟩
        exact absurd hother hvalid
  · next hnone =>
    constructor
    · exact nofun
    · rintro ⟨rfl, -⟩
      exact absurd rfl (hnone credential)

theorem accepted?_of_isValid {credential : Credential} (h : credential.isValid = true) :
    accepted? (.ok (some credential)) = some credential :=
  accepted?_eq_some_iff.mpr ⟨rfl, h⟩

theorem Call.not_succeeds_of_accepted? {call : Call σ} (h : accepted? call.answer = none) :
    ¬ call.Succeeds := by
  rintro ⟨credential, hanswer, hvalid⟩
  rw [hanswer, accepted?_of_isValid hvalid] at h
  exact nomatch h

/-- A leaf neither reads the journal nor answers by it. -/
theorem provide_leaf_unnoted (c : Context) {p : Provider σ} (hp : ¬ p.IsChain) (h : Host σ) :
    (provide c p h).1 = (provide c p h.unnoted).1 ∧
      (provide c p h).2.unnoted = (provide c p h.unnoted).2.unnoted := by
  cases p with
  | chain ps => exact absurd trivial hp
  | layered ps => exact absurd trivial hp
  | fixed credential => exact ⟨rfl, rfl⟩
  | environment settings => exact ⟨rfl, rfl⟩
  | profile settings => exact ⟨rfl, rfl⟩
  | foreign name ask => exact ⟨rfl, rfl⟩

theorem leaves_of_not_isChain {p : Provider σ} (hp : ¬ p.IsChain) : p.leaves = [p] := by
  cases p with
  | chain ps => exact absurd trivial hp
  | layered ps => exact absurd trivial hp
  | _ => rfl

theorem calls_of_not_isChain (c : Context) {p : Provider σ} (hp : ¬ p.IsChain) (h : Host σ) :
    calls c p h = [⟨p, (provide c p h).1⟩] := by
  cases p with
  | chain ps => exact absurd trivial hp
  | layered ps => exact absurd trivial hp
  | _ => rfl

/-! ## Rows of providers -/

section Rows

variable (c : Context)

theorem askInTurn_cons_of_some {p : Provider σ} {h : Host σ} {credential : Credential}
    (haccepted : accepted? (provide c p h).1 = some credential) (ps : List (Provider σ)) :
    askInTurn c (p :: ps) h =
      ([⟨p, (provide c p h).1⟩], .ok (some credential), (provide c p h).2.unnoted) := by
  simp only [askInTurn, haccepted]

theorem askInTurn_cons_of_none {p : Provider σ} {h : Host σ}
    (hskipped : accepted? (provide c p h).1 = none) (ps : List (Provider σ)) :
    askInTurn c (p :: ps) h =
      (⟨p, (provide c p h).1⟩ :: (askInTurn c ps (provide c p h).2.unnoted).1,
        (askInTurn c ps (provide c p h).2.unnoted).2) := by
  simp only [askInTurn, hskipped]

/-- A row answers a valid credential or none, and never fails. -/
theorem askInTurn_answer (ps : List (Provider σ)) (h : Host σ) :
    (askInTurn c ps h).2.1 = .ok (accepted? (askInTurn c ps h).2.1) := by
  induction ps generalizing h with
  | nil => rfl
  | cons p ps ih =>
      cases haccepted : accepted? (provide c p h).1 with
      | some credential =>
          have hvalid := (accepted?_eq_some_iff.mp haccepted).2
          rw [askInTurn_cons_of_some c haccepted, accepted?_of_isValid hvalid]
      | none =>
          rw [askInTurn_cons_of_none c haccepted]
          exact ih _

/-- A longer row goes on only where the shorter one came to nothing. -/
theorem askInTurn_append (ps qs : List (Provider σ)) (h : Host σ) :
    askInTurn c (ps ++ qs) h =
      match accepted? (askInTurn c ps h).2.1 with
      | some _ => askInTurn c ps h
      | none =>
        ((askInTurn c ps h).1 ++ (askInTurn c qs (askInTurn c ps h).2.2).1,
          (askInTurn c qs (askInTurn c ps h).2.2).2) := by
  induction ps generalizing h with
  | nil => rfl
  | cons p ps ih =>
      rw [List.cons_append]
      cases haccepted : accepted? (provide c p h).1 with
      | some credential =>
          have hvalid := (accepted?_eq_some_iff.mp haccepted).2
          rw [askInTurn_cons_of_some c haccepted, askInTurn_cons_of_some c haccepted]
          simp only [accepted?_of_isValid hvalid]
      | none =>
          rw [askInTurn_cons_of_none c haccepted, askInTurn_cons_of_none c haccepted, ih]
          cases accepted? (askInTurn c ps (provide c p h).2.unnoted).2.1 <;> rfl

/-- The calls of a row are made one after another, from its start on. -/
theorem askAll_askInTurn (ps : List (Provider σ)) (h : Host σ) :
    (askInTurn c ps h).1.map Call.leaf <+: ps ∧
      askAll c ((askInTurn c ps h).1.map Call.leaf) h =
        ((askInTurn c ps h).1, (askInTurn c ps h).2.2) := by
  induction ps generalizing h with
  | nil => exact ⟨List.prefix_rfl, rfl⟩
  | cons p ps ih =>
      cases haccepted : accepted? (provide c p h).1 with
      | some credential =>
          rw [askInTurn_cons_of_some c haccepted]
          exact ⟨⟨ps, rfl⟩, rfl⟩
      | none =>
          obtain ⟨hleaves, hall⟩ := ih (provide c p h).2.unnoted
          rw [askInTurn_cons_of_none c haccepted]
          refine ⟨List.cons_prefix_cons.mpr ⟨rfl, hleaves⟩, ?_⟩
          simp only [List.map_cons, askAll, hall]

/-- A row stops at its first valid credential, or comes to its end without one. -/
theorem askInTurn_stops (ps : List (Provider σ)) (h : Host σ) :
    (∃ before leaf credential,
      (askInTurn c ps h).1 = before ++ [⟨leaf, .ok (some credential)⟩] ∧
        credential.isValid = true ∧ (∀ call ∈ before, ¬ call.Succeeds) ∧
        (askInTurn c ps h).2.1 = .ok (some credential)) ∨
    ((askInTurn c ps h).1.map Call.leaf = ps ∧ (∀ call ∈ (askInTurn c ps h).1, ¬ call.Succeeds) ∧
      (askInTurn c ps h).2.1 = .ok none) := by
  induction ps generalizing h with
  | nil => exact Or.inr ⟨rfl, nofun, rfl⟩
  | cons p ps ih =>
      cases haccepted : accepted? (provide c p h).1 with
      | some credential =>
          obtain ⟨hanswer, hvalid⟩ := accepted?_eq_some_iff.mp haccepted
          rw [askInTurn_cons_of_some c haccepted, hanswer]
          exact Or.inl ⟨[], p, credential, rfl, hvalid, nofun, rfl⟩
      | none =>
          have hp : ¬ (⟨p, (provide c p h).1⟩ : Call σ).Succeeds :=
            Call.not_succeeds_of_accepted? haccepted
          rw [askInTurn_cons_of_none c haccepted]
          rcases ih (provide c p h).2.unnoted with
            ⟨before, leaf, credential, hcalls, hvalid, hbefore, hanswer⟩ | ⟨hcalls, hall, hanswer⟩
          · refine Or.inl ⟨⟨p, (provide c p h).1⟩ :: before, leaf, credential, ?_, hvalid, ?_,
              hanswer⟩
            · rw [hcalls, List.cons_append]
            · exact List.forall_mem_cons.mpr ⟨hp, hbefore⟩
          · refine Or.inr ⟨?_, List.forall_mem_cons.mpr ⟨hp, hall⟩, hanswer⟩
            rw [List.map_cons, hcalls]

/-! ## Trees as rows -/

theorem askInTurn_leaf {p : Provider σ} (hp : ¬ p.IsChain) (h : Host σ) :
    askInTurn c p.leaves h.unnoted =
      (calls c p h, .ok (accepted? (provide c p h).1), (provide c p h).2.unnoted) := by
  obtain ⟨hanswer, hafter⟩ := provide_leaf_unnoted c hp h
  rw [leaves_of_not_isChain hp, calls_of_not_isChain c hp, hanswer, hafter]
  cases haccepted : accepted? (provide c p h.unnoted).1 with
  | some credential => rw [askInTurn_cons_of_some c haccepted]
  | none =>
      rw [askInTurn_cons_of_none c haccepted]
      rfl

/-- An answer of a row stays the same when it is passed through a chain around it. -/
theorem askInTurn_of_row {ps : List (Provider σ)} {h last : Host σ} {made : List (Call σ)}
    {answer : Answer} (hrow : askInTurn c ps h = (made, answer, last)) :
    askInTurn c ps h = (made, .ok (accepted? answer), last) := by
  have hanswer := askInTurn_answer c ps h
  rw [hrow] at hanswer ⊢
  exact congrArg (fun a => (made, a, last)) hanswer

mutual

/-- Asking a member of a chain comes to what its leaves come to in a row. -/
theorem askInTurn_leaves : ∀ (p : Provider σ) (h : Host σ),
    askInTurn c p.leaves h.unnoted =
      (calls c p h, .ok (accepted? (provide c p h).1), (provide c p h).2.unnoted)
  | .chain ps, h => askInTurn_of_row c (askInTurn_leavesOf ps h)
  | .layered ps, h => askInTurn_of_row c (askInTurn_leavesOf ps h)
  | .fixed _, h => askInTurn_leaf c id h
  | .environment _, h => askInTurn_leaf c id h
  | .profile _, h => askInTurn_leaf c id h
  | .foreign _ _, h => askInTurn_leaf c id h

/-- The same for all members. The journal is all that the chain itself leaves behind. -/
theorem askInTurn_leavesOf : ∀ (ps : List (Provider σ)) (h : Host σ),
    askInTurn c (leavesOf ps) h.unnoted =
      (callsOf c ps h, (provideFirst c ps h).1, (provideFirst c ps h).2.unnoted)
  | [], h => rfl
  | p :: ps, h => by
      have hp := askInTurn_leaves p (h.note [trying p.outline])
      rw [Host.unnoted_note] at hp
      rw [leavesOf, askInTurn_append, hp]
      simp only [callsOf, provideFirst]
      cases haccepted : accepted? (provide c p (h.note [trying p.outline])).1 with
      | some credential =>
          have hvalid := (accepted?_eq_some_iff.mp haccepted).2
          simp only [accepted?_of_isValid hvalid, Host.unnoted_note]
      | none =>
          have hps := askInTurn_leavesOf ps ((provide c p (h.note [trying p.outline])).2.note
            [reaction p.outline (provide c p (h.note [trying p.outline])).1])
          rw [Host.unnoted_note] at hps
          simp only [accepted?, hps]

end

theorem askInTurn_of_isChain {p : Provider σ} (hp : p.IsChain) (h : Host σ) :
    askInTurn c p.leaves h.unnoted =
      (calls c p h, (provide c p h).1, (provide c p h).2.unnoted) := by
  cases p with
  | chain ps => exact askInTurn_leavesOf c ps h
  | layered ps => exact askInTurn_leavesOf c ps h
  | _ => exact hp.elim

/-- Chains with the same leaves in the same order do the same. -/
theorem provide_congr_leaves {p q : Provider σ} (hp : p.IsChain) (hq : q.IsChain)
    (hleaves : q.leaves = p.leaves) (h : Host σ) :
    calls c q h = calls c p h ∧ (provide c q h).1 = (provide c p h).1 ∧
      (provide c q h).2.unnoted = (provide c p h).2.unnoted := by
  have hrow := askInTurn_of_isChain c hq h
  rw [hleaves, askInTurn_of_isChain c hp h] at hrow
  obtain ⟨hcalls, hrest⟩ := Prod.mk.inj hrow
  obtain ⟨hanswer, hafter⟩ := Prod.mk.inj hrest
  exact ⟨hcalls.symm, hanswer.symm, hafter.symm⟩

end Rows

/-- **A tree of chains answers the first valid credential of its leaves.** Members added at the
front come in reverse order of addition, and those added at the back in order. The leaves are asked
from left to right, each once, up to the first valid credential, which is the answer, or all of them
if there is none, and then there is no credential either. Nothing else happens to the host but
records in the journal, and any other tree with the same leaves does the same. -/
theorem provide_first_valid (c : Context) (h : Host σ) (start : Chain σ)
    (additions : List (Chain.Addition σ)) {root : Provider σ}
    (hroot : root = .chain (start.extend additions) ∨ root = .layered (start.extend additions)) :
    root.leaves =
      ((additions.filterMap Chain.Addition.front?).reverse ++ start ++
        additions.filterMap Chain.Addition.back?).flatMap leaves ∧
    (calls c root h).map Call.leaf <+: root.leaves ∧
    askAll c ((calls c root h).map Call.leaf) h.unnoted =
      (calls c root h, (provide c root h).2.unnoted) ∧
    ((∃ before leaf credential,
        calls c root h = before ++ [⟨leaf, .ok (some credential)⟩] ∧
          credential.isValid = true ∧ (∀ call ∈ before, ¬ call.Succeeds) ∧
          (provide c root h).1 = .ok (some credential)) ∨
      ((calls c root h).map Call.leaf = root.leaves ∧
        (∀ call ∈ calls c root h, ¬ call.Succeeds) ∧ (provide c root h).1 = .ok none)) ∧
    ∀ other : Provider σ, other.IsChain → other.leaves = root.leaves →
      calls c other h = calls c root h ∧ (provide c other h).1 = (provide c root h).1 ∧
        (provide c other h).2.unnoted = (provide c root h).2.unnoted := by
  have hchain : root.IsChain := by
    rcases hroot with rfl | rfl <;> exact trivial
  have hrow := askInTurn_of_isChain c hchain h
  have hmade := askAll_askInTurn c root.leaves h.unnoted
  have hstops := askInTurn_stops c root.leaves h.unnoted
  rw [hrow] at hmade hstops
  refine ⟨?_, hmade.1, hmade.2, hstops, ?_⟩
  · rw [← Chain.extend_eq, ← leavesOf_eq_flatMap]
    rcases hroot with rfl | rfl <;> rfl
  · intro other hother hleaves
    exact provide_congr_leaves c hchain hother hleaves h

/-- A leaf that writes its name down each time it is asked. -/
def signingIn (name : String) (answer : Answer) : Provider (List String) :=
  .foreign name fun names => (answer, names ++ [name])

/-- Additions of leaves of each kind, two of them in a chain of their own. -/
def mixedAdditions : List (Chain.Addition (List String)) := [
  .back (.chain [signingIn "failing" (.error (.unexpected "down")),
    signingIn "blank" (.ok (some ⟨"", "apikey"⟩))]),
  .back (signingIn "second" (.ok (some ⟨"uuid", "apikey"⟩))),
  .back (signingIn "third" (.ok (some ⟨"other", "apikey"⟩))),
  .front (signingIn "nothing" (.ok none))]

def mixed : Provider (List String) := .layered (Chain.extend [] mixedAdditions)

/-- A host on which no leaf has been asked. -/
def quietHost : Host (List String) := ⟨[], none, [], fun _ => 0, fun _ _ => [], 0, 0, [], []⟩

theorem provide_first_valid_mixed : mixed = .layered (Chain.extend [] mixedAdditions) ∧
    (calls .bare mixed quietHost).map Call.leaf <+: mixed.leaves ∧
    (provide .bare mixed quietHost).1 = .ok (some ⟨"uuid", "apikey"⟩) ∧
    (provide .bare mixed quietHost).2.foreign = ["nothing", "failing", "blank", "second"] := by
  have hroot : mixed = .chain (Chain.extend [] mixedAdditions) ∨
      mixed = .layered (Chain.extend [] mixedAdditions) := Or.inr rfl
  obtain ⟨-, hasked, -, -, -⟩ := provide_first_valid .bare quietHost [] mixedAdditions hroot
  exact ⟨rfl, hasked, rfl, rfl⟩

end Provider

end MacAccess
