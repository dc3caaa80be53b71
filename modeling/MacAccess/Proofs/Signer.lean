import MacAccess.Signer
import MacAccess.Proofs.Signing

/-!
# Signers fail closed

Whatever a provider answers, a signer either signs the request or leaves it as it was, and the
failure is then one of those by which a caller knows that nothing was sent. The failure of a
provider, of any kind, is only the cause of such a failure. The provider is any function of the
host, so this holds for those of the library and for all others.
-/

namespace MacAccess.Signer

variable {σ : Type} (ask : Host σ → Answer × Host σ) (context : Context) (h : Host σ)

/-- Whether an outcome is the request signed, or the request as it was with a failure by which
nothing was sent. -/
def IsClosed (r : Http.Request) (outcome : Outcome) : Prop :=
  outcome.verdict = .ok () ∨
    ∃ f, outcome = Signing.refused r f ∧ f.isSigningFailure = true

theorem isClosed_refused (r : Http.Request) {f : Failure} (hf : f.isSigningFailure = true) :
    IsClosed r (Signing.refused r f) := Or.inr ⟨f, rfl, hf⟩

/-- Signing with a given credential is closed, -/
theorem isClosed_run_sign (r : Http.Request) (credential? : Option Credential) :
    IsClosed r ((MacAccess.sign r credential?).run ask context h).1 := by
  rw [Signing.Attempt.run_sign]
  rcases (Signing.Attempt.on context h r credential?).accepted_or_refused with
    ⟨c, canonical, haccepted⟩ | ⟨q, -, hrefused⟩
  · rw [haccepted.outcome_eq]
    exact Or.inl rfl
  · rw [hrefused]
    exact isClosed_refused r (Signing.Attempt.isSigningFailure_failure _ q)

/-! ## What the provider answers -/

theorem run_sign_of_failure (r : Http.Request) {f : Failure} {after : Host σ}
    (hask : ask h = (.error f, after)) :
    (sign r).run ask context h = (Signing.refused r (loadingFailed.because f), after) := by
  rw [sign, Script.run_askCredential, hask]
  rfl

theorem run_sign_of_none (r : Http.Request) {after : Host σ} (hask : ask h = (.ok none, after)) :
    (sign r).run ask context h = (Signing.refused r notConfigured, after) := by
  rw [sign, Script.run_askCredential, hask]
  rfl

theorem run_sign_of_credential (r : Http.Request) {c : Credential} {after : Host σ}
    (hask : ask h = (.ok (some c), after)) :
    (sign r).run ask context h = (MacAccess.sign r (some c)).run ask context after := by
  rw [sign, Script.run_askCredential, hask]

/-- and so is signing with whatever the provider answers. -/
theorem isClosed_run (r : Http.Request) : IsClosed r ((sign r).run ask context h).1 := by
  cases hask : ask h with
  | mk answer after =>
      rcases answer with f | (_ | c)
      · rw [run_sign_of_failure ask context h r hask]
        exact isClosed_refused r rfl
      · rw [run_sign_of_none ask context h r hask]
        exact isClosed_refused r rfl
      · rw [run_sign_of_credential ask context h r hask]
        exact isClosed_run_sign ask context after r (some c)

/-! ## Signed copies -/

/-- A signed copy is the copy that was signed, with the same body. -/
theorem run_signed (m : Http.Message) :
    (signed m).run ask context h =
      ((((sign m.head).run ask context h).1.verdict.map fun _ =>
          ⟨((sign m.head).run ask context h).1.request, m.body⟩),
        ((sign m.head).run ask context h).2) := by
  rw [signed, Script.run_map]

/-- **A signer fails closed.** It signs the request, or reports a failure by which nothing was sent
and leaves the request as it was. The failure of the provider is wrapped, with its own causes behind
it; no credential is a failure without causes; and with a credential the signer does what signing
with this credential does. A signed copy of a message, which is a value and stays as it was, is what
signing its head in place gives, with the same body and the same effect on the host. -/
theorem sign_fails_closed (r : Http.Request) (m : Http.Message) :
    (((sign r).run ask context h).1.verdict = .ok () ∨
      ∃ f, ((sign r).run ask context h).1 = ⟨r, .error f⟩ ∧ f.isSigningFailure = true) ∧
    (match ask h with
      | (.error cause, after) =>
        ∃ f, (sign r).run ask context h = (⟨r, .error f⟩, after) ∧
          f.kind = .credentialUnavailable ∧
          f.causes = .complaint cause.toComplaint :: cause.causes
      | (.ok none, after) =>
        ∃ f, (sign r).run ask context h = (⟨r, .error f⟩, after) ∧
          f.kind = .credentialUnavailable ∧ f.causes = []
      | (.ok (some c), after) =>
        (sign r).run ask context h = (MacAccess.sign r (some c)).run ask context after) ∧
    (match (sign m.head).run ask context h with
      | (⟨head, .ok ()⟩, after) =>
        (signed m).run ask context h = (.ok ⟨head, m.body⟩, after)
      | (⟨_, .error f⟩, after) => (signed m).run ask context h = (.error f, after)) := by
  refine ⟨isClosed_run ask context h r, ?_, ?_⟩
  · cases hask : ask h with
    | mk answer after =>
        rcases answer with cause | (_ | c)
        · exact ⟨_, run_sign_of_failure ask context h r hask, rfl, rfl⟩
        · exact ⟨_, run_sign_of_none ask context h r hask, rfl, rfl⟩
        · exact run_sign_of_credential ask context h r hask
  · rw [run_signed]
    rcases (sign m.head).run ask context h with ⟨⟨head, _ | ⟨⟩⟩, after⟩ <;> rfl

end MacAccess.Signer
