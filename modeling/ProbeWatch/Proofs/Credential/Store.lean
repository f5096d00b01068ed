import ProbeWatch.Credential.Store

/-!
# What credential calls come to

Every credential that a call of the credential store publishes is absent or a key of the right form,
and what the call leaves in storage does not depend on the environment.
-/

namespace ProbeWatch

theorem isApiKey_iff {key : String} :
    isApiKey key = true ↔
      key.toList.length = 64 ∧ ∀ digit ∈ key.toList, Text.isHexDigit digit = true := by
  rw [isApiKey, Bool.and_eq_true, beq_iff_eq, List.all_eq_true]

/-- Whether a credential is absent or a key of sixty-four hexadecimal digits from somewhere. -/
def Credential.WellFormed (credential : Credential) : Prop :=
  credential.value = "" ∧ credential.source = .none ∨
    credential.value.toList.length = 64 ∧
      (∀ digit ∈ credential.value.toList, Text.isHexDigit digit = true) ∧
      (credential.source = .stored ∨ credential.source = .environment)

theorem Credential.wellFormed_absent : Credential.absent.WellFormed :=
  .inl ⟨rfl, rfl⟩

theorem Credential.wellFormed_of_isApiKey {key : String} (valid : isApiKey key = true)
    {source : CredentialSource} (known : source = .stored ∨ source = .environment) :
    Credential.WellFormed ⟨key, source⟩ := by
  obtain ⟨long, digits⟩ := isApiKey_iff.mp valid
  exact .inr ⟨long, digits, known⟩

namespace CredentialStore

variable {σ : Type} [KeyValueStore σ]

/-! ## Runs -/

theorem run_of_rank_eq_zero (environment : Option String) {call : Call} (finished : call.rank = 0)
    (desk : Desk σ) : run environment call desk = (call.result, desk) := by
  rw [run, dif_pos finished]

theorem run_of_rank_ne_zero (environment : Option String) {call : Call} (unfinished : call.rank ≠ 0)
    (desk : Desk σ) :
    run environment call desk =
      run environment (step environment desk call).1 (step environment desk call).2 := by
  rw [run, dif_neg unfinished]

/-! ## The form of credentials -/

/-- Whether the credential that a call carries is well-formed. -/
def Call.WellFormed : Call → Prop
  | .write key => isApiKey key = true
  | .publish credential _ => credential.WellFormed
  | .done credential => credential.WellFormed
  | _ => True

theorem wellFormed_fromEnvironment (environment : Option String) :
    (fromEnvironment environment).1.WellFormed := by
  rw [fromEnvironment]
  cases environment.map Text.trim with
  | none => exact Credential.wellFormed_absent
  | some key =>
      by_cases valid : isApiKey key = true
      · simp only [if_pos valid]
        exact Credential.wellFormed_of_isApiKey valid (.inr rfl)
      · simp only [if_neg valid]
        split <;> exact Credential.wellFormed_absent

theorem wellFormed_settle (stored : Option String) : (settle stored).1.WellFormed := by
  cases stored with
  | none => trivial
  | some key =>
      by_cases valid : isApiKey key = true
      · simp only [settle, if_pos valid]
        exact Credential.wellFormed_of_isApiKey valid (.inl rfl)
      · simp only [settle, if_neg valid]
        trivial

theorem wellFormed_resolve : resolve.WellFormed := trivial

theorem wellFormed_clear : clear.WellFormed := trivial

theorem wellFormed_of_set {raw : String} {call : Call} {log : List LogLine}
    (entered : set raw = (call, log)) : call.WellFormed := by
  simp only [set] at entered
  by_cases valid : isApiKey (Text.trim raw) = true
  · rw [if_pos valid] at entered
    cases entered
    exact valid
  · rw [if_neg valid, ← apply_ite (Prod.mk clear)] at entered
    cases entered
    exact wellFormed_clear

theorem wellFormed_step (environment : Option String) {desk : Desk σ} {call : Call}
    (inEffect : desk.published.WellFormed) (carried : call.WellFormed) :
    (step environment desk call).2.published.WellFormed ∧
      (step environment desk call).1.WellFormed := by
  cases call with
  | readCurrent =>
      refine ⟨inEffect, ?_⟩
      simp only [step]
      split
      · exact wellFormed_settle _
      · trivial
  | readLegacy => exact ⟨inEffect, wellFormed_settle _⟩
  | removeCurrent resolving => exact ⟨inEffect, trivial⟩
  | removeLegacy resolving =>
      cases resolving with
      | true => exact ⟨inEffect, trivial⟩
      | false => exact ⟨inEffect, Credential.wellFormed_absent⟩
  | write key => exact ⟨inEffect, Credential.wellFormed_of_isApiKey carried (.inl rfl)⟩
  | fallBack =>
      have supplied := wellFormed_fromEnvironment environment
      exact ⟨supplied, supplied⟩
  | publish credential resolving => exact ⟨carried, carried⟩
  | done credential => exact ⟨inEffect, carried⟩

theorem wellFormed_run (environment : Option String) {call : Call} {desk : Desk σ}
    (inEffect : desk.published.WellFormed) (carried : call.WellFormed) :
    (run environment call desk).2.published.WellFormed := by
  fun_induction run environment call desk with
  | case1 call desk finished => exact inEffect
  | case2 call desk unfinished next ih =>
      have step := wellFormed_step environment inEffect carried
      exact ih step.1 step.2

/-! ## Storage -/

/-- What a step leaves in storage, and the call that it leaves unless it falls back on the
environment, depend on the storage before it alone. -/
theorem step_of_storage_eq (environment environment' : Option String) {desk desk' : Desk σ}
    (same : desk'.storage = desk.storage) {call : Call} (other : call ≠ .fallBack) :
    (step environment' desk' call).1 = (step environment desk call).1 ∧
      (step environment' desk' call).2.storage = (step environment desk call).2.storage := by
  cases call with
  | fallBack => exact absurd rfl other
  | _ => simp [step, removeKey, Desk.publish, same]

theorem storage_run (environment environment' : Option String) (call : Call) {desk desk' : Desk σ}
    (same : desk'.storage = desk.storage) :
    (run environment' call desk').2.storage = (run environment call desk).2.storage := by
  fun_induction run environment call desk generalizing desk' with
  | case1 call desk finished =>
      rw [run_of_rank_eq_zero environment' finished]
      exact same
  | case2 call desk unfinished next =>
      rename_i ih
      rw [run_of_rank_ne_zero environment' unfinished]
      by_cases last : call = .fallBack
      · -- Only here do the two runs look at their environments, and they are done with storage.
        subst last
        rw [run_of_rank_eq_zero environment' rfl, run_of_rank_eq_zero environment rfl]
        exact same
      · have step := step_of_storage_eq environment environment' same last
        rw [step.1]
        exact ih step.2

end CredentialStore
end ProbeWatch
