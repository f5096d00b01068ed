import ProbeWatch.Proofs.Credential.Store
import ProbeWatch.Proofs.Store.Faithful

/-!
# Agreement of memory and storage

As long as no storage operation fails, the credential in effect after a call is the one that
storage holds, and a later resolution arrives at it again.  What a call comes to is told ahead from
the texts in storage, and every step keeps to what was told.
-/

namespace ProbeWatch

open KeyValueStore (Lawful)

namespace CredentialStore

/-! ## Texts in storage -/

/-- The text under a key, unless it is empty. -/
def heldText (texts : String → Option String) (key : String) : Option String :=
  (texts key).filter (!·.isEmpty)

/-- The first text that is not empty, under the current key and then under the legacy key. -/
def firstText (texts : String → Option String) : Option String :=
  (heldText texts currentKey).or (heldText texts legacyKey)

/-- The texts without those under the two keys. -/
def cleared (texts : String → Option String) : String → Option String :=
  Function.update (Function.update texts currentKey none) legacyKey none

theorem firstText_cleared (texts : String → Option String) : firstText (cleared texts) = none := by
  have different : currentKey ≠ legacyKey := by decide
  simp [firstText, heldText, cleared, different]

theorem ne_empty_of_isApiKey {key : String} (valid : isApiKey key = true) : key.isEmpty = false := by
  rw [isApiKey, Bool.and_eq_true, beq_iff_eq] at valid
  rw [Bool.eq_false_iff, ne_eq, String.isEmpty_iff]
  rintro rfl
  cases valid.1

theorem firstText_update {key : String} (valid : isApiKey key = true)
    (texts : String → Option String) :
    firstText (Function.update texts currentKey (some key)) = some key := by
  simp [firstText, heldText, ne_empty_of_isApiKey valid]

theorem firstText_eq_none_iff {texts : String → Option String} :
    firstText texts = none ↔
      ∀ key ∈ [currentKey, legacyKey], ∀ text, texts key = some text → text = "" := by
  simp [firstText, heldText, Option.filter_eq_none_iff]

/-! ## What a call comes to -/

/-- The credential that a resolution arrives at, and the texts that it leaves. -/
def settled (environment : Option String) (texts : String → Option String)
    (stored : Option String) : Credential × (String → Option String) :=
  match stored with
  | none => ((fromEnvironment environment).1, texts)
  | some key =>
      if isApiKey key then (⟨key, .stored⟩, texts)
      else ((fromEnvironment environment).1, cleared texts)

/-- What is published when both keys are removed. -/
def afterRemoval (environment : Option String) (resolving : Bool) : Credential :=
  if resolving then (fromEnvironment environment).1 else .absent

/-- The credential that a call returns and the texts that it leaves, if no storage operation
fails. -/
def Call.foreseen (environment : Option String) (texts : String → Option String) :
    Call → Credential × (String → Option String)
  | .readCurrent => settled environment texts (firstText texts)
  | .readLegacy => settled environment texts (heldText texts legacyKey)
  | .removeCurrent resolving => (afterRemoval environment resolving, cleared texts)
  | .removeLegacy resolving =>
      (afterRemoval environment resolving, Function.update texts legacyKey none)
  | .write key => (⟨key, .stored⟩, Function.update texts currentKey (some key))
  | .fallBack => ((fromEnvironment environment).1, texts)
  | .publish credential _ => (credential, texts)
  | .done credential => (credential, texts)

theorem foreseen_settle (environment : Option String) (texts : String → Option String)
    (stored : Option String) :
    (settle stored).1.foreseen environment texts = settled environment texts stored := by
  cases stored with
  | none => rfl
  | some key =>
      rw [settle, settled]
      split <;> rfl

variable {σ : Type} [KeyValueStore σ]

/-- Whether the storage operation of a step succeeds, if there is one. -/
def Call.Succeeds (storage : σ) : Call → Prop
  | .readCurrent => ∃ found, KeyValueStore.get storage currentKey = .ok found
  | .readLegacy => ∃ found, KeyValueStore.get storage legacyKey = .ok found
  | .removeCurrent _ => (KeyValueStore.remove storage currentKey).2 = .ok ()
  | .removeLegacy _ => (KeyValueStore.remove storage legacyKey).2 = .ok ()
  | .write key => (KeyValueStore.set storage currentKey key).2 = .ok ()
  | .fallBack | .publish .. | .done _ => True

/-- Whether no storage operation fails when a call is run to its end. -/
inductive Smooth (environment : Option String) : Call → Desk σ → Prop
  /-- The call is over. -/
  | done (credential : Credential) (desk : Desk σ) : Smooth environment (.done credential) desk
  /-- The next step succeeds, and so does what is left. -/
  | step {call : Call} {desk : Desk σ} (unfinished : call.rank ≠ 0)
      (succeeds : call.Succeeds desk.storage)
      (rest : Smooth environment (step environment desk call).1 (step environment desk call).2) :
      Smooth environment call desk

section

variable {text? : σ → String → Option String}

theorem readKey_of_lawful (lawful : Lawful text?) {storage : σ} {key : String}
    (succeeds : ∃ found, KeyValueStore.get storage key = .ok found) :
    readKey storage key = (heldText (text? storage) key, []) := by
  obtain ⟨found, answered⟩ := succeeds
  rw [readKey, answered, heldText, lawful.get answered]
  cases found with
  | none => rfl
  | some value => cases empty : value.isEmpty <;> simp [Option.filter_some, empty]

theorem text?_removeKey (lawful : Lawful text?) {desk : Desk σ} {key : String}
    (succeeds : (KeyValueStore.remove desk.storage key).2 = .ok ()) :
    text? (removeKey desk key).storage = Function.update (text? desk.storage) key none :=
  lawful.remove (Prod.ext rfl succeeds)

/-- A step whose storage operation succeeds keeps to what was told of the call. -/
theorem foreseen_step (lawful : Lawful text?) (environment : Option String) {desk : Desk σ}
    {call : Call} (succeeds : call.Succeeds desk.storage) :
    (step environment desk call).1.foreseen environment
        (text? (step environment desk call).2.storage) =
      call.foreseen environment (text? desk.storage) := by
  cases call with
  | readCurrent =>
      simp only [step, readKey_of_lawful lawful succeeds]
      cases found : heldText (text? desk.storage) currentKey with
      | none => simp [Call.foreseen, firstText, found]
      | some key =>
          have first : firstText (text? desk.storage) = some key := by simp [firstText, found]
          rw [Call.foreseen, first]
          exact foreseen_settle environment _ (some key)
  | readLegacy =>
      simp only [step, readKey_of_lawful lawful succeeds]
      exact foreseen_settle environment _ _
  | removeCurrent resolving =>
      simp only [step, Call.foreseen, text?_removeKey lawful succeeds]
      rfl
  | removeLegacy resolving =>
      simp only [step, text?_removeKey lawful succeeds]
      cases resolving <;> rfl
  | write key =>
      have put : text? (KeyValueStore.set desk.storage currentKey key).1 = _ :=
        lawful.set (Prod.ext rfl succeeds)
      simp only [step, Call.foreseen, put]
  | fallBack => rfl
  | publish credential resolving => rfl
  | done credential => rfl

theorem run_of_smooth (lawful : Lawful text?) {environment : Option String} {call : Call}
    {desk : Desk σ} (smooth : Smooth environment call desk) :
    ((run environment call desk).1, text? (run environment call desk).2.storage) =
      call.foreseen environment (text? desk.storage) := by
  induction smooth with
  | done credential desk =>
      rw [run_of_rank_eq_zero environment rfl]
      rfl
  | step unfinished succeeds rest ih =>
      rw [run_of_rank_ne_zero environment unfinished, ih]
      exact foreseen_step lawful environment succeeds

end

theorem published_step (environment : Option String) (desk : Desk σ) {call : Call}
    (unfinished : call.rank ≠ 0) (ended : (step environment desk call).1.rank = 0) :
    (step environment desk call).2.published = (step environment desk call).1.result := by
  have settles (stored : Option String) : (settle stored).1.rank ≠ 0 := by
    cases stored with
    | none => simp [settle, Call.rank]
    | some key =>
        rw [settle]
        split <;> simp [Call.rank]
  cases call with
  | readCurrent =>
      simp only [step] at ended
      split at ended
      · exact absurd ended (settles _)
      · cases ended
  | readLegacy => exact absurd ended (settles _)
  | removeCurrent resolving => cases ended
  | removeLegacy resolving => cases resolving <;> cases ended
  | write key => cases ended
  | fallBack => rfl
  | publish credential resolving => rfl
  | done credential => exact absurd rfl unfinished

theorem published_run (environment : Option String) {call : Call} {desk : Desk σ}
    (finished : call.rank = 0 → desk.published = call.result) :
    (run environment call desk).2.published = (run environment call desk).1 := by
  fun_induction run environment call desk with
  | case1 call desk ended => exact finished ended
  | case2 call desk unfinished next ih =>
      exact ih (published_step environment desk unfinished)

/-! ## Operations -/

/-- What is asked of the credential store. -/
inductive Operation
  /-- The credential is resolved. -/
  | resolve
  /-- The user enters a key. -/
  | set (raw : String)
  /-- The user removes the key. -/
  | clear

/-- The call that an operation makes. -/
def Operation.call : Operation → Call
  | .resolve => CredentialStore.resolve
  | .set raw => (CredentialStore.set raw).1
  | .clear => CredentialStore.clear

/-- Carries out operations one after the other. -/
def perform (environment : Option String) : List Operation → Desk σ → Desk σ
  | [], desk => desk
  | operation :: rest, desk => perform environment rest (run environment operation.call desk).2

/-- Whether no storage operation fails when operations are carried out one after the other. -/
def Smoothly (environment : Option String) : List Operation → Desk σ → Prop
  | [], _ => True
  | operation :: rest, desk =>
      Smooth environment operation.call desk ∧
        Smoothly environment rest (run environment operation.call desk).2

/-- Whether a credential is the API key that is found among the texts, or none of them is found and
the credential is no stored one. -/
def Agree (credential : Credential) (texts : String → Option String) : Prop :=
  match firstText texts with
  | some key => isApiKey key = true ∧ credential = ⟨key, .stored⟩
  | none => credential.source ≠ .stored

theorem source_fromEnvironment (environment : Option String) :
    (fromEnvironment environment).1.source ≠ .stored := by
  rw [fromEnvironment]
  split
  · simp [Credential.absent]
  · split
    · simp
    · split <;> simp [Credential.absent]

theorem agree_settled (environment : Option String) (texts : String → Option String) :
    Agree (settled environment texts (firstText texts)).1
      (settled environment texts (firstText texts)).2 := by
  cases found : firstText texts with
  | none =>
      simp only [settled, Agree, found]
      exact source_fromEnvironment environment
  | some key =>
      rw [settled]
      by_cases valid : isApiKey key = true
      · simp only [if_pos valid, Agree, found]
        exact ⟨valid, trivial⟩
      · simp only [if_neg valid, Agree, firstText_cleared]
        exact source_fromEnvironment environment

/-- Every operation leads to agreement, whatever was in storage before. -/
theorem agree_foreseen (environment : Option String) (texts : String → Option String)
    (operation : Operation) :
    Agree (operation.call.foreseen environment texts).1
      (operation.call.foreseen environment texts).2 := by
  have forgotten : Agree (clear.foreseen environment texts).1
      (clear.foreseen environment texts).2 := by
    simp [clear, Call.foreseen, Agree, firstText_cleared, afterRemoval, Credential.absent]
  cases operation with
  | resolve => exact agree_settled environment texts
  | clear => exact forgotten
  | set raw =>
      rw [Operation.call, set]
      by_cases valid : isApiKey (Text.trim raw) = true
      · simp only [if_pos valid, Call.foreseen, Agree, firstText_update valid]
        exact ⟨valid, trivial⟩
      · rw [if_neg valid, ← apply_ite (Prod.mk clear)]
        exact forgotten

/-! ## Agreement -/

theorem Agree.stored_iff {credential : Credential} {texts : String → Option String}
    (agree : Agree credential texts) (value : String) :
    credential = ⟨value, .stored⟩ ↔ firstText texts = some value := by
  rw [Agree] at agree
  split at agree
  · rename_i key found
    rw [agree.2, found]
    simp
  · rename_i missing
    rw [missing]
    simp only [reduceCtorEq, iff_false]
    rintro rfl
    exact agree rfl

theorem Agree.settled_iff {credential : Credential} {texts : String → Option String}
    (agree : Agree credential texts) (environment : Option String) (value : String) :
    (settled environment texts (firstText texts)).1 = ⟨value, .stored⟩ ↔
      credential = ⟨value, .stored⟩ := by
  rw [agree.stored_iff]
  cases found : firstText texts with
  | none =>
      simp only [settled, reduceCtorEq, iff_false]
      exact fun same => source_fromEnvironment environment (by rw [same])
  | some key =>
      rw [Agree, found] at agree
      simp [settled, agree.1]

/-- A second resolution comes to what the first one did. -/
theorem settled_settled (environment : Option String) (texts : String → Option String) :
    let once := settled environment texts (firstText texts)
    (settled environment once.2 (firstText once.2)).1 = once.1 := by
  cases found : firstText texts with
  | none => simp only [settled, found]
  | some key =>
      by_cases valid : isApiKey key = true
      · simp only [settled, if_pos valid, found]
      · simp only [settled, if_neg valid, firstText_cleared]

section

variable {text? : σ → String → Option String} {environment : Option String}

theorem run_resolve (lawful : Lawful text?) {desk : Desk σ}
    (smooth : Smooth environment resolve desk) :
    ((run environment resolve desk).1, text? (run environment resolve desk).2.storage) =
      settled environment (text? desk.storage) (firstText (text? desk.storage)) :=
  run_of_smooth lawful smooth

theorem agree_run (lawful : Lawful text?) (operation : Operation) {desk : Desk σ}
    (smooth : Smooth environment operation.call desk) :
    Agree (run environment operation.call desk).2.published
      (text? (run environment operation.call desk).2.storage) := by
  have came := run_of_smooth lawful smooth
  have unfinished : operation.call.rank ≠ 0 := by
    cases operation with
    | set raw =>
        simp only [Operation.call, set]
        split
        · simp [Call.rank]
        · split <;> simp [clear, Call.rank]
    | _ => simp [Operation.call, resolve, clear, Call.rank]
  rw [published_run environment fun ended => absurd ended unfinished]
  have agree := agree_foreseen environment (text? desk.storage) operation
  rwa [← came] at agree

theorem agree_perform (lawful : Lawful text?) {operations : List Operation}
    (nonempty : operations ≠ []) {desk : Desk σ} (smooth : Smoothly environment operations desk) :
    Agree (perform environment operations desk).published
      (text? (perform environment operations desk).storage) := by
  induction operations generalizing desk with
  | nil => exact absurd rfl nonempty
  | cons operation rest ih =>
      obtain ⟨first, later⟩ := smooth
      cases rest with
      | nil => exact agree_run lawful operation first
      | cons next rest => exact ih (by simp) later

end

/-- Whatever is in storage at first, and whichever operations follow without a failure of storage,
the credential in effect is a stored one exactly if it is the first text that storage holds, and
otherwise storage holds none.  A later run finds the same stored credential, and a resolution after
another one returns what the first one did. -/
theorem credential_agrees_with_storage {text? : σ → String → Option String}
    (lawful : Lawful text?) (environment : Option String) {operations : List Operation}
    (nonempty : operations ≠ []) {desk : Desk σ} (smooth : Smoothly environment operations desk) :
    let after := perform environment operations desk
    (∀ value, after.published = ⟨value, .stored⟩ ↔
        firstText (text? after.storage) = some value) ∧
      (after.published.source ≠ .stored →
        ∀ key ∈ [currentKey, legacyKey], ∀ text,
          text? after.storage key = some text → text = "") ∧
      (∀ (environment' : Option String) (restarted : Desk σ),
        restarted.storage = after.storage → Smooth environment' resolve restarted →
          ∀ value, (run environment' resolve restarted).1 = ⟨value, .stored⟩ ↔
            after.published = ⟨value, .stored⟩) ∧
      ∀ begun : Desk σ, Smooth environment resolve begun →
        let once := run environment resolve begun
        Smooth environment resolve once.2 → (run environment resolve once.2).1 = once.1 := by
  intro after
  have agree : Agree after.published (text? after.storage) := agree_perform lawful nonempty smooth
  refine ⟨agree.stored_iff, fun other => ?_, fun environment' restarted same smooth => ?_,
    fun begun first => ?_⟩
  · rw [← firstText_eq_none_iff]
    rw [Agree] at agree
    split at agree
    · exact absurd (congrArg Credential.source agree.2) other
    · assumption
  · have found := congrArg Prod.fst (run_resolve lawful smooth)
    rw [same] at found
    rw [found]
    exact agree.settled_iff environment'
  · intro once second
    have came := run_resolve lawful first
    have again := congrArg Prod.fst (run_resolve lawful second)
    have repeated := settled_settled environment (text? begun.storage)
    rw [← came] at repeated
    exact again.trans repeated

/-! ## Storage in memory -/

theorem succeeds_of_inOrder {store : MemoryStore} (inOrder : store.failing = []) (call : Call) :
    call.Succeeds store := by
  have works (operation key : String) : store.isFailing operation key = false := by
    simp [MemoryStore.isFailing, inOrder]
  have get (key : String) : ∃ found, KeyValueStore.get store key = .ok found :=
    ⟨Dict.get? key store.entries, by
      change store.get key = _
      rw [MemoryStore.get, works, if_neg Bool.false_ne_true]⟩
  have remove (key : String) : (KeyValueStore.remove store key).2 = .ok () := by
    change (store.remove key).2 = _
    rw [MemoryStore.remove, works, if_neg Bool.false_ne_true]
  cases call with
  | readCurrent => exact get currentKey
  | readLegacy => exact get legacyKey
  | removeCurrent resolving => exact remove currentKey
  | removeLegacy resolving => exact remove legacyKey
  | write key =>
      change (store.set currentKey key).2 = _
      rw [MemoryStore.set, works, if_neg Bool.false_ne_true]
  | _ => trivial

theorem failing_step (environment : Option String) (desk : Desk MemoryStore) (call : Call) :
    (step environment desk call).2.storage.failing = desk.storage.failing := by
  have remove (key : String) : (removeKey desk key).storage.failing = desk.storage.failing := by
    change (desk.storage.remove key).1.failing = _
    rw [MemoryStore.remove]
    split <;> rfl
  cases call with
  | removeCurrent resolving => exact remove currentKey
  | removeLegacy resolving => exact remove legacyKey
  | write key =>
      change (desk.storage.set currentKey key).1.failing = _
      rw [MemoryStore.set]
      split <;> rfl
  | _ => rfl

theorem smooth_of_inOrder (environment : Option String) {call : Call} {desk : Desk MemoryStore}
    (inOrder : desk.storage.failing = []) :
    Smooth environment call desk ∧ (run environment call desk).2.storage.failing = [] := by
  fun_induction run environment call desk with
  | case1 call desk ended =>
      refine ⟨?_, inOrder⟩
      cases call with
      | done credential => exact .done credential desk
      | _ => cases ended
  | case2 call desk unfinished next ih =>
      obtain ⟨rest, later⟩ := ih ((failing_step environment desk call).trans inOrder)
      exact ⟨.step unfinished (succeeds_of_inOrder inOrder call) rest, later⟩

theorem smoothly_of_inOrder (environment : Option String) (operations : List Operation)
    {desk : Desk MemoryStore} (inOrder : desk.storage.failing = []) :
    Smoothly environment operations desk := by
  induction operations generalizing desk with
  | nil => trivial
  | cons operation rest ih =>
      obtain ⟨smooth, later⟩ := smooth_of_inOrder environment inOrder
      exact ⟨smooth, ih later⟩

/-- A desk whose storage holds a text that is no key, with a key of earlier versions behind it. -/
def spoiltDesk : Desk MemoryStore :=
  let key := String.ofList (List.replicate 64 'a')
  ⟨⟨[(currentKey, "garbage"), (legacyKey, key)], []⟩, .absent, []⟩

/-- The resolution removes both texts and falls back on the environment, and the key that is
entered afterwards is found again. -/
theorem credential_of_spoilt_desk :
    let entered := String.ofList (List.replicate 64 'b')
    let operations := [.resolve, .set (" " ++ entered ++ "\n"), .resolve]
    operations ≠ [] ∧ Smoothly none operations spoiltDesk ∧
      (perform none operations spoiltDesk).published = ⟨entered, .stored⟩ := by
  intro entered operations
  have smooth : Smoothly none operations spoiltDesk := smoothly_of_inOrder none operations rfl
  have agree := credential_agrees_with_storage MemoryStore.lawful none
    (List.cons_ne_nil _ _) smooth
  have found : firstText (Dict.get? · (perform none operations spoiltDesk).storage.entries) =
      some entered := by
    decide +kernel
  exact ⟨List.cons_ne_nil _ _, smooth, (agree.1 entered).mpr found⟩

end CredentialStore
end ProbeWatch
