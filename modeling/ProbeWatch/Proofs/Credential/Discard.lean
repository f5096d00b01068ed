import ProbeWatch.Proofs.Credential.Agreement

/-!
# What a resolution discards

A resolution goes by the first text that it can read under its two keys.  It leaves storage alone
if that text is an API key or if there is none, and otherwise it removes what is under both keys
without a look at the other one, so a key is lost that is stored beside a malformed text.
-/

namespace ProbeWatch

/-- What is under the other keys stays where it is, and a key is emptied if it can be. -/
theorem MemoryStore.get?_remove (store : MemoryStore) (key other : String) :
    Dict.get? other (KeyValueStore.remove store key).1.entries =
      if other = key ∧ store.isFailing "remove" key = false then none
      else Dict.get? other store.entries := by
  change Dict.get? other (store.remove key).1.entries = _
  rw [remove]
  cases store.isFailing "remove" key with
  | true => simp
  | false =>
      by_cases same : other = key
      · simp [same]
      · simp [same, Dict.get?_erase_of_ne same]

theorem MemoryStore.isFailing_remove (store : MemoryStore) (key operation other : String) :
    (KeyValueStore.remove store key).1.isFailing operation other =
      store.isFailing operation other := by
  change (store.remove key).1.isFailing operation other = _
  rw [remove]
  split <;> rfl

namespace CredentialStore

/-! ## Storage after a call -/

section

variable {σ : Type} [KeyValueStore σ]

/-- The text under a key that a call gets to see, if the key can be read and holds one. -/
def seenText (storage : σ) (key : String) : Option String :=
  match KeyValueStore.get storage key with
  | .ok held => held.filter (!·.isEmpty)
  | .error _ => none

/-- The first text that a resolution gets to see. -/
def firstSeen (storage : σ) : Option String :=
  (seenText storage currentKey).or (seenText storage legacyKey)

/-- Whether a text is there that is no API key. -/
def isMalformed (seen : Option String) : Bool := seen.any (!isApiKey ·)

/-- Storage after the removal of both keys. -/
def emptied (storage : σ) : σ :=
  (KeyValueStore.remove (KeyValueStore.remove storage currentKey).1 legacyKey).1

/-- What a call leaves in storage, told from what is left of it. -/
def Call.leaves (storage : σ) : Call → σ
  | .readCurrent => if isMalformed (firstSeen storage) then emptied storage else storage
  | .readLegacy => if isMalformed (seenText storage legacyKey) then emptied storage else storage
  | .removeCurrent _ => emptied storage
  | .removeLegacy _ => (KeyValueStore.remove storage legacyKey).1
  | .write key => (KeyValueStore.set storage currentKey key).1
  | .fallBack | .publish .. | .done _ => storage

theorem readKey_fst (storage : σ) (key : String) :
    (readKey storage key).1 = seenText storage key := by
  rw [readKey, seenText]
  cases KeyValueStore.get storage key with
  | error failure => rfl
  | ok held =>
      cases held with
      | none => rfl
      | some text => cases empty : text.isEmpty <;> simp [Option.filter_some, empty]

theorem leaves_settle (storage : σ) (stored : Option String) :
    (settle stored).1.leaves storage =
      if isMalformed stored then emptied storage else storage := by
  cases stored with
  | none => rfl
  | some text => cases valid : isApiKey text <;> simp [settle, isMalformed, Call.leaves, valid]

/-- A step leaves to the rest of the call what was told of the whole. -/
theorem leaves_step (environment : Option String) (desk : Desk σ) (call : Call) :
    (step environment desk call).1.leaves (step environment desk call).2.storage =
      call.leaves desk.storage := by
  cases call with
  | readCurrent =>
      simp only [step, readKey_fst]
      cases seen : seenText desk.storage currentKey with
      | none => simp [Call.leaves, firstSeen, seen]
      | some text =>
          have first : firstSeen desk.storage = some text := by simp [firstSeen, seen]
          rw [Call.leaves, first]
          exact leaves_settle desk.storage (some text)
  | readLegacy =>
      simp only [step, readKey_fst]
      exact leaves_settle desk.storage _
  | removeLegacy resolving => cases resolving <;> rfl
  | _ => rfl

theorem storage_of_run (environment : Option String) (call : Call) (desk : Desk σ) :
    (run environment call desk).2.storage = call.leaves desk.storage := by
  fun_induction run environment call desk with
  | case1 call desk finished =>
      cases call with
      | done credential => rfl
      | _ => cases finished
  | case2 call desk unfinished next ih => exact ih.trans (leaves_step environment desk call)

end

/-! ## Keys that are lost -/

theorem get?_emptied (store : MemoryStore) (key : String) :
    Dict.get? key (emptied store).entries =
      if key ∈ [currentKey, legacyKey] ∧ store.isFailing "remove" key = false then none
      else Dict.get? key store.entries := by
  rw [emptied, MemoryStore.get?_remove, MemoryStore.get?_remove, MemoryStore.isFailing_remove]
  have different : currentKey ≠ legacyKey := by decide
  by_cases current : key = currentKey
  · subst current
    simp [different]
  · by_cases legacy : key = legacyKey
    · subst legacy
      simp [different.symm]
    · simp [current, legacy]

/-- Whatever is in storage, and whichever readings and removals fail, a resolution takes away what
is under its two keys, as far as it can be removed, if the first text that it could read is no API
key, and it changes nothing else.  So an API key stays exactly if it cannot be removed, or if the
first text that could be read is an API key as well. -/
theorem key_stays_iff (environment : Option String) (desk : Desk MemoryStore) :
    let after := (run environment resolve desk).2.storage
    (∀ key, Dict.get? key after.entries =
        if isMalformed (firstSeen desk.storage) = true ∧ key ∈ [currentKey, legacyKey] ∧
          desk.storage.isFailing "remove" key = false then none
        else Dict.get? key desk.storage.entries) ∧
      ∀ key ∈ [currentKey, legacyKey], ∀ text,
        Dict.get? key desk.storage.entries = some text → isApiKey text = true →
          (Dict.get? key after.entries = some text ↔
            desk.storage.isFailing "remove" key = true ∨
              ∀ seen, firstSeen desk.storage = some seen → isApiKey seen = true) := by
  intro after
  have left (key : String) : Dict.get? key after.entries =
      if isMalformed (firstSeen desk.storage) = true ∧ key ∈ [currentKey, legacyKey] ∧
        desk.storage.isFailing "remove" key = false then none
      else Dict.get? key desk.storage.entries := by
    have told : after = resolve.leaves desk.storage := storage_of_run environment resolve desk
    rw [told, resolve, Call.leaves]
    cases isMalformed (firstSeen desk.storage) with
    | false => simp
    | true => simpa using get?_emptied desk.storage key
  refine ⟨left, fun key own text held valid => ?_⟩
  rw [left, held]
  have goodOrNone : isMalformed (firstSeen desk.storage) = false ↔
      ∀ seen, firstSeen desk.storage = some seen → isApiKey seen = true := by
    cases firstSeen desk.storage <;> simp [isMalformed]
  rw [← goodOrNone]
  cases isMalformed (firstSeen desk.storage) <;> cases desk.storage.isFailing "remove" key <;>
    simp [own]

/-- A key stays that is read first, with a malformed text where earlier versions kept theirs. -/
theorem key_before_malformed_text_stays :
    let key := String.ofList (List.replicate 64 'a')
    let desk : Desk MemoryStore :=
      ⟨⟨[(currentKey, key), (legacyKey, "garbage")], []⟩, .absent, []⟩
    currentKey ∈ [currentKey, legacyKey] ∧
      Dict.get? currentKey desk.storage.entries = some key ∧ isApiKey key = true ∧
      Dict.get? currentKey (run none resolve desk).2.storage.entries = some key := by
  intro key desk
  have own : currentKey ∈ [currentKey, legacyKey] := List.mem_cons_self
  have held : Dict.get? currentKey desk.storage.entries = some key := by decide +kernel
  have valid : isApiKey key = true := by decide +kernel
  have first : firstSeen desk.storage = some key := by decide +kernel
  refine ⟨own, held, valid, ((key_stays_iff none desk).2 currentKey own key held valid).mpr ?_⟩
  refine .inr fun seen found => ?_
  rwa [← Option.some.inj (first.symm.trans found)]

/-- A key is lost where earlier versions kept it if the text under the current key is malformed, and
under the current key if that cannot be read and the other text is malformed. -/
theorem key_beside_malformed_text_is_lost :
    let key := String.ofList (List.replicate 64 'a')
    let behind : Desk MemoryStore :=
      ⟨⟨[(currentKey, "garbage"), (legacyKey, key)], []⟩, .absent, []⟩
    let unread : Desk MemoryStore :=
      ⟨⟨[(currentKey, key), (legacyKey, "garbage")], ["get:DNSLOG_API_KEY"]⟩, .absent, []⟩
    isApiKey key = true ∧
      Dict.get? legacyKey behind.storage.entries = some key ∧
      Dict.get? legacyKey (run none resolve behind).2.storage.entries = none ∧
      Dict.get? currentKey unread.storage.entries = some key ∧
      Dict.get? currentKey (run none resolve unread).2.storage.entries = none := by
  decide +kernel

end CredentialStore
end ProbeWatch
