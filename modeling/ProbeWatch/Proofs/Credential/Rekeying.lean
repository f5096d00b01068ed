import ProbeWatch.Proofs.Credential.Store
import ProbeWatch.Proofs.Text.Blank
import ProbeWatch.Store.Memory

/-!
# Keys replaced by others

Texts, credentials and storages that are the same but for keys in the place of others with the same
first six characters.  A call of the credential store goes the same way on both of two such
storages, and nothing that it says tells one from the other.
-/

namespace ProbeWatch

/-! ## Texts -/

/-- Whether two texts are the same but for API keys in them, each of which has the same first six
characters as the one in its place. -/
inductive Rekeyed : List Char → List Char → Prop
  | nil : Rekeyed [] []
  | same (c : Char) {left right : List Char} : Rekeyed left right → Rekeyed (c :: left) (c :: right)
  | key {key other : String} (valid : isApiKey key = true) (otherValid : isApiKey other = true)
      (alike : other.toList.take 6 = key.toList.take 6) {left right : List Char} :
      Rekeyed left right → Rekeyed (key.toList ++ left) (other.toList ++ right)

theorem isBlank_of_isApiKey {key : String} (valid : isApiKey key = true) :
    ∀ c ∈ key.toList, Text.isBlank c = false :=
  fun c among => Text.isBlank_of_isHexDigit ((isApiKey_iff.mp valid).2 c among)

theorem utf8ByteSize_of_digits {digits : List Char}
    (hex : ∀ digit ∈ digits, Text.isHexDigit digit = true) :
    (String.ofList digits).utf8ByteSize = digits.length := by
  induction digits with
  | nil => rfl
  | cons digit rest ih =>
      obtain ⟨first, later⟩ := List.forall_mem_cons.mp hex
      have ascii : digit.toNat ≤ 127 := Nat.le_trans (Text.toNat_of_isHexDigit first).2 (by decide)
      have single : digit.utf8Size = 1 :=
        Char.utf8Size_eq_one_iff.mpr (UInt32.le_iff_toNat_le.mpr ascii)
      rw [String.ofList_cons, String.utf8ByteSize_append, String.utf8ByteSize_singleton, single,
        ih later, List.length_cons, Nat.add_comm]

theorem utf8ByteSize_of_isApiKey {key : String} (valid : isApiKey key = true) :
    key.utf8ByteSize = 64 := by
  obtain ⟨long, digits⟩ := isApiKey_iff.mp valid
  rw [← String.ofList_toList (s := key), utf8ByteSize_of_digits digits, long]

namespace Rekeyed

variable {left right : List Char}

theorem refl (text : List Char) : Rekeyed text text := by
  induction text with
  | nil => exact .nil
  | cons c rest ih => exact .same c ih

theorem append (rekeyed : Rekeyed left right) {left' right' : List Char}
    (rest : Rekeyed left' right') : Rekeyed (left ++ left') (right ++ right') := by
  induction rekeyed with
  | nil => exact rest
  | same c _ ih => exact .same c ih
  | key valid otherValid alike _ ih =>
      rw [List.append_assoc, List.append_assoc]
      exact .key valid otherValid alike ih

theorem length_eq (rekeyed : Rekeyed left right) : right.length = left.length := by
  induction rekeyed with
  | nil => rfl
  | same c _ ih => simp [ih]
  | key valid otherValid _ _ ih =>
      simp [ih, (isApiKey_iff.mp valid).1, (isApiKey_iff.mp otherValid).1]

theorem eq_nil_iff (rekeyed : Rekeyed left right) : right = [] ↔ left = [] := by
  rw [← List.length_eq_zero_iff, rekeyed.length_eq, List.length_eq_zero_iff]

theorem take_eq (rekeyed : Rekeyed left right) {count : Nat} (few : count ≤ 6) :
    right.take count = left.take count := by
  induction rekeyed generalizing count with
  | nil => rfl
  | same c _ ih =>
      cases count with
      | zero => rfl
      | succ count => rw [List.take_succ_cons, List.take_succ_cons, ih (by omega)]
  | @key key other valid otherValid alike left right _ ih =>
      have long := (isApiKey_iff.mp valid).1
      have otherLong := (isApiKey_iff.mp otherValid).1
      have fewer := congrArg (List.take count) alike
      rw [List.take_take, List.take_take, Nat.min_eq_left few] at fewer
      rw [List.take_append_of_le_length (by omega), List.take_append_of_le_length (by omega), fewer]

theorem all_isHexDigit (rekeyed : Rekeyed left right) :
    right.all Text.isHexDigit = left.all Text.isHexDigit := by
  induction rekeyed with
  | nil => rfl
  | same c _ ih => rw [List.all_cons, List.all_cons, ih]
  | key valid otherValid _ _ ih =>
      have digits := List.all_eq_true.mpr (isApiKey_iff.mp valid).2
      have otherDigits := List.all_eq_true.mpr (isApiKey_iff.mp otherValid).2
      rw [List.all_append, List.all_append, digits, otherDigits, ih]

theorem utf8ByteSize_eq (rekeyed : Rekeyed left right) :
    (String.ofList right).utf8ByteSize = (String.ofList left).utf8ByteSize := by
  induction rekeyed with
  | nil => rfl
  | same c _ ih => simp only [String.ofList_cons, String.utf8ByteSize_append, ih]
  | key valid otherValid _ _ ih =>
      simp only [String.ofList_append, String.ofList_toList, String.utf8ByteSize_append, ih,
        utf8ByteSize_of_isApiKey valid, utf8ByteSize_of_isApiKey otherValid]

/-- A key has no blanks, so it stays where the blanks before it go. -/
theorem trimStart (rekeyed : Rekeyed left right) :
    Rekeyed (Text.trimStart left) (Text.trimStart right) := by
  induction rekeyed with
  | nil => exact .nil
  | same c rest ih =>
      rw [Text.trimStart, Text.trimStart, List.dropWhile_cons, List.dropWhile_cons]
      split
      · exact ih
      · exact .same c rest
  | key valid otherValid alike rest _ =>
      have stays {key : String} (valid : isApiKey key = true) (text : List Char) :
          Text.trimStart (key.toList ++ text) = key.toList ++ text := by
        have long := (isApiKey_iff.mp valid).1
        rw [Text.trimStart, List.dropWhile_eq_self_iff]
        intro filled
        rw [List.getElem_append_left (by omega),
          isBlank_of_isApiKey valid _ (List.getElem_mem _)]
        exact Bool.false_ne_true
      rw [stays valid, stays otherValid]
      exact .key valid otherValid alike rest

theorem dropEndWhile_isBlank (rekeyed : Rekeyed left right) :
    Rekeyed (Text.dropEndWhile Text.isBlank left) (Text.dropEndWhile Text.isBlank right) := by
  induction rekeyed with
  | nil => exact .nil
  | @same c left right _ ih =>
      change Rekeyed (Text.dropEndWhile Text.isBlank ([c] ++ left))
        (Text.dropEndWhile Text.isBlank ([c] ++ right))
      simp only [Text.dropEndWhile_append, ih.eq_nil_iff]
      split
      · exact .refl _
      · exact .same c ih
  | key valid otherValid alike _ ih =>
      rw [Text.dropEndWhile_append_of_forall (isBlank_of_isApiKey valid),
        Text.dropEndWhile_append_of_forall (isBlank_of_isApiKey otherValid)]
      exact .key valid otherValid alike ih

end Rekeyed

/-- Whether two texts are the same but for keys with the same first six characters. -/
def RekeyedText (left right : String) : Prop := Rekeyed left.toList right.toList

namespace RekeyedText

variable {left right : String}

theorem refl (text : String) : RekeyedText text text := Rekeyed.refl _

theorem of_isApiKey {key other : String} (valid : isApiKey key = true)
    (otherValid : isApiKey other = true) (alike : other.toList.take 6 = key.toList.take 6) :
    RekeyedText key other := by
  simpa only [RekeyedText, List.append_nil] using Rekeyed.key valid otherValid alike .nil

theorem append (rekeyed : RekeyedText left right) {left' right' : String}
    (rest : RekeyedText left' right') : RekeyedText (left ++ left') (right ++ right') := by
  simpa only [RekeyedText, String.toList_append] using Rekeyed.append rekeyed rest

theorem isEmpty_eq (rekeyed : RekeyedText left right) : right.isEmpty = left.isEmpty := by
  rw [Bool.eq_iff_iff, String.isEmpty_iff, String.isEmpty_iff, ← String.toList_eq_nil_iff,
    ← String.toList_eq_nil_iff, Rekeyed.eq_nil_iff rekeyed]

theorem isApiKey_eq (rekeyed : RekeyedText left right) : isApiKey right = isApiKey left := by
  rw [isApiKey, isApiKey, Rekeyed.length_eq rekeyed, Rekeyed.all_isHexDigit rekeyed]

theorem utf8ByteSize_eq (rekeyed : RekeyedText left right) :
    right.utf8ByteSize = left.utf8ByteSize := by
  simpa only [String.ofList_toList] using Rekeyed.utf8ByteSize_eq rekeyed

theorem trim (rekeyed : RekeyedText left right) :
    RekeyedText (Text.trim left) (Text.trim right) := by
  rw [RekeyedText, Text.toList_trim, Text.toList_trim]
  exact (Rekeyed.trimStart rekeyed).dropEndWhile_isBlank

theorem maskApiKey_eq (rekeyed : RekeyedText left right) {shown : Nat} (few : shown ≤ 6) :
    maskApiKey right shown = maskApiKey left shown := by
  rw [maskApiKey, maskApiKey, rekeyed.isEmpty_eq, Rekeyed.take_eq rekeyed few,
    ← String.length_toList, ← String.length_toList, Rekeyed.length_eq rekeyed]

end RekeyedText

/-! ## Credentials -/

namespace Credential

/-- Whether two credentials have the same source and keys with the same first six characters. -/
structure Rekeyed (left right : Credential) : Prop where
  source : right.source = left.source
  value : RekeyedText left.value right.value

theorem Rekeyed.refl (credential : Credential) : Rekeyed credential credential :=
  ⟨rfl, .refl _⟩

variable {left right : Credential}

theorem Rekeyed.isEmpty_eq (rekeyed : Rekeyed left right) : right.isEmpty = left.isEmpty :=
  rekeyed.value.isEmpty_eq

theorem Rekeyed.masked_eq (rekeyed : Rekeyed left right) : right.masked = left.masked :=
  rekeyed.value.maskApiKey_eq (Nat.le_refl 6)

theorem Rekeyed.shown_eq (rekeyed : Rekeyed left right) : right.shown = left.shown := by
  rw [shown, shown, rekeyed.isEmpty_eq, rekeyed.masked_eq]

theorem Rekeyed.describe_eq (rekeyed : Rekeyed left right) : right.describe = left.describe := by
  unfold describe
  rw [rekeyed.masked_eq, rekeyed.source]

end Credential

/-! ## Storage -/

namespace MemoryStore

/-- Whether two storages fail at the same operations and hold the same texts under each key, but for
API keys in those texts. -/
structure Rekeyed (left right : MemoryStore) : Prop where
  failing : right.failing = left.failing
  texts : ∀ key, Option.Rel RekeyedText (left.entries.get? key) (right.entries.get? key)

namespace Rekeyed

variable {left right : MemoryStore}

theorem isFailing_eq (rekeyed : Rekeyed left right) (operation key : String) :
    right.isFailing operation key = left.isFailing operation key := by
  rw [isFailing, isFailing, rekeyed.failing]

theorem set (rekeyed : Rekeyed left right) (key : String) {text other : String}
    (same : RekeyedText text other) :
    (KeyValueStore.set right key other).2 = (KeyValueStore.set left key text).2 ∧
      Rekeyed (KeyValueStore.set left key text).1 (KeyValueStore.set right key other).1 := by
  change (right.set key other).2 = (left.set key text).2 ∧
    Rekeyed (left.set key text).1 (right.set key other).1
  rw [MemoryStore.set, MemoryStore.set, rekeyed.isFailing_eq]
  split
  · exact ⟨rfl, rekeyed⟩
  · refine ⟨rfl, rekeyed.failing, fun name => ?_⟩
    by_cases here : name = key
    · subst here
      rw [Dict.get?_insert_self, Dict.get?_insert_self]
      exact .some same
    · rw [Dict.get?_insert_of_ne here, Dict.get?_insert_of_ne here]
      exact rekeyed.texts name

theorem remove (rekeyed : Rekeyed left right) (key : String) :
    (KeyValueStore.remove right key).2 = (KeyValueStore.remove left key).2 ∧
      Rekeyed (KeyValueStore.remove left key).1 (KeyValueStore.remove right key).1 := by
  change (right.remove key).2 = (left.remove key).2 ∧
    Rekeyed (left.remove key).1 (right.remove key).1
  rw [MemoryStore.remove, MemoryStore.remove, rekeyed.isFailing_eq]
  split
  · exact ⟨rfl, rekeyed⟩
  · refine ⟨rfl, rekeyed.failing, fun name => ?_⟩
    by_cases here : name = key
    · subst here
      rw [Dict.get?_erase_self, Dict.get?_erase_self]
      exact .none
    · rw [Dict.get?_erase_of_ne here, Dict.get?_erase_of_ne here]
      exact rekeyed.texts name

theorem flush (rekeyed : Rekeyed left right) :
    Rekeyed (KeyValueStore.flush left).1 (KeyValueStore.flush right).1 := by
  change Rekeyed left.flush.1 right.flush.1
  rw [MemoryStore.flush, MemoryStore.flush, rekeyed.isFailing_eq]
  split <;> exact rekeyed

end Rekeyed
end MemoryStore

/-! ## Calls -/

namespace CredentialStore

/-- Whether two calls have the same left to do, but for the keys that they carry. -/
inductive Call.Rekeyed : Call → Call → Prop
  | readCurrent : Rekeyed .readCurrent .readCurrent
  | readLegacy : Rekeyed .readLegacy .readLegacy
  | removeCurrent (resolving : Bool) : Rekeyed (.removeCurrent resolving) (.removeCurrent resolving)
  | removeLegacy (resolving : Bool) : Rekeyed (.removeLegacy resolving) (.removeLegacy resolving)
  | write {key other : String} : RekeyedText key other → Rekeyed (.write key) (.write other)
  | fallBack : Rekeyed .fallBack .fallBack
  | publish {credential other : Credential} (resolving : Bool) :
      credential.Rekeyed other → Rekeyed (.publish credential resolving) (.publish other resolving)
  | done {credential other : Credential} :
      credential.Rekeyed other → Rekeyed (.done credential) (.done other)

/-- Whether two desks are the same but for keys, which the log does not tell apart. -/
structure Desk.Rekeyed (left right : Desk MemoryStore) : Prop where
  storage : left.storage.Rekeyed right.storage
  published : left.published.Rekeyed right.published
  log : right.log = left.log

theorem Call.Rekeyed.rank_eq {left right : Call} (rekeyed : left.Rekeyed right) :
    right.rank = left.rank := by
  cases rekeyed <;> rfl

theorem Call.Rekeyed.result {left right : Call} (rekeyed : left.Rekeyed right) :
    left.result.Rekeyed right.result := by
  cases rekeyed with
  | done same => exact same
  | _ => exact .refl _

theorem resolvedLine_eq {left right : Credential} (rekeyed : left.Rekeyed right) :
    resolvedLine right = resolvedLine left := by
  rw [resolvedLine, resolvedLine, rekeyed.source, rekeyed.shown_eq]

theorem fromEnvironment_rekeyed {left right : Option String}
    (rekeyed : Option.Rel RekeyedText left right) :
    (fromEnvironment left).1.Rekeyed (fromEnvironment right).1 ∧
      (fromEnvironment right).2 = (fromEnvironment left).2 := by
  cases rekeyed with
  | none => exact ⟨.refl _, rfl⟩
  | some same =>
      simp only [fromEnvironment, Option.map_some, same.trim.isApiKey_eq, same.trim.isEmpty_eq]
      split
      · exact ⟨⟨rfl, same.trim⟩, rfl⟩
      · split <;> exact ⟨.refl _, rfl⟩

theorem settle_rekeyed {left right : Option String} (rekeyed : Option.Rel RekeyedText left right) :
    (settle left).1.Rekeyed (settle right).1 ∧ (settle right).2 = (settle left).2 := by
  cases rekeyed with
  | none => exact ⟨.fallBack, rfl⟩
  | some same =>
      simp only [settle, same.isApiKey_eq]
      split
      · exact ⟨.publish true ⟨rfl, same⟩, rfl⟩
      · exact ⟨.removeCurrent true, rfl⟩

theorem set_rekeyed {left right : String} (rekeyed : RekeyedText left right) :
    (set left).1.Rekeyed (set right).1 ∧ (set right).2 = (set left).2 := by
  simp only [set, rekeyed.trim.isApiKey_eq, rekeyed.trim.isEmpty_eq, rekeyed.trim.utf8ByteSize_eq]
  split
  · exact ⟨.write rekeyed.trim, rfl⟩
  · split <;> exact ⟨.removeCurrent false, rfl⟩

theorem isSome_eq_of_rel {α : Type} {related : α → α → Prop} {left right : Option α}
    (both : Option.Rel related left right) : right.isSome = left.isSome := by
  cases both <;> rfl

theorem readKey_rekeyed {left right : MemoryStore} (rekeyed : left.Rekeyed right) (key : String) :
    Option.Rel RekeyedText (readKey left key).1 (readKey right key).1 ∧
      (readKey right key).2 = (readKey left key).2 := by
  have got : ∀ store : MemoryStore, KeyValueStore.get store key = store.get key := fun _ => rfl
  have texts := rekeyed.texts key
  rw [readKey, readKey, got, got, MemoryStore.get, MemoryStore.get, rekeyed.isFailing_eq]
  cases left.isFailing "get" key with
  | true => exact ⟨.none, rfl⟩
  | false =>
      generalize Dict.get? key left.entries = held at texts ⊢
      generalize Dict.get? key right.entries = otherHeld at texts ⊢
      cases texts with
      | none => exact ⟨.none, rfl⟩
      | @some text other same =>
          refine ⟨?_, rfl⟩
          change Option.Rel RekeyedText (if text.isEmpty = true then none else some text)
            (if other.isEmpty = true then none else some other)
          rw [same.isEmpty_eq]
          split
          · exact .none
          · exact .some same

theorem removeKey_rekeyed {left right : Desk MemoryStore} (rekeyed : left.Rekeyed right)
    (key : String) : (removeKey left key).Rekeyed (removeKey right key) := by
  obtain ⟨same, storage⟩ := rekeyed.storage.remove key
  refine ⟨storage, rekeyed.published, ?_⟩
  simp only [removeKey, same, rekeyed.log]

/-- A step of a call goes the same way whichever of the keys it finds. -/
theorem step_rekeyed {environment other : Option String}
    (supplied : Option.Rel RekeyedText environment other) {left right : Desk MemoryStore}
    (desk : left.Rekeyed right) {call call' : Call} (rekeyed : call.Rekeyed call') :
    (step environment left call).1.Rekeyed (step other right call').1 ∧
      (step environment left call).2.Rekeyed (step other right call').2 := by
  cases rekeyed with
  | readCurrent =>
      obtain ⟨texts, log⟩ := readKey_rekeyed desk.storage currentKey
      obtain ⟨settled, said⟩ := settle_rekeyed texts
      have found : (readKey right.storage currentKey).1.isSome =
          (readKey left.storage currentKey).1.isSome :=
        isSome_eq_of_rel texts
      simp only [step, found, log, desk.log]
      split
      · exact ⟨settled, desk.storage, desk.published, by simp only [said]⟩
      · exact ⟨.readLegacy, desk.storage, desk.published, rfl⟩
  | readLegacy =>
      obtain ⟨texts, log⟩ := readKey_rekeyed desk.storage legacyKey
      obtain ⟨settled, said⟩ := settle_rekeyed texts
      refine ⟨settled, desk.storage, desk.published, ?_⟩
      simp only [step, log, said, desk.log]
  | removeCurrent resolving =>
      exact ⟨.removeLegacy resolving, removeKey_rekeyed desk currentKey⟩
  | removeLegacy resolving =>
      refine ⟨?_, removeKey_rekeyed desk legacyKey⟩
      cases resolving with
      | true => exact .fallBack
      | false => exact .publish false (.refl _)
  | write same =>
      obtain ⟨outcome, storage⟩ := desk.storage.set currentKey same
      refine ⟨.publish false ⟨rfl, same⟩, storage, desk.published, ?_⟩
      simp only [step, outcome, desk.log]
  | fallBack =>
      obtain ⟨credential, said⟩ := fromEnvironment_rekeyed supplied
      refine ⟨.done credential, desk.storage, credential, ?_⟩
      simp only [step, Desk.publish, said, resolvedLine_eq credential, desk.log]
  | publish resolving same =>
      refine ⟨.done same, desk.storage, same, ?_⟩
      simp only [step, Desk.publish, resolvedLine_eq same, desk.log]
  | done same => exact ⟨.done same, desk⟩

theorem run_rekeyed {environment other : Option String}
    (supplied : Option.Rel RekeyedText environment other) {left right : Desk MemoryStore}
    (desk : left.Rekeyed right) {call call' : Call} (rekeyed : call.Rekeyed call') :
    (run environment call left).1.Rekeyed (run other call' right).1 ∧
      (run environment call left).2.Rekeyed (run other call' right).2 := by
  fun_induction run environment call left generalizing call' right with
  | case1 call left finished =>
      rw [run_of_rank_eq_zero other (rekeyed.rank_eq.trans finished)]
      exact ⟨rekeyed.result, desk⟩
  | case2 call left unfinished next =>
      rename_i ih
      have step := step_rekeyed supplied desk rekeyed
      rw [run_of_rank_ne_zero other (rekeyed.rank_eq ▸ unfinished)]
      exact ih step.2 step.1

end CredentialStore
end ProbeWatch
