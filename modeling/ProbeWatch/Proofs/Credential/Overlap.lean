import Mathlib.Data.List.Nodup
import ProbeWatch.Proofs.Credential.Agreement

/-!
# Changes of the credential that overlap

Any number of calls enter and remove keys, and their steps interleave in any order while no storage
operation fails.  A call changes storage and what is in effect in different steps, and nothing keeps
the other calls out in between: storage ends up with what was asked of the call that came last to
the current key, and memory with what was asked of the call that published last.
-/

namespace ProbeWatch

open KeyValueStore (Lawful)

namespace CredentialStore

variable {σ : Type} [KeyValueStore σ]

/-! ## Interleaved calls -/

/-- What the user asks for. -/
inductive Change
  /-- A text is entered as the key. -/
  | set (raw : String)
  /-- The key is removed. -/
  | clear
deriving DecidableEq

namespace Change

/-- The call that is made for a change. -/
def call : Change → Call
  | .set raw => (CredentialStore.set raw).1
  | .clear => CredentialStore.clear

/-- The key that a change leads to when nothing else goes on. -/
def key? : Change → Option String
  | .set raw => if isApiKey (Text.trim raw) then some (Text.trim raw) else none
  | .clear => none

theorem isApiKey_of_key? {change : Change} {key : String} (leads : change.key? = some key) :
    isApiKey key = true := by
  cases change with
  | clear => cases leads
  | set raw =>
      rw [key?, Option.ite_none_right_eq_some] at leads
      obtain ⟨valid, same⟩ := leads
      rw [← Option.some.inj same]
      exact valid

theorem call_eq (change : Change) :
    change.call = change.key?.elim CredentialStore.clear .write := by
  cases change with
  | clear => rfl
  | set raw =>
      rw [call, key?, CredentialStore.set]
      by_cases valid : isApiKey (Text.trim raw) = true
      · rw [if_pos valid, if_pos valid]
        rfl
      · rw [if_neg valid, if_neg valid]
        split <;> rfl

end Change

/-- The credential in effect with a key or without one. -/
def credentialOf : Option String → Credential
  | some key => ⟨key, .stored⟩
  | none => .absent

/-- Whether a step is the one that writes or removes the current key. -/
def Call.isDeciding : Call → Bool
  | .write _ | .removeCurrent _ => true
  | _ => false

/-- Whether a step publishes. -/
def Call.isPublishing : Call → Bool
  | .fallBack | .publish .. => true
  | _ => false

/-- A desk, the changes that were asked for at it, and the calls that make them. -/
structure Crowd (σ : Type) where
  desk : Desk σ
  /-- What was asked for, by the positions of the calls. -/
  asked : List Change
  /-- What is left of each call. -/
  calls : List Call
  /-- The calls that have written or removed the current key, in the order in which they did. -/
  kept : List Nat
  /-- The calls that have published, in the order in which they did. -/
  shown : List Nat

namespace Crowd

/-- A desk before the first change. -/
def start (desk : Desk σ) : Crowd σ := ⟨desk, [], [], [], []⟩

/-- One more change is asked for. -/
def ask (crowd : Crowd σ) (change : Change) : Crowd σ :=
  { crowd with asked := crowd.asked ++ [change], calls := crowd.calls ++ [change.call] }

/-- The call at a position takes its next step. -/
def advance (environment : Option String) (crowd : Crowd σ) (position : Nat) (call : Call) :
    Crowd σ where
  desk := (step environment crowd.desk call).2
  asked := crowd.asked
  calls := crowd.calls.set position (step environment crowd.desk call).1
  kept := crowd.kept ++ if call.isDeciding then [position] else []
  shown := crowd.shown ++ if call.isPublishing then [position] else []

/-- What changes at a desk can lead to when their calls overlap and no storage operation fails. -/
inductive Reached (environment : Option String) (begun : Desk σ) : Crowd σ → Prop
  | start : Reached environment begun (.start begun)
  | ask {crowd : Crowd σ} (reached : Reached environment begun crowd) (change : Change) :
      Reached environment begun (crowd.ask change)
  | step {crowd : Crowd σ} (reached : Reached environment begun crowd) (position : Nat)
      {call : Call} (found : crowd.calls[position]? = some call)
      (succeeds : call.Succeeds crowd.desk.storage) :
      Reached environment begun (crowd.advance environment position call)

end Crowd

/-! ## What single steps do -/

/-- Whether a call is on its way to a key, or to no key. -/
inductive Call.Serves : Option String → Call → Prop
  | write (key : String) : Serves (some key) (.write key)
  | removeCurrent : Serves none (.removeCurrent false)
  | removeLegacy : Serves none (.removeLegacy false)
  | publish (wish : Option String) : Serves wish (.publish (credentialOf wish) false)
  | done (wish : Option String) : Serves wish (.done (credentialOf wish))

theorem Change.serves_call (change : Change) : change.call.Serves change.key? := by
  rw [change.call_eq]
  cases change.key? with
  | none => exact .removeCurrent
  | some key => exact .write key

theorem Change.isDeciding_call (change : Change) : change.call.isDeciding = true := by
  rw [change.call_eq]
  cases change.key? <;> rfl

theorem Change.rank_call (change : Change) : (change.call.rank != 0) = true := by
  rw [change.call_eq]
  cases change.key? <;> rfl

namespace Call.Serves

variable {wish : Option String} {call : Call}

theorem step (serves : call.Serves wish) (environment : Option String) (desk : Desk σ) :
    (CredentialStore.step environment desk call).1.Serves wish := by
  cases serves with
  | write key => exact .publish (some key)
  | removeCurrent => exact .removeLegacy
  | removeLegacy => exact .publish none
  | publish wish => exact .done wish
  | done wish => exact .done wish

/-- After its first step a call leaves the current key alone. -/
theorem isDeciding_step (serves : call.Serves wish) (environment : Option String) (desk : Desk σ) :
    (CredentialStore.step environment desk call).1.isDeciding = false := by
  cases serves <;> rfl

theorem unfinished_of_isPublishing (serves : call.Serves wish)
    (publishing : call.isPublishing = true) : (call.rank != 0) = true := by
  cases serves with
  | publish wish => rfl
  | _ => cases publishing

theorem unfinished_step (serves : call.Serves wish) (environment : Option String) (desk : Desk σ) :
    ((CredentialStore.step environment desk call).1.rank != 0) =
      (call.rank != 0 && !call.isPublishing) := by
  cases serves <;> rfl

end Call.Serves

/-! ## Each call once -/

/-- Whether a list names every call once that waits no longer, and no other one. -/
structure Names (waits : Call → Bool) (calls : List Call) (order : List Nat) : Prop where
  nodup : order.Nodup
  mem_iff : ∀ position, position ∈ order ↔
    ∃ call, calls[position]? = some call ∧ waits call = false

namespace Names

variable {waits : Call → Bool} {calls : List Call} {order : List Nat}

theorem nil : Names waits [] [] := ⟨List.nodup_nil, fun position => by simp⟩

theorem ask (names : Names waits calls order) {call : Call} (waiting : waits call = true) :
    Names waits (calls ++ [call]) order := by
  refine ⟨names.nodup, fun position => ?_⟩
  rw [names.mem_iff]
  rcases Nat.lt_trichotomy position calls.length with old | new | beyond
  · rw [List.getElem?_append_left old]
  · rw [new]
    simp [waiting]
  · have outside : (calls ++ [call]).length ≤ position := by
      simpa using Nat.succ_le_of_lt beyond
    rw [List.getElem?_eq_none (Nat.le_of_lt beyond), List.getElem?_eq_none outside]

theorem advance (names : Names waits calls order) {position : Nat} {call next : Call}
    (found : calls[position]? = some call) (acts : Bool)
    (waiting : acts = true → waits call = true)
    (stays : waits next = (waits call && !acts)) :
    Names waits (calls.set position next) (order ++ if acts then [position] else []) := by
  have inside := (List.getElem?_eq_some_iff.mp found).1
  have before : position ∈ order ↔ waits call = false := by
    rw [names.mem_iff, found]
    simp
  refine ⟨?_, fun other => ?_⟩
  · cases acts with
    | false => simpa using names.nodup
    | true =>
        have fresh : position ∉ order := by
          rw [before, waiting rfl]
          exact Bool.noConfusion
        have others : ∀ other ∈ order, other ≠ position :=
          fun other among => ne_of_mem_of_not_mem among fresh
        simpa [List.nodup_append, names.nodup] using others
  · rw [List.mem_append, List.getElem?_set]
    by_cases same : position = other
    · subst same
      rw [before, if_pos rfl, if_pos inside]
      cases acts <;> simp [stays]
    · rw [if_neg same, names.mem_iff]
      cases acts <;> simp [Ne.symm same]

theorem perm (names : Names waits calls order) (settled : ∀ call ∈ calls, waits call = false) :
    order.Perm (List.range calls.length) := by
  rw [List.perm_ext_iff_of_nodup names.nodup List.nodup_range]
  intro position
  rw [names.mem_iff, List.mem_range]
  constructor
  · rintro ⟨call, found, -⟩
    exact (List.getElem?_eq_some_iff.mp found).1
  · intro inside
    exact ⟨calls[position], List.getElem?_eq_getElem inside, settled _ (List.getElem_mem inside)⟩

end Names

/-! ## What every run preserves -/

theorem getElem?_append_of_found {α : Type} {list : List α} {position : Nat} {value : α}
    (found : list[position]? = some value) (more : List α) :
    (list ++ more)[position]? = some value := by
  rw [List.getElem?_append_left (List.getElem?_eq_some_iff.mp found).1, found]

theorem getElem?_set_of_other {α : Type} {list : List α} {position other : Nat} {value held : α}
    (found : list[position]? = some value) (holds : list[other]? = some held)
    (different : value ≠ held) (next : α) : (list.set position next)[other]? = some held := by
  rw [List.getElem?_set_ne, holds]
  rintro rfl
  exact different (Option.some.inj (found.symm.trans holds))

namespace Crowd.Reached

variable {environment : Option String} {begun : Desk σ} {crowd : Crowd σ}

theorem length_calls (reached : Reached environment begun crowd) :
    crowd.calls.length = crowd.asked.length := by
  induction reached with
  | start => rfl
  | ask _ change ih => simpa [Crowd.ask] using ih
  | step _ position found succeeds ih => simpa [Crowd.advance] using ih

theorem serves (reached : Reached environment begun crowd) {position : Nat} {call : Call}
    (found : crowd.calls[position]? = some call) :
    ∃ change, crowd.asked[position]? = some change ∧ call.Serves change.key? := by
  induction reached generalizing position call with
  | start => cases found
  | @ask crowd reached change ih =>
      have sameLength := reached.length_calls
      rw [Crowd.ask, List.getElem?_append] at found
      split at found
      · obtain ⟨earlier, asked, serves⟩ := ih found
        refine ⟨earlier, ?_, serves⟩
        rwa [Crowd.ask, List.getElem?_append_left (by omega)]
      · obtain ⟨last, rfl⟩ := List.getElem?_eq_some_iff.mp found
        have new : position = crowd.asked.length := by simp at last; omega
        refine ⟨change, by simp [Crowd.ask, new], ?_⟩
        simpa using change.serves_call
  | @step crowd reached moved before foundBefore succeeds ih =>
      rw [Crowd.advance, List.getElem?_set] at found
      split at found
      · rename_i same
        subst same
        obtain ⟨change, asked, serves⟩ := ih foundBefore
        split at found
        · cases found
          exact ⟨change, asked, serves.step environment crowd.desk⟩
        · cases found
      · exact ih found

theorem names_kept (reached : Reached environment begun crowd) :
    Names Call.isDeciding crowd.calls crowd.kept := by
  induction reached with
  | start => exact .nil
  | ask _ change ih => exact ih.ask change.isDeciding_call
  | @step crowd reached position call found succeeds ih =>
      obtain ⟨change, -, serves⟩ := reached.serves found
      refine ih.advance found call.isDeciding id ?_
      rw [serves.isDeciding_step environment crowd.desk, Bool.and_not_self]

theorem names_shown (reached : Reached environment begun crowd) :
    Names (fun call => call.rank != 0) crowd.calls crowd.shown := by
  induction reached with
  | start => exact .nil
  | ask _ change ih => exact ih.ask change.rank_call
  | @step crowd reached position call found succeeds ih =>
      obtain ⟨change, -, serves⟩ := reached.serves found
      exact ih.advance found call.isPublishing serves.unfinished_of_isPublishing
        (serves.unfinished_step environment crowd.desk)

section

variable {text? : σ → String → Option String}

/-- The call that came last to the current key decides what is stored, once it is past the legacy
key. -/
theorem text?_storage (lawful : Lawful text?) (reached : Reached environment begun crowd)
    {writer : Nat} (last : crowd.kept.getLast? = some writer) :
    ∃ change, crowd.asked[writer]? = some change ∧
      text? crowd.desk.storage currentKey = change.key? ∧
      (change.key? = none → text? crowd.desk.storage legacyKey = none ∨
        crowd.calls[writer]? = some (.removeLegacy false)) := by
  have different : currentKey ≠ legacyKey := by decide
  -- No step writes the legacy key, so it stays empty once the call that decides is past it.
  induction reached generalizing writer with
  | start => cases last
  | @ask crowd reached change ih =>
      obtain ⟨earlier, asked, current, legacy⟩ := ih last
      refine ⟨earlier, getElem?_append_of_found asked _, current, fun removed => ?_⟩
      exact (legacy removed).imp_right fun found => getElem?_append_of_found found _
  | @step crowd reached position call found succeeds ih =>
      obtain ⟨change, asked, serves⟩ := reached.serves found
      generalize wished : change.key? = wish at serves
      cases serves with
      | write key =>
          obtain rfl : position = writer := by simpa [Crowd.advance, Call.isDeciding] using last
          have put := lawful.set (Prod.ext rfl succeeds)
          refine ⟨change, asked, (congrFun put currentKey).trans ?_, fun removed => ?_⟩
          · rw [Function.update_self, wished]
          · cases wished.symm.trans removed
      | removeCurrent =>
          obtain rfl : position = writer := by simpa [Crowd.advance, Call.isDeciding] using last
          have gone := text?_removeKey lawful succeeds
          refine ⟨change, asked, (congrFun gone currentKey).trans ?_, fun _ => .inr ?_⟩
          · rw [Function.update_self, wished]
          · simp [Crowd.advance, CredentialStore.step, (List.getElem?_eq_some_iff.mp found).1]
      | removeLegacy =>
          have before : crowd.kept.getLast? = some writer := by
            simpa [Crowd.advance, Call.isDeciding] using last
          obtain ⟨decided, asked, current, -⟩ := ih before
          have gone := text?_removeKey lawful succeeds
          refine ⟨decided, asked, (congrFun gone currentKey).trans ?_,
            fun _ => .inl ((congrFun gone legacyKey).trans ?_)⟩
          · rw [Function.update_of_ne different, current]
          · rw [Function.update_self]
      | publish wish | done wish =>
          have before : crowd.kept.getLast? = some writer := by
            simpa [Crowd.advance, Call.isDeciding] using last
          obtain ⟨decided, asked, current, legacy⟩ := ih before
          refine ⟨decided, asked, current, fun removed => (legacy removed).imp_right ?_⟩
          exact fun waits => getElem?_set_of_other found waits (by simp) _

theorem published (reached : Reached environment begun crowd) {publisher : Nat}
    (last : crowd.shown.getLast? = some publisher) :
    ∃ change, crowd.asked[publisher]? = some change ∧
      crowd.desk.published = credentialOf change.key? := by
  induction reached generalizing publisher with
  | start => cases last
  | @ask crowd reached change ih =>
      obtain ⟨earlier, asked, published⟩ := ih last
      exact ⟨earlier, getElem?_append_of_found asked _, published⟩
  | @step crowd reached position call found succeeds ih =>
      obtain ⟨change, asked, serves⟩ := reached.serves found
      generalize wished : change.key? = wish at serves
      cases serves with
      | publish wish =>
          obtain rfl : position = publisher := by
            simpa [Crowd.advance, Call.isPublishing] using last
          exact ⟨change, asked, congrArg credentialOf wished.symm⟩
      | _ => exact ih (by simpa [Crowd.advance, Call.isPublishing] using last)

/-- Once all calls have returned, storage holds what was asked of the one that came last to the
current key. -/
theorem firstText_storage (lawful : Lawful text?) (reached : Reached environment begun crowd)
    (finished : ∀ call ∈ crowd.calls, call.rank = 0) {writer : Nat}
    (last : crowd.kept.getLast? = some writer) :
    ∃ change, crowd.asked[writer]? = some change ∧
      firstText (text? crowd.desk.storage) = change.key? := by
  obtain ⟨change, asked, current, legacy⟩ := reached.text?_storage lawful last
  refine ⟨change, asked, ?_⟩
  cases wished : change.key? with
  | some key =>
      have full := ne_empty_of_isApiKey (Change.isApiKey_of_key? wished)
      simp [firstText, heldText, current, wished, full]
  | none =>
      have absent : text? crowd.desk.storage legacyKey = none := by
        refine (legacy wished).resolve_right fun waits => ?_
        cases finished _ (List.mem_of_getElem? waits)
      simp [firstText, heldText, current, wished, absent]

end

end Crowd.Reached

/-! ## Agreement -/

theorem credentialOf_eq_iff {wish : Option String} {value : String} :
    credentialOf wish = ⟨value, .stored⟩ ↔ wish = some value := by
  cases wish <;> simp [credentialOf, Credential.absent]

theorem Change.agree {change : Change} {texts : String → Option String}
    (found : firstText texts = change.key?) : Agree (credentialOf change.key?) texts := by
  rw [Agree, found]
  cases wished : change.key? with
  | some key => exact ⟨isApiKey_of_key? wished, rfl⟩
  | none => simp [credentialOf, Credential.absent]

/-- Whatever desk the changes begin at, and however their calls overlap without a failure of
storage: once all calls have returned, each of them has come to the current key once and has
published once.  The last one to publish decides which key is in effect, and the last one to come to
the current key decides which one a later resolution finds in storage.  So memory and storage agree
exactly if these two were asked for the same. -/
theorem last_calls_decide {text? : σ → String → Option String} (lawful : Lawful text?)
    {environment : Option String} {begun : Desk σ} {crowd : Crowd σ}
    (reached : crowd.Reached environment begun) (nonempty : crowd.asked ≠ [])
    (finished : ∀ call ∈ crowd.calls, call.rank = 0) :
    crowd.kept.Perm (List.range crowd.asked.length) ∧
      crowd.shown.Perm (List.range crowd.asked.length) ∧
      ∃ (writer publisher : Nat) (stored shown : Change),
        crowd.kept.getLast? = some writer ∧ crowd.asked[writer]? = some stored ∧
        crowd.shown.getLast? = some publisher ∧ crowd.asked[publisher]? = some shown ∧
        (∀ value, crowd.desk.published = ⟨value, .stored⟩ ↔ shown.key? = some value) ∧
        ∀ (environment' : Option String) (restarted : Desk σ),
          restarted.storage = crowd.desk.storage → Smooth environment' resolve restarted →
            let found := (run environment' resolve restarted).1
            (∀ value, found = ⟨value, .stored⟩ ↔ stored.key? = some value) ∧
            ((∀ value, crowd.desk.published = ⟨value, .stored⟩ ↔ found = ⟨value, .stored⟩) ↔
              shown.key? = stored.key?) := by
  have length := reached.length_calls
  have came : crowd.kept.Perm (List.range crowd.asked.length) := by
    rw [← length]
    refine reached.names_kept.perm fun call among => ?_
    cases call with
    | done credential => rfl
    | _ => cases finished _ among
  have published : crowd.shown.Perm (List.range crowd.asked.length) := by
    rw [← length]
    exact reached.names_shown.perm fun call among => by simp [finished call among]
  have positive : 0 < crowd.asked.length := List.length_pos_of_ne_nil nonempty
  have someone {order : List Nat} (all : order.Perm (List.range crowd.asked.length)) :
      ∃ position, order.getLast? = some position := by
    rw [← Option.isSome_iff_exists, List.getLast?_isSome, ← List.length_pos_iff, all.length_eq,
      List.length_range]
    exact positive
  obtain ⟨writer, lastWriter⟩ := someone came
  obtain ⟨publisher, lastPublisher⟩ := someone published
  obtain ⟨stored, askedWriter, held⟩ := reached.firstText_storage lawful finished lastWriter
  obtain ⟨shown, askedPublisher, effective⟩ := reached.published lastPublisher
  have inMemory (value : String) :
      crowd.desk.published = ⟨value, .stored⟩ ↔ shown.key? = some value := by
    rw [effective, credentialOf_eq_iff]
  refine ⟨came, published, writer, publisher, stored, shown, lastWriter, askedWriter,
    lastPublisher, askedPublisher, inMemory, fun environment' restarted same smooth => ?_⟩
  intro found
  have inStorage (value : String) : found = ⟨value, .stored⟩ ↔ stored.key? = some value := by
    have resolved := congrArg Prod.fst (run_resolve lawful smooth)
    rw [show found = _ from resolved, same, (Change.agree held).settled_iff environment',
      credentialOf_eq_iff]
  refine ⟨inStorage, ?_⟩
  simp only [inMemory, inStorage]
  exact ⟨Option.ext, fun alike value => by rw [alike]⟩

/-! ## A removal beside a new key -/

/-- A desk with nothing in storage and no credential in effect. -/
def unusedDesk : Desk MemoryStore := ⟨⟨[], []⟩, .absent, []⟩

/-- A removal has taken its two steps in storage when a key is entered, and publishes after it. -/
def racedCrowd (key : String) : Crowd MemoryStore :=
  let asked := ((Crowd.start unusedDesk).ask .clear).ask (.set key)
  let removed := (asked.advance none 0 (.removeCurrent false)).advance none 0 (.removeLegacy false)
  let entered :=
    (removed.advance none 1 (.write key)).advance none 1 (.publish ⟨key, .stored⟩ false)
  entered.advance none 0 (.publish .absent false)

theorem reached_racedCrowd {key : String} (valid : (Change.set key).key? = some key) :
    (racedCrowd key).Reached none unusedDesk := by
  have entering : (Change.set key).call = .write key := by
    rw [Change.call_eq, valid]
    rfl
  have started : (Crowd.start unusedDesk).Reached none unusedDesk := .start
  have asked := (started.ask .clear).ask (.set key)
  have removed := asked
    |>.step 0 rfl (succeeds_of_inOrder rfl (.removeCurrent false))
    |>.step 0 rfl (succeeds_of_inOrder rfl (.removeLegacy false))
  have entered := removed
    |>.step 1 (congrArg some entering) (succeeds_of_inOrder rfl (.write key))
    |>.step 1 rfl trivial
  exact entered.step 0 rfl trivial

/-- The session shows that the key was removed, and the next start finds it in storage. -/
theorem removed_key_comes_back :
    let key := String.ofList (List.replicate 64 'a')
    let crowd := racedCrowd key
    crowd.Reached none unusedDesk ∧ crowd.asked = [.clear, .set key] ∧
      (∀ call ∈ crowd.calls, call.rank = 0) ∧ crowd.desk.published = .absent ∧
      (run none resolve crowd.desk).1 = ⟨key, .stored⟩ := by
  intro key crowd
  refine ⟨reached_racedCrowd (by decide +kernel), rfl, ?_, rfl, by decide +kernel⟩
  decide +kernel

/-- The key was written last, so that it is found in every environment. -/
theorem key_of_raced_crowd :
    let key := String.ofList (List.replicate 64 'a')
    let crowd := racedCrowd key
    crowd.Reached none unusedDesk ∧ crowd.asked ≠ [] ∧ (∀ call ∈ crowd.calls, call.rank = 0) ∧
      ∀ environment, (run environment resolve crowd.desk).1 = ⟨key, .stored⟩ := by
  intro key crowd
  have valid : (Change.set key).key? = some key := by decide +kernel
  have reached : crowd.Reached none unusedDesk := reached_racedCrowd valid
  have finished : ∀ call ∈ crowd.calls, call.rank = 0 := by decide +kernel
  refine ⟨reached, List.cons_ne_nil _ _, finished, fun environment => ?_⟩
  obtain ⟨-, -, writer, publisher, stored, shown, last, asked, -, -, -, found⟩ :=
    last_calls_decide MemoryStore.lawful reached (List.cons_ne_nil _ _) finished
  cases last
  cases asked
  have smooth : Smooth environment resolve crowd.desk := (smooth_of_inOrder environment rfl).1
  exact ((found environment crowd.desk rfl smooth).1 key).mpr valid

end CredentialStore
end ProbeWatch
