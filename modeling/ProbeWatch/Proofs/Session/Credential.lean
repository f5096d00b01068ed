import ProbeWatch.Proofs.Session.Isolation
import ProbeWatch.Watch.Poll

/-!
# The credential beside the tree

Completing a call, beginning a poll and going on with one, and restoring a snapshot each come to the
same whatever the credential of the session is, and leave the credential as it is.
-/

namespace ProbeWatch

namespace Session

/-- The session with another credential beside its tree. -/
def withCredential (session : Session) (credential : Credential) : Session :=
  { session with credential }

/-- Whether a change of sessions comes to the same whatever their credential is, which it keeps. -/
def Blind {α : Type} (change : Session → α × Session) : Prop :=
  ∀ session credential,
    change (session.withCredential credential) =
      ((change session).1, (change session).2.withCredential credential)

theorem Blind.credential_eq {α : Type} {change : Session → α × Session} (blind : Blind change)
    (session : Session) : (change session).2.credential = session.credential :=
  congrArg (·.2.credential) (blind session session.credential)

theorem credential_of_ofJson? {tree : Json} {session : Session}
    (reads : ofJson? tree = some session) : session.credential = .absent := by
  simp only [ofJson?, Option.bind_eq_bind, Option.bind_eq_some_iff] at reads
  obtain ⟨fields, -, text, -, system, -, runtime, -, results, -, made⟩ := reads
  cases made
  rfl

end Session

open Session (Blind)

theorem Gateway.blind_complete {α : Type} (endpoint : Endpoint α) (reply : Reply) :
    Blind (complete endpoint reply) :=
  fun _ _ => rfl

theorem Api.adoptRuntimeConfig_withCredential (result : Except ApiError RuntimeConfig)
    (session : Session) (credential : Credential) :
    adoptRuntimeConfig result (session.withCredential credential) =
      (adoptRuntimeConfig result session).withCredential credential := by
  cases result <;> rfl

namespace Poll

theorem blind_start (watched : Watched) : Blind (start watched) := by
  intro session credential
  have same : (session.withCredential credential).text = session.text := rfl
  cases watched with
  | token =>
      simp only [start, same]
      split <;> rfl
  | submission =>
      simp only [start, same]
      split <;> rfl

theorem concludeSubmission_withCredential (config : WatchConfig)
    (answer : Except ApiError SubmitResult) (session : Session) (credential : Credential) :
    concludeSubmission config answer (session.withCredential credential) =
      (concludeSubmission config answer session).withCredential credential := by
  cases answer with
  | ok result =>
      simp only [concludeSubmission]
      split <;> rfl
  | error error => rfl

theorem blind_receive (config : WatchConfig) (reply : Reply) (poll : Poll) :
    Blind fun session => poll.receive config reply session := by
  intro session credential
  cases poll with
  | submission domain =>
      simp only [receive, Gateway.blind_complete _ _ session credential,
        concludeSubmission_withCredential]
  | _ => rfl

end Poll

namespace Snapshot

variable {σ : Type} [KeyValueStore σ]

theorem restore_withCredential (storage : σ) (defaults : Session) (credential : Credential) :
    restore storage (defaults.withCredential credential) =
      (restore storage defaults).map (·.withCredential credential) := by
  simp only [restore]
  cases KeyValueStore.get storage key with
  | error failure => rfl
  | ok stored =>
      simp only [read_eq]
      split <;> rfl

theorem credential_restoreOrDefaults (storage : σ) (defaults : Session) :
    (restoreOrDefaults storage defaults).credential = defaults.credential := by
  have same := restore_withCredential storage defaults defaults.credential
  change restore storage defaults = _ at same
  rw [restoreOrDefaults]
  cases restored : restore storage defaults with
  | error error => rfl
  | ok session =>
      rw [restored] at same
      have own : session = session.withCredential defaults.credential := Except.ok.inj same
      change session.credential = defaults.credential
      rw [own]
      rfl

end Snapshot
end ProbeWatch
