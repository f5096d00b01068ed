import ProbeWatch.Proofs.Payload
import ProbeWatch.Session.Basic

/-!
# The stored tree

The reader and the writer of each module of a session agree, and a dictionary reads as a session
when it reads module by module.
-/

namespace ProbeWatch

open Json

/-! ## Modules -/

theorem agree_apiErrorKind (depth : Nat) :
    Agree ApiErrorKind.ofJson? ApiErrorKind.toJson depth where
  fits kind := (agree_text depth).fits kind.name
  reads kind := by
    cases kind <;> rfl

theorem agreeOnRecords_apiError (depth : Nat) :
    AgreeOnRecords ApiError.ofJson? ApiError.toJson depth where
  members error := by
    refine ⟨_, rfl, by simp [Dict.keys], ?_⟩
    simp [(agree_text depth).fits, (agree_uint16 depth).fits, (agree_apiErrorKind depth).fits]
  reads covers := by
    simp [ApiError.ofJson?, fields?,
      covers.require (agree_uint16 0) "status" rfl,
      covers.require (agree_apiErrorKind 0) "kind" rfl,
      covers.require (agree_text 0) "message" rfl]

theorem agreeOnRecords_text (depth : Nat) :
    AgreeOnRecords TextModule.ofJson? TextModule.toJson depth where
  members module := by
    refine ⟨_, rfl, by simp [Dict.keys], ?_⟩
    simp [(agree_text depth).fits]
  reads covers := by
    simp [TextModule.ofJson?, fields?, covers.read (agree_text 0) "domain" rfl]

theorem agree_lastError (depth : Nat) :
    Agree (optional? ApiError.ofJson?) (fun error => (error.map ApiError.toJson).getD .null)
      (depth + 1) :=
  (agreeOnRecords_apiError depth).agree.optional rfl

theorem agreeOnRecords_system (depth : Nat) :
    AgreeOnRecords SystemModule.ofJson? SystemModule.toJson (depth + 1) where
  members module := by
    refine ⟨_, rfl, by simp [Dict.keys], ?_⟩
    simp [(agree_lastError depth).fits]
  reads covers := by
    simp [SystemModule.ofJson?, fields?, covers.read (agree_lastError 0) "apiError" rfl]

theorem agreeOnRecords_runtime (depth : Nat) :
    AgreeOnRecords RuntimeConfig.ofJson? RuntimeConfig.toJson depth where
  members config := by
    refine ⟨_, rfl, by simp [Dict.keys], ?_⟩
    simp [(agree_text depth).fits, (agree_bool depth).fits]
  reads covers := by
    simp [RuntimeConfig.ofJson?, fields?,
      covers.read (agree_bool 0) "apiKeyRequired" rfl,
      covers.read (agree_text 0) "dnsPort" rfl,
      covers.read (agree_text 0) "rootDomain" rfl]

theorem agreeOnRecords_results (depth : Nat) :
    AgreeOnRecords Results.ofJson? Results.toJson (depth + 2) where
  members results := by
    refine ⟨_, rfl, by simp [Dict.keys], ?_⟩
    simp [(agreeOnRecords_dnsResult depth).agree.list.fits,
      (agreeOnRecords_dnsRecord depth).agree.list.fits, (agree_uint64 (depth + 2)).fits,
      ((agreeOnRecords_tokenStatus (depth + 1)).agree.optional rfl).fits,
      (agree_text (depth + 2)).fits]
  reads covers := by
    simp [Results.ofJson?, fields?,
      covers.read (agreeOnRecords_dnsResult 0).agree.list "dnsResults" rfl,
      covers.read (agreeOnRecords_dnsRecord 0).agree.list "records" rfl,
      covers.read (agree_uint64 0) "recordsTotal" rfl,
      covers.read ((agreeOnRecords_tokenStatus 0).agree.optional rfl) "tokenStatus" rfl,
      covers.read (agree_text 0) "error" rfl]

/-! ## Sessions -/

namespace Session

/-- Whether a dictionary holds, under the name of each module, a tree that reads as the module. -/
structure Holds (tree : Dict Json) (session : Session) : Prop where
  text : (Dict.get? "text" tree).bind TextModule.ofJson? = some session.text
  system : (Dict.get? "system" tree).bind SystemModule.ofJson? = some session.system
  runtime : (Dict.get? "runtimeConfig" tree).bind RuntimeConfig.ofJson? = some session.runtime
  results : (Dict.get? "results" tree).bind Results.ofJson? = some session.results

theorem Holds.ofJson? {tree : Dict Json} {session : Session} (holds : Holds tree session) :
    Session.ofJson? (.object tree) = some { session with credential := .absent } := by
  simp [Session.ofJson?, fields?, Fields.read_named holds.text, Fields.read_named holds.system,
    Fields.read_named holds.runtime, Fields.read_named holds.results]

theorem members_toJson (session : Session) :
    ∃ members, session.toJson = .object members ∧ (Dict.keys members).Nodup ∧
      ∀ member ∈ members, Fits 3 member.2 := by
  refine ⟨_, rfl, by simp [Dict.keys], ?_⟩
  simp [(agreeOnRecords_text 2).agree.fits, (agreeOnRecords_system 1).agree.fits,
    (agreeOnRecords_runtime 2).agree.fits, (agreeOnRecords_results 0).agree.fits]

theorem holds_of_covers {tree : Dict Json} {session : Session}
    (covers : Covers tree session.toJson) : Holds tree session where
  text := covers.bind (agreeOnRecords_text 0).agree "text" rfl
  system := covers.bind (agreeOnRecords_system 0).agree "system" rfl
  runtime := covers.bind (agreeOnRecords_runtime 0).agree "runtimeConfig" rfl
  results := covers.bind (agreeOnRecords_results 0).agree "results" rfl

end Session
end ProbeWatch
