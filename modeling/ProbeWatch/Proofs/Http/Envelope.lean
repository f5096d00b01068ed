import ProbeWatch.Api
import ProbeWatch.Proofs.Json.Record

/-!
# Envelopes

A reply brings a payload when it is a response whose body is an object with the code 200, and
nothing else about it matters.  Every other reply stands for a failure that its HTTP status
classifies.
-/

namespace ProbeWatch

/-- Whether a reply is a response with an envelope of the code 200, and what its payload is. -/
def Brings (reply : Reply) (data : Json) : Prop :=
  ∃ response members, reply = .ok response ∧
    Json.parse? response.body = some (.object members) ∧
    Dict.get? "code" members = some (.int 200) ∧
    data = (Dict.get? "data" members).getD .null

/-! ## Failures -/

namespace ApiErrorKind

/-- The statuses that stand for failures of their own. -/
def named : List (UInt16 × ApiErrorKind) :=
  [(401, .unauthorized), (403, .forbidden), (404, .notFound), (429, .rateLimited)]

/-- The kind of failure that a status stands for. -/
def ofStatus (status : UInt16) : ApiErrorKind := (named.lookup status).getD .unknown

end ApiErrorKind

/-- A failed response is classified by its status alone. -/
theorem ApiError.ofStatus_spec (status : UInt16) (path : String) (serverMessage : Option String)
    (apiKeyRequired : Option Bool) :
    (ofStatus status path serverMessage apiKeyRequired).status = status ∧
      (ofStatus status path serverMessage apiKeyRequired).kind = .ofStatus status := by
  by_cases unauthorized : status = 401
  · subst unauthorized
    exact ⟨rfl, rfl⟩
  · by_cases forbidden : status = 403
    · subst forbidden
      exact ⟨rfl, rfl⟩
    · by_cases notFound : status = 404
      · subst notFound
        exact ⟨rfl, rfl⟩
      · by_cases rateLimited : status = 429
        · subst rateLimited
          exact ⟨rfl, rfl⟩
        · rw [ofStatus, if_neg unauthorized, if_neg forbidden, if_neg notFound,
            if_neg rateLimited, ApiErrorKind.ofStatus, ApiErrorKind.named]
          simp only [List.lookup_cons, List.lookup_nil, beq_eq_false_iff_ne.mpr unauthorized,
            beq_eq_false_iff_ne.mpr forbidden, beq_eq_false_iff_ne.mpr notFound,
            beq_eq_false_iff_ne.mpr rateLimited]
          exact ⟨trivial, rfl⟩

/-! ## Codes -/

namespace Json

theorem int64?_eq_some_iff {json : Json} {word : Int64} :
    json.int64? = some word ↔ json = .int word.toInt := by
  constructor
  · intro reads
    rw [int64?, Option.bind_eq_bind, Option.bind_eq_some_iff] at reads
    obtain ⟨value, found, reads⟩ := reads
    split at reads
    · rename_i inside
      rw [← Option.some.inj reads, Int64.toInt_ofInt_of_le inside.1 inside.2]
      cases json with
      | number number =>
          cases number with
          | integer own => rw [int, ← Option.some.inj found]
          | binary own => cases found
      | _ => cases found
    · cases reads
  · rintro rfl
    exact (agree_int64 0).reads word

end Json

namespace Gateway

theorem code?_eq_successCode_iff {envelope : Json} :
    code? (some envelope) = some successCode ↔ envelope.member? "code" = some (.int 200) := by
  rw [code?, Option.bind_some, Option.map_eq_some_iff]
  constructor
  · rintro ⟨word, reads, equal⟩
    obtain ⟨code, found, reads⟩ := Option.bind_eq_some_iff.mp reads
    rw [found, Json.int64?_eq_some_iff.mp reads, equal]
    rfl
  · intro found
    exact ⟨200, by rw [found]; rfl, rfl⟩

theorem payload_eq_ok_iff {path : String} {apiKeyRequired : Option Bool} {reply : Reply}
    {data : Json} : payload path apiKeyRequired reply = .ok data ↔ Brings reply data := by
  constructor
  · intro read
    cases reply with
    | error reason => cases read
    | ok response =>
        simp only [payload] at read
        split at read
        · rename_i success
          cases parsed : Json.parse? response.body with
          | none => cases (parsed ▸ success : code? none = some successCode)
          | some envelope =>
              rw [parsed] at success read
              have found := code?_eq_successCode_iff.mp success
              cases envelope with
              | object members =>
                  exact ⟨response, members, rfl, parsed, found, (Except.ok.inj read).symm⟩
              | _ => cases found
        · cases read
  · rintro ⟨response, members, rfl, parsed, found, rfl⟩
    have success : code? (some (.object members)) = some successCode :=
      code?_eq_successCode_iff.mpr found
    simp only [payload, parsed, if_pos success]
    rfl

variable {α : Type} {endpoint : Endpoint α} {apiKeyRequired : Option Bool} {reply : Reply}

theorem outcome_eq_ok_iff {value : α} :
    outcome endpoint apiKeyRequired reply = .ok value ↔
      ∃ data, Brings reply data ∧ endpoint.read data = some value := by
  rw [outcome]
  constructor
  · intro succeeded
    split at succeeded
    · cases succeeded
    · rename_i data brought
      split at succeeded
      · rename_i own reads
        cases succeeded
        exact ⟨data, payload_eq_ok_iff.mp brought, reads⟩
      · cases succeeded
  · rintro ⟨data, brings, reads⟩
    simp only [payload_eq_ok_iff.mpr brings, reads]

theorem outcome_of_unreadable {data : Json} (brings : Brings reply data)
    (unreadable : endpoint.read data = none) :
    outcome endpoint apiKeyRequired reply =
      .error (.unexpectedPayload endpoint.request.path) := by
  simp only [outcome, payload_eq_ok_iff.mpr brings, unreadable]

theorem exists_outcome_of_refused {response : Response}
    (refused : ¬ ∃ data, Brings (.ok response) data) :
    ∃ serverMessage, outcome endpoint apiKeyRequired (.ok response) =
      .error (.ofStatus response.status endpoint.request.path serverMessage apiKeyRequired) := by
  refine ⟨message? (Json.parse? response.body), ?_⟩
  by_cases success : code? (Json.parse? response.body) = some successCode
  · obtain ⟨data, brought⟩ :
        ∃ data, payload endpoint.request.path apiKeyRequired (.ok response) = .ok data :=
      ⟨_, if_pos success⟩
    exact absurd ⟨data, payload_eq_ok_iff.mp brought⟩ refused
  · simp only [outcome, payload, if_neg success]
    rfl

/-! ## What is said -/

/-- A call whose endpoint warns says nothing about its reply exactly if it succeeds. -/
theorem isSilent_iff (warns : endpoint.warns = true) (words : Json → String) :
    failureLines endpoint.request.path apiKeyRequired reply ++
        payloadLines words endpoint apiKeyRequired reply = [] ↔
      ∃ value, outcome endpoint apiKeyRequired reply = .ok value := by
  rw [List.append_eq_nil_iff]
  cases brought : payload endpoint.request.path apiKeyRequired reply with
  | error error =>
      simp only [outcome, brought]
      constructor
      · rintro ⟨silent, -⟩
        cases reply <;> simp [failureLines, brought] at silent
      · rintro ⟨value, succeeded⟩
        cases succeeded
  | ok data =>
      simp only [outcome, payloadLines, brought, warns]
      cases reply with
      | error reason => cases brought
      | ok response => cases endpoint.read data <;> simp [failureLines, brought]

end Gateway
end ProbeWatch
