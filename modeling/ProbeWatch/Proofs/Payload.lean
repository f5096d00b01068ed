import ProbeWatch.Payload
import ProbeWatch.Proofs.Json.Record

/-!
# Payloads that are stored

The reader and the writer of each payload that a session holds agree.
-/

namespace ProbeWatch

open Json

theorem agreeOnRecords_dnsRecord (depth : Nat) :
    AgreeOnRecords DnsRecord.ofJson? DnsRecord.toJson depth where
  members record := by
    refine ⟨_, rfl, by simp [Dict.keys], ?_⟩
    simp [(agree_text depth).fits, (agree_int64 depth).fits]
  reads covers := by
    simp [DnsRecord.ofJson?, fields?,
      covers.read (agree_int64 0) "id" rfl,
      covers.read (agree_text 0) "domain" rfl,
      covers.read (agree_text 0) "client_ip" rfl,
      covers.read (agree_text 0) "protocol" rfl,
      covers.read (agree_text 0) "qtype" rfl,
      covers.read (agree_int64 0) "timestamp" rfl,
      covers.read (agree_text 0) "server" rfl,
      covers.read (agree_text 0) "token" rfl]

theorem agree_tokenState (depth : Nat) : Agree TokenState.ofJson? TokenState.toJson depth where
  fits state := (agree_text depth).fits state.name
  reads state := by
    cases state with
    | init => rfl
    | hit => rfl
    | expired => rfl

theorem agreeOnRecords_tokenStatus (depth : Nat) :
    AgreeOnRecords TokenStatus.ofJson? TokenStatus.toJson depth where
  members status := by
    refine ⟨_, rfl, by simp [Dict.keys], ?_⟩
    simp [(agree_text depth).fits, (agree_int64 depth).fits, (agree_bool depth).fits,
      (agree_tokenState depth).fits]
  reads covers := by
    simp [TokenStatus.ofJson?, fields?,
      covers.read (agree_text 0) "token" rfl,
      covers.read (agree_text 0) "domain" rfl,
      covers.read (agree_tokenState 0) "status" rfl,
      covers.read (agree_int64 0) "first_seen" rfl,
      covers.read (agree_int64 0) "last_seen" rfl,
      covers.read (agree_int64 0) "hit_count" rfl,
      covers.read (agree_int64 0) "expires_at" rfl,
      covers.read (agree_bool 0) "expired" rfl]

theorem agreeOnRecords_dnsResult (depth : Nat) :
    AgreeOnRecords DnsResult.ofJson? DnsResult.toJson depth where
  members result := by
    refine ⟨_, rfl, by simp [Dict.keys], ?_⟩
    simp [(agree_text depth).fits]
  reads covers := by
    simp [DnsResult.ofJson?, fields?,
      covers.read (agree_text 0) "ip" rfl,
      covers.read (agree_text 0) "address" rfl]

end ProbeWatch
