import ProbeWatch.Proofs.Client.Switchboard

/-!
# The backend's setup

The backend's account of its own setup is adopted whole or not at all.  An account names each
setting in one of two spellings and the port also as part of an address, and it may leave anything
out; but what it names is of the right type.  The setup that it amounts to has a fallback for each
setting that is missing, and owes nothing to the session that adopts it.
-/

namespace ProbeWatch

/-! ## Numbers as texts -/

theorem Binary64.render_ne_empty (layout : Layout) (value : Binary64) :
    value.render layout ≠ "" := by
  intro empty
  have none := congrArg String.toList empty
  simp only [render] at none
  repeat' split at none
  all_goals simp at none

theorem Number.render_ne_empty (number : Number) : number.render ≠ "" := by
  cases number with
  | integer value =>
      intro empty
      have none := congrArg String.toList empty
      rw [Json.toList_render, String.toList_empty, List.append_eq_nil_iff] at none
      exact Nat.toDigits_ne_nil none.2
  | binary value => exact value.render_ne_empty .json

/-! ## What a payload tells -/

namespace Json

variable {α : Type} {reader : Json → Option α} {writer : α → Json}

/-- What a field tells that may be missing or null, and whose values are written like this. -/
def Tells (writer : α → Json) (field : Option Json) : Option α → Prop
  | none => field = none ∨ field = some .null
  | some value => field = some (writer value) ∧ writer value ≠ .null

theorem optional?_eq_some_iff (reads : ∀ json value, reader json = some value ↔ json = writer value)
    {json : Json} {told : Option α} :
    optional? reader json = some told ↔ Tells writer (some json) told := by
  by_cases null : json = .null
  · subst null
    cases told with
    | none => simp [optional?, Tells]
    | some value => simpa [optional?, Tells] using fun written => written.symm
  · have other : optional? reader json = (reader json).map some := by
      cases json with
      | null => exact absurd rfl null
      | _ => rfl
    rw [other]
    cases told with
    | none => simp [Tells, null]
    | some value =>
        simp only [Option.map_eq_some_iff, Option.some.injEq, exists_eq_right, reads, Tells]
        exact ⟨fun written => ⟨written, written ▸ null⟩, And.left⟩

theorem Fields.read_optional_iff
    (reads : ∀ json value, reader json = some value ↔ json = writer value) {fields : Fields}
    {position : Nat} {name : String} {told : Option α} :
    fields.read position name (optional? reader) none = some told ↔
      Tells writer (fields.find? position name) told := by
  rw [Fields.read]
  cases fields.find? position name with
  | some json => exact optional?_eq_some_iff reads
  | none => cases told <;> simp [Tells]

end Json

namespace Api

/-- The settings in the order in which an array has them. -/
def settingNames : List String :=
  ["apiKeyRequired", "api_key_required", "dnsPort", "dns_port", "dns_listen_addr", "rootDomain",
    "root_domain"]

/-- Whether a payload can hold settings: it is an object, or an array with no items beyond them. -/
def HoldsSettings : Json → Prop
  | .object _ => True
  | .array items => items.length ≤ settingNames.length
  | _ => False

/-- The value of a setting: by name in an object, and by position in an array. -/
def setting? (name : String) : Json → Option Json
  | .object members => Dict.get? name members
  | .array items => items[settingNames.idxOf name]?
  | _ => none

/-- What a payload tells of the backend's setup. -/
structure Account where
  requiredCamel : Option Bool
  requiredSnake : Option Bool
  portCamel : Option Json
  portSnake : Option Json
  listenAddress : Option String
  rootCamel : Option String
  rootSnake : Option String

/-- Whether a payload tells just this. -/
structure Account.IsToldBy (account : Account) (data : Json) : Prop where
  holds : HoldsSettings data
  requiredCamel : Json.Tells .bool (setting? "apiKeyRequired" data) account.requiredCamel
  requiredSnake : Json.Tells .bool (setting? "api_key_required" data) account.requiredSnake
  portCamel : Json.Tells id (setting? "dnsPort" data) account.portCamel
  portSnake : Json.Tells id (setting? "dns_port" data) account.portSnake
  listenAddress : Json.Tells .string (setting? "dns_listen_addr" data) account.listenAddress
  rootCamel : Json.Tells .string (setting? "rootDomain" data) account.rootCamel
  rootSnake : Json.Tells .string (setting? "root_domain" data) account.rootSnake

variable {data : Json} {fields : Json.Fields} {account : Account} {runtime : RuntimeConfig}

theorem holdsSettings_iff : HoldsSettings data ↔ ∃ fields, data.fields? 7 = some fields := by
  cases data with
  | array items => simp [HoldsSettings, Json.fields?, settingNames]
  | _ => simp [HoldsSettings, Json.fields?]

theorem find?_eq_setting? (held : data.fields? 7 = some fields) {position : Nat} {name : String}
    (placed : settingNames.idxOf name = position) :
    fields.find? position name = setting? name data := by
  cases data with
  | object members =>
      cases held
      rfl
  | array items =>
      rw [Json.fields?] at held
      split at held
      · cases held
        rw [setting?, placed]
        rfl
      · cases held
  | _ => cases held

/-- The setup that an account amounts to. -/
def Account.setup (account : Account) : RuntimeConfig where
  apiKeyRequired := (account.requiredCamel <|> account.requiredSnake).getD true
  dnsPort :=
    let port := ((account.portCamel <|> account.portSnake).bind portText).filter (!·.isEmpty)
    (port <|> account.listenAddress.bind inferPort).getD "15353"
  rootDomain := (account.rootCamel <|> account.rootSnake).getD ""

/-- A payload reads as a setup exactly if it tells of one. -/
theorem readRuntimeConfig_eq_some_iff :
    readRuntimeConfig data = some runtime ↔
      ∃ account : Account, account.IsToldBy data ∧ account.setup = runtime := by
  have bools (json : Json) (value : Bool) : json.bool? = some value ↔ json = .bool value := by
    cases json <;> simp [Json.bool?]
  have texts (json : Json) (text : String) : json.text? = some text ↔ json = .string text := by
    cases json <;> simp [Json.text?]
  have trees (json other : Json) : some json = some other ↔ json = id other := by simp
  simp only [readRuntimeConfig, Option.bind_eq_bind, Option.bind_eq_some_iff, Option.pure_def,
    Json.Fields.read_optional_iff bools, Json.Fields.read_optional_iff texts,
    Json.Fields.read_optional_iff trees]
  constructor
  · rintro ⟨fields, held, requiredCamel, first, requiredSnake, second, portCamel, third, portSnake,
      fourth, listenAddress, fifth, rootCamel, sixth, rootSnake, seventh, same⟩
    rw [find?_eq_setting? held (by decide)] at first second third fourth fifth sixth seventh
    exact ⟨⟨requiredCamel, requiredSnake, portCamel, portSnake, listenAddress, rootCamel, rootSnake⟩,
      ⟨holdsSettings_iff.mpr ⟨fields, held⟩, first, second, third, fourth, fifth, sixth, seventh⟩,
      Option.some.inj same⟩
  · rintro ⟨account, told, rfl⟩
    obtain ⟨fields, held⟩ := holdsSettings_iff.mp told.holds
    refine ⟨fields, held, account.requiredCamel, ?_, account.requiredSnake, ?_, account.portCamel,
      ?_, account.portSnake, ?_, account.listenAddress, ?_, account.rootCamel, ?_,
      account.rootSnake, ?_, rfl⟩
    all_goals rw [find?_eq_setting? held (by decide)]
    exacts [told.requiredCamel, told.requiredSnake, told.portCamel, told.portSnake,
      told.listenAddress, told.rootCamel, told.rootSnake]

/-- Whether a value gives the port: as a number, or as a text that is not empty. -/
def GivesPort (value : Option Json) (port : String) : Prop :=
  (∃ number, value = some (.number number) ∧ port = number.render) ∨
    (value = some (.string port) ∧ port ≠ "")

/-- Whether an address shows the port: what follows its last colon is the port but for blanks. -/
def ShowsPort (address : Option String) (port : String) : Prop :=
  ∃ front rest, address = some (String.ofList (front ++ ':' :: rest)) ∧ ':' ∉ rest ∧
    port = Text.trim (String.ofList rest) ∧ port ≠ ""

/-- Whether this is the setup that an account amounts to. -/
structure Account.Means (account : Account) (runtime : RuntimeConfig) : Prop where
  required : runtime.apiKeyRequired = (account.requiredCamel <|> account.requiredSnake).getD true
  port : GivesPort (account.portCamel <|> account.portSnake) runtime.dnsPort ∨
    (¬ ∃ port, GivesPort (account.portCamel <|> account.portSnake) port) ∧
      (ShowsPort account.listenAddress runtime.dnsPort ∨
        (¬ ∃ port, ShowsPort account.listenAddress port) ∧ runtime.dnsPort = "15353")
  root : runtime.rootDomain = (account.rootCamel <|> account.rootSnake).getD ""

theorem givesPort_iff {value : Option Json} {port : String} :
    GivesPort value port ↔ (value.bind portText).filter (!·.isEmpty) = some port := by
  rw [Option.filter_eq_some_iff, Option.bind_eq_some_iff, GivesPort]
  constructor
  · rintro (⟨number, rfl, rfl⟩ | ⟨rfl, filled⟩)
    · exact ⟨⟨_, rfl, rfl⟩, by simpa using number.render_ne_empty⟩
    · exact ⟨⟨_, rfl, rfl⟩, by simpa using filled⟩
  · rintro ⟨⟨json, rfl, text⟩, filled⟩
    cases json with
    | number number =>
        cases text
        exact .inl ⟨number, rfl, rfl⟩
    | string own =>
        cases text
        exact .inr ⟨rfl, by simpa using filled⟩
    | _ => cases text

theorem showsPort_iff {address : Option String} {port : String} :
    ShowsPort address port ↔ address.bind inferPort = some port := by
  simp only [ShowsPort, inferPort, Option.bind_eq_some_iff, Text.afterLast?_eq_some_iff,
    Text.trimmed?_eq_some_iff]
  constructor
  · rintro ⟨front, rest, rfl, last, shown⟩
    exact ⟨_, rfl, rest, ⟨front, String.toList_ofList, last⟩, shown⟩
  · rintro ⟨address, rfl, rest, ⟨front, cut, last⟩, shown⟩
    exact ⟨front, rest, by rw [← cut, String.ofList_toList], last, shown⟩

theorem Account.means_iff : account.Means runtime ↔ account.setup = runtime := by
  have chosen (first second : Option String) (fallback port : String) :
      (first <|> second).getD fallback = port ↔ first = some port ∨ (¬ ∃ own, first = some own) ∧
        (second = some port ∨ (¬ ∃ own, second = some own) ∧ port = fallback) := by
    cases first <;> cases second <;> simp [eq_comm]
  have port := chosen (((account.portCamel <|> account.portSnake).bind portText).filter (!·.isEmpty))
    (account.listenAddress.bind inferPort) "15353" runtime.dnsPort
  simp only [← givesPort_iff, ← showsPort_iff] at port
  constructor
  · intro means
    obtain ⟨required, dnsPort, root⟩ := runtime
    rw [Account.setup, RuntimeConfig.mk.injEq]
    exact ⟨means.required.symm, port.mpr means.port, means.root.symm⟩
  · rintro rfl
    exact ⟨rfl, port.mp rfl, rfl⟩

theorem Account.Means.dnsPort_ne_empty (means : account.Means runtime) : runtime.dnsPort ≠ "" := by
  rcases means.port with given | ⟨-, ⟨front, rest, -, -, -, filled⟩ | ⟨-, fallback⟩⟩
  · rcases given with ⟨number, -, text⟩ | ⟨-, filled⟩
    · exact text ▸ number.render_ne_empty
    · exact filled
  · exact filled
  · exact fallback ▸ by decide

end Api

/-! ## Adoption -/

theorem Api.adoptRuntimeConfig_eq (result : Except ApiError RuntimeConfig) (session : Session) :
    adoptRuntimeConfig result session =
      { session with runtime := result.toOption.getD session.runtime } := by
  cases result <;> rfl

namespace Exchange

/-- A question for the backend's setup returns the setup that the session is left with: what was
answered or else the one before.  But for this and the error on display the session is the same. -/
theorem exists_outcome_of_loadRuntimeConfig (exchange : Exchange) :
    ∃ result : Except ApiError RuntimeConfig,
      Return.IsDue ⟨.setup, (exchange.script.take "/config").1.reply, result⟩ ∧
        exchange.loadRuntimeConfig.1 = result.toOption.getD exchange.session.runtime ∧
        exchange.loadRuntimeConfig.2.session =
          { exchange.session with
            system.apiError := Gateway.errorOf result
            runtime := result.toOption.getD exchange.session.runtime } := by
  let reply := (exchange.script.take "/config").1.reply
  let required := some exchange.session.runtime.apiKeyRequired
  have due := isDue_outcome .setup reply required
  have loaded : exchange.loadRuntimeConfig.2.session =
      Api.adoptRuntimeConfig (Gateway.outcome Api.runtimeConfig required reply)
        (exchange.session.setApiError
          (Gateway.errorOf (Gateway.outcome Api.runtimeConfig required reply))) :=
    rfl
  have returned : exchange.loadRuntimeConfig.1 = exchange.loadRuntimeConfig.2.session.runtime := rfl
  rw [returned, loaded, Api.adoptRuntimeConfig_eq]
  exact ⟨_, due, rfl, rfl⟩

/-- The backend's setup is adopted whole or not at all, and the session is left with the setup that
the call returns.  If the reply brings a payload that tells of a setup, this is what the payload
means, whatever the session held before; its port is not empty, and no error is on display.
Otherwise the setup stays as it was, and the failure that the reply calls for is on display.  Nothing
else about the session changes. -/
theorem setup_is_adopted_whole_or_not_at_all (exchange : Exchange) :
    let reply := (exchange.script.take "/config").1.reply
    let runtime := exchange.loadRuntimeConfig.1
    let after := exchange.loadRuntimeConfig.2.session
    after = { exchange.session with system.apiError := after.system.apiError, runtime } ∧
      (∀ data account, Brings reply data → Api.Account.IsToldBy account data →
        (∀ other, account.Means other ↔ runtime = other) ∧ runtime.dnsPort ≠ "" ∧
          after.system.apiError = none) ∧
      ((¬ ∃ data account, Brings reply data ∧ Api.Account.IsToldBy account data) →
        runtime = exchange.session.runtime ∧
          ∃ failure, Return.IsDue ⟨.setup, reply, .error failure⟩ ∧
            after.system.apiError = some failure) := by
  intro reply runtime after
  obtain ⟨result, due, returned, left⟩ := exchange.exists_outcome_of_loadRuntimeConfig
  change runtime = _ at returned
  change after = _ at left
  refine ⟨?_, fun data account brings told => ?_, fun untold => ?_⟩
  · rw [left, ← returned]
  · have reads : Api.readRuntimeConfig data = some account.setup :=
      Api.readRuntimeConfig_eq_some_iff.mpr ⟨account, told, rfl⟩
    have answered : result = .ok account.setup := (due.ok_iff _).mpr ⟨data, brings, reads⟩
    rw [answered] at returned left
    have meant (other : RuntimeConfig) : account.Means other ↔ runtime = other := by
      rw [Api.Account.means_iff, returned]
      exact Iff.rfl
    exact ⟨meant, ((meant runtime).mpr rfl).dnsPort_ne_empty, congrArg (·.system.apiError) left⟩
  · cases result with
    | ok answer =>
        obtain ⟨data, brings, reads⟩ := (due.ok_iff answer).mp rfl
        obtain ⟨account, told, -⟩ := Api.readRuntimeConfig_eq_some_iff.mp reads
        exact absurd ⟨data, account, brings, told⟩ untold
    | error failure => exact ⟨returned, failure, due, congrArg (·.system.apiError) left⟩

/-- An account by position, in which the port is only to be had from the address. -/
def addressPayload : Json :=
  .array [.null, .bool false, .string "", .int 77, .string " [::]: 53 "]

/-- The session held another setup, of which nothing is left when the payload arrives; and all of it
when there is no response. -/
theorem setup_of_address_payload :
    let body := (Json.object [("code", .int 200), ("data", addressPayload)]).compact
    let session : Session :=
      { runtime := { dnsPort := "77", rootDomain := "old.example" }
        system := { apiError := some (.noResponse 0) } }
    let exchange (reply : Reply) : Exchange :=
      ⟨session, [("/config", [⟨reply, 0⟩])], [], [], fun _ => "malformed"⟩
    let after (reply : Reply) : Session := (exchange reply).loadRuntimeConfig.2.session
    Brings (.ok ⟨404, body⟩) addressPayload ∧
      (after (.ok ⟨404, body⟩)).runtime = ⟨false, "53", ""⟩ ∧
      (after (.ok ⟨404, body⟩)).system.apiError = none ∧
      (after (.error (.timeout ""))).runtime = session.runtime := by
  intro body session exchange after
  have parsed : Json.parse? body =
      some (.object [("code", .int 200), ("data", addressPayload)]) :=
    Json.parse?_compact (by decide) (by decide)
  have brings : Brings (.ok ⟨404, body⟩) addressPayload := ⟨_, _, rfl, parsed, rfl, rfl⟩
  let account : Api.Account :=
    ⟨none, some false, some (.string ""), some (.int 77), some " [::]: 53 ", none, none⟩
  have told : account.IsToldBy addressPayload :=
    ⟨(by decide : 5 ≤ 7), .inr rfl, ⟨rfl, nofun⟩, ⟨rfl, nofun⟩, ⟨rfl, nofun⟩, ⟨rfl, nofun⟩,
      .inl rfl, .inl rfl⟩
  have setup : account.setup = ⟨false, "53", ""⟩ := by decide +kernel
  obtain ⟨same, adopts, -⟩ := (exchange (.ok ⟨404, body⟩)).setup_is_adopted_whole_or_not_at_all
  obtain ⟨means, -, clear⟩ := adopts addressPayload account brings told
  obtain ⟨unchanged, -, keeps⟩ :=
    (exchange (.error (.timeout ""))).setup_is_adopted_whole_or_not_at_all
  have untold : ¬ ∃ data account, Brings (.error (.timeout "")) data ∧
      Api.Account.IsToldBy account data := by
    rintro ⟨data, account, ⟨response, members, arrived, -⟩, -⟩
    cases arrived
  refine ⟨brings, ?_, clear, ?_⟩
  · exact (congrArg Session.runtime same).trans ((means _).mp (Api.Account.means_iff.mpr setup))
  · exact (congrArg Session.runtime unchanged).trans (keeps untold).1

end Exchange
end ProbeWatch
