import ProbeWatch.Config
import ProbeWatch.Proofs.Failure
import ProbeWatch.Proofs.Text.Blank
import ProbeWatch.Proofs.Text.Digits

/-!
# Settings from the environment

Nine variables are read, each for one setting.  What a variable means is told apart from how it is
read: a variable holds a text between blanks or counts as unset, and a text spells a number or names
a choice or does neither.  The settings of an environment follow from that, variable by variable,
and so does the complaint about the first variable that cannot be understood.
-/

namespace ProbeWatch

open Text (isBlank)

/-! ## Numbers and choices -/

/-- Whether a text is a number: an optional plus sign and decimal digits. -/
def SpellsNumber (text : String) (value : Nat) : Prop :=
  ∃ digits, (text.toList = digits ∨ text.toList = '+' :: digits) ∧ Denotes digits value

theorem ReconcileMode.ofName?_eq_some_iff {name : String} {mode : ReconcileMode} :
    ofName? name = some mode ↔ name = mode.name := by
  constructor
  · intro named
    rw [ofName?.eq_def] at named
    split at named <;> cases named <;> rfl
  · rintro rfl
    cases mode <;> rfl

theorem ReconcileMode.exists_ofName?_iff {name : String} :
    (∃ mode, ofName? name = some mode) ↔ name = "replace" ∨ name = "append" := by
  simp only [ofName?_eq_some_iff]
  constructor
  · rintro ⟨mode, rfl⟩
    cases mode with
    | replace => exact .inl rfl
    | append => exact .inr rfl
  · rintro (rfl | rfl)
    · exact ⟨.replace, rfl⟩
    · exact ⟨.append, rfl⟩

theorem FailurePolicy.ofName?_eq_some_iff {name : String} {policy : FailurePolicy} :
    ofName? name = some policy ↔ name = policy.name := by
  constructor
  · intro named
    rw [ofName?.eq_def] at named
    split at named <;> cases named <;> rfl
  · rintro rfl
    cases policy <;> rfl

theorem FailurePolicy.exists_ofName?_iff {name : String} :
    (∃ policy, ofName? name = some policy) ↔ name = "keep" ∨ name = "clear" := by
  simp only [ofName?_eq_some_iff]
  constructor
  · rintro ⟨policy, rfl⟩
    cases policy with
    | keep => exact .inl rfl
    | clear => exact .inr rfl
  · rintro (rfl | rfl)
    · exact ⟨.keep, rfl⟩
    · exact ⟨.clear, rfl⟩

namespace ClientConfig

theorem exists_number?_eq (bound : Nat) (text : String) :
    ∃ digits, number? bound text =
        (if digits.isEmpty || !digits.all Text.isDigit then none
          else if Text.decimalValue digits < bound then some (Text.decimalValue digits) else none) ∧
      ∀ spelled value, Denotes spelled value →
        (text.toList = spelled ∨ text.toList = '+' :: spelled → digits = spelled) ∧
          (digits = spelled → text.toList = spelled ∨ text.toList = '+' :: spelled) := by
  have unsigned : ∀ {spelled rest value}, Denotes spelled value → spelled ≠ '+' :: rest := by
    rintro _ rest value denotes rfl
    cases denotes.digit '+' List.mem_cons_self
  rw [number?.eq_def]
  split
  · rename_i rest signed
    refine ⟨rest, rfl, fun spelled value denotes => ⟨?_, ?_⟩⟩
    · rintro (same | same)
      · exact absurd (same.symm.trans signed) (unsigned denotes)
      · exact (List.cons.inj (signed.symm.trans same)).2
    · rintro rfl
      exact .inr signed
  · rename_i plain
    refine ⟨text.toList, rfl, fun spelled value denotes => ⟨?_, .inl⟩⟩
    rintro (same | same)
    · exact same
    · exact (plain spelled same).elim

theorem number?_eq_some_iff {bound : Nat} {text : String} {value : Nat} :
    number? bound text = some value ↔ SpellsNumber text value ∧ value < bound := by
  obtain ⟨digits, read, spelling⟩ := exists_number?_eq bound text
  rw [read]
  constructor
  · intro found
    split at found
    · cases found
    · rename_i known
      simp only [Bool.or_eq_true, not_or, Bool.not_eq_true, List.isEmpty_eq_false_iff,
        Bool.not_eq_false', List.all_eq_true] at known
      have denotes : Denotes digits (Text.decimalValue digits) := ⟨known.1, known.2, rfl⟩
      split at found
      · rename_i below
        rw [← Option.some.inj found]
        exact ⟨⟨digits, (spelling _ _ denotes).2 rfl, denotes⟩, below⟩
      · cases found
  · rintro ⟨⟨spelled, written, denotes⟩, below⟩
    obtain rfl := (spelling _ _ denotes).1 written
    have known : ¬ (digits.isEmpty || !digits.all Text.isDigit) = true := by
      simpa using ⟨denotes.nonempty, denotes.digit⟩
    rw [if_neg known, denotes.value_eq, if_pos below]

/-! ## What a variable holds -/

/-- Whether a variable holds a text.  The blanks around it do not count, so the text itself neither
begins nor ends with one, and it is not empty. -/
def Holds (environment : Dict String) (name text : String) : Prop :=
  (text ≠ "" ∧ (∀ c ∈ text.toList.head?, isBlank c = false) ∧
      ∀ c ∈ text.toList.getLast?, isBlank c = false) ∧
    ∃ raw front back, Dict.get? name environment = some raw ∧
      raw.toList = front ++ text.toList ++ back ∧
      (∀ c ∈ front, isBlank c = true) ∧ ∀ c ∈ back, isBlank c = true

/-- Whether a variable counts as unset: there is none of this name, or it has nothing but blanks. -/
def Lacks (environment : Dict String) (name : String) : Prop :=
  ∀ raw, Dict.get? name environment = some raw → ∀ c ∈ raw.toList, isBlank c = true

variable {environment : Dict String} {key text : String}

theorem setting?_eq_some_iff :
    setting? environment key = some text ↔ Holds environment key text := by
  rw [setting?, Option.bind_eq_some_iff]
  constructor
  · rintro ⟨raw, found, trimmed⟩
    obtain ⟨same, filled⟩ := Text.trimmed?_eq_some_iff.mp trimmed
    have kept : Text.trimChars raw.toList = text.toList := by rw [same, Text.toList_trim]
    obtain ⟨whole, front, back, padded, leading, trailing⟩ := Text.trimChars_eq_iff.mp kept
    exact ⟨⟨filled, Text.trimChars_eq_self_iff.mp whole⟩, raw, front, back, found, padded, leading,
      trailing⟩
  · rintro ⟨⟨filled, whole⟩, raw, front, back, found, padded, leading, trailing⟩
    have kept : Text.trimChars raw.toList = text.toList :=
      Text.trimChars_eq_iff.mpr
        ⟨Text.trimChars_eq_self_iff.mpr whole, front, back, padded, leading, trailing⟩
    refine ⟨raw, found, Text.trimmed?_eq_some_iff.mpr ⟨?_, filled⟩⟩
    rw [Text.trim, kept, String.ofList_toList]

theorem setting?_eq_none_iff : setting? environment key = none ↔ Lacks environment key := by
  rw [setting?, Option.bind_eq_none_iff]
  refine forall₂_congr fun raw found => ?_
  rw [← Text.isAllBlank_iff, ← Option.not_isSome_iff_eq_none, Text.isSome_trimmed?_iff,
    Bool.not_eq_false]

/-- Whether a setting is what its variable means, or the fallback if that counts as unset. -/
def Settled {α : Type} (environment : Dict String) (name : String) (Means : String → α → Prop)
    (fallback value : α) : Prop :=
  Lacks environment name ∧ value = fallback ∨ ∃ text, Holds environment name text ∧ Means text value

section

variable {α : Type} {Means : String → α → Prop} {fallback value : α}

theorem settled_of_none (unset : setting? environment key = none) :
    Settled environment key Means fallback value ↔ value = fallback := by
  constructor
  · rintro (⟨-, same⟩ | ⟨text, holds, -⟩)
    · exact same
    · rw [← setting?_eq_some_iff, unset] at holds
      cases holds
  · exact fun same => .inl ⟨setting?_eq_none_iff.mp unset, same⟩

theorem settled_of_some (set : setting? environment key = some text) :
    Settled environment key Means fallback value ↔ Means text value := by
  constructor
  · rintro (⟨lacks, -⟩ | ⟨other, holds, means⟩)
    · rw [← setting?_eq_none_iff, set] at lacks
      cases lacks
    · rw [← setting?_eq_some_iff, set] at holds
      rwa [Option.some.inj holds]
  · exact fun means => .inr ⟨text, setting?_eq_some_iff.mp set, means⟩

/-! ## How a variable is read -/

/-- The setting that a variable means, or the fallback if that counts as unset, or a complaint. -/
def readSetting (environment : Dict String) (name : String) (read? : String → Option α)
    (complaint : String → String) (fallback : α) : Except Failure α :=
  match setting? environment name with
  | none => .ok fallback
  | some text =>
      match read? text with
      | some value => .ok value
      | none => .error (.config (complaint text))

variable {read? : String → Option α} {complaint : String → String}

theorem readNumber_eq (environment : Dict String) (name : String) (bound fallback : Nat) :
    readNumber environment name bound fallback =
      readSetting environment name (number? bound)
        (fun text => name ++ " must be a non-negative integer. Got: " ++ text) fallback := by
  cases held : setting? environment name with
  | none => simp only [readNumber, readSetting, held]
  | some text => cases read : number? bound text <;> simp only [readNumber, readSetting, held, read]

theorem readChoice_eq (environment : Dict String) (name : String) (ofName? : String → Option α)
    (valid : String) (fallback : α) :
    readChoice environment name ofName? valid fallback =
      readSetting environment name (fun text => ofName? (Text.lowercase text))
        (fun text => name ++ " '" ++ Text.lowercase text ++ "' is not valid. " ++ valid)
        fallback := rfl

theorem readSetting_eq_ok_iff :
    readSetting environment key read? complaint fallback = .ok value ↔
      Settled environment key (fun text value => read? text = some value) fallback value := by
  cases held : setting? environment key with
  | none =>
      rw [settled_of_none held]
      simp only [readSetting, held, Except.ok.injEq, eq_comm]
  | some text =>
      rw [settled_of_some held]
      cases found : read? text <;> simp [readSetting, held, found]

end

/-! ## Variables that may be refused -/

/-- The variables of which not every text is understood. -/
inductive Checked
  | interval
  | maxDuration
  | timeout
  | mode
  | onFailure
  | pageSize
deriving DecidableEq

namespace Checked

/-- The name of a variable. -/
def name : Checked → String
  | interval => "DNSLOG_POLL_INTERVAL_MS"
  | maxDuration => "DNSLOG_POLL_MAX_DURATION_MS"
  | timeout => "DNSLOG_REQUEST_TIMEOUT_SECS"
  | mode => "DNSLOG_WATCH_MODE"
  | onFailure => "DNSLOG_WATCH_ON_FAILURE"
  | pageSize => "DNSLOG_PAGE_SIZE"

/-- Whether a text is understood: a number of the width of the setting, or a known word in any
case. -/
def Accepts : Checked → String → Prop
  | interval, text | maxDuration, text | timeout, text =>
      ∃ value < UInt64.size, SpellsNumber text value
  | pageSize, text => ∃ value < UInt32.size, SpellsNumber text value
  | mode, text => Text.lowercase text = "replace" ∨ Text.lowercase text = "append"
  | onFailure, text => Text.lowercase text = "keep" ∨ Text.lowercase text = "clear"

/-- What is said of a text that is not understood, behind the name of its variable. -/
def complaint : Checked → String → String
  | interval, text | maxDuration, text | timeout, text | pageSize, text =>
      " must be a non-negative integer. Got: " ++ text
  | mode, text =>
      " '" ++ Text.lowercase text ++ "' is not valid. " ++ "Valid modes: replace, append"
  | onFailure, text =>
      " '" ++ Text.lowercase text ++ "' is not valid. " ++ "Valid policies: keep, clear"

/-- The order in which the variables are read. -/
def inOrder : List Checked := [interval, maxDuration, timeout, mode, onFailure, pageSize]

end Checked

/-- Whether a variable holds a text that is not understood. -/
def Offends (environment : Dict String) (checked : Checked) : Prop :=
  ∃ text, Holds environment checked.name text ∧ ¬ checked.Accepts text

/-- Whether this failure is the complaint about the text that a variable holds. -/
def Refuses (environment : Dict String) (failure : Failure) (checked : Checked) : Prop :=
  ∃ text, Holds environment checked.name text ∧ ¬ checked.Accepts text ∧
    failure = .config (checked.name ++ checked.complaint text)

/-- Whether a variable is read by this operation: it fails with the complaint about its text, and
succeeds if there is none. -/
structure IsReadBy {α : Type} (environment : Dict String) (checked : Checked)
    (reading : Except Failure α) : Prop where
  refused (failure : Failure) : reading = .error failure ↔ Refuses environment failure checked
  accepted : (∃ value, reading = .ok value) ↔ ¬ Offends environment checked

section

variable {α : Type} {fallback : α}

theorem isReadBy_readSetting (checked : Checked) {read? : String → Option α}
    {complaint : String → String}
    (accepts : ∀ text, checked.Accepts text ↔ ∃ value, read? text = some value)
    (complains : ∀ text, complaint text = checked.name ++ checked.complaint text) :
    IsReadBy environment checked
      (readSetting environment checked.name read? complaint fallback) where
  refused failure := by
    simp only [Refuses, ← setting?_eq_some_iff, accepts, ← complains]
    cases held : setting? environment checked.name with
    | none => simp [readSetting, held]
    | some text => cases found : read? text <;> simp [readSetting, held, found, eq_comm]
  accepted := by
    simp only [Offends, ← setting?_eq_some_iff, accepts]
    cases held : setting? environment checked.name with
    | none => simp [readSetting, held]
    | some text => cases found : read? text <;> simp [readSetting, held, found]

theorem isReadBy_readNumber (checked : Checked) {bound fallback : Nat}
    (accepts : checked.Accepts = fun text => ∃ value < bound, SpellsNumber text value)
    (complains : checked.complaint = fun text =>
      " must be a non-negative integer. Got: " ++ text) :
    IsReadBy environment checked (readNumber environment checked.name bound fallback) := by
  rw [readNumber_eq]
  refine isReadBy_readSetting checked (fun text => ?_) (fun text => ?_)
  · simp only [accepts, number?_eq_some_iff, and_comm]
  · rw [complains, String.append_assoc]

theorem isReadBy_readChoice (checked : Checked) {ofName? : String → Option α} {valid : String}
    (accepts : ∀ text, checked.Accepts text ↔ ∃ choice, ofName? (Text.lowercase text) = some choice)
    (complains : checked.complaint = fun text =>
      " '" ++ Text.lowercase text ++ "' is not valid. " ++ valid) :
    IsReadBy environment checked (readChoice environment checked.name ofName? valid fallback) := by
  rw [readChoice_eq]
  refine isReadBy_readSetting checked accepts fun text => ?_
  simp only [complains, String.append_assoc]

/-- Reading a variable in front of others fails with its complaint, or else as the others do. -/
theorem IsReadBy.bind_eq_error_iff {β : Type} {checked : Checked} {reading : Except Failure α}
    {others : α → Except Failure β} {failure : Failure} {later : Prop}
    (isRead : IsReadBy environment checked reading)
    (goesOn : ∀ value, others value = .error failure ↔ later) :
    (reading >>= others) = .error failure ↔
      Refuses environment failure checked ∨ ¬ Offends environment checked ∧ later := by
  simp only [bind_eq_error, goesOn, exists_and_right, isRead.refused, isRead.accepted]

end

/-- Whether this failure is the complaint about the first of these variables that offends. -/
def IsFirstRefusal (environment : Dict String) (failure : Failure) : List Checked → Prop
  | [] => False
  | checked :: others =>
      Refuses environment failure checked ∨
        ¬ Offends environment checked ∧ IsFirstRefusal environment failure others

theorem isFirstRefusal_iff {failure : Failure} {order : List Checked} :
    IsFirstRefusal environment failure order ↔
      ∃ before checked after, order = before ++ checked :: after ∧
        (∀ earlier ∈ before, ¬ Offends environment earlier) ∧
          Refuses environment failure checked := by
  induction order with
  | nil => simp [IsFirstRefusal]
  | cons first others ih =>
      rw [IsFirstRefusal, ih]
      constructor
      · rintro (refused | ⟨innocent, before, checked, after, rfl, earlier, refused⟩)
        · exact ⟨[], first, others, rfl, nofun, refused⟩
        · exact ⟨first :: before, checked, after, rfl,
            List.forall_mem_cons.mpr ⟨innocent, earlier⟩, refused⟩
      · rintro ⟨before, checked, after, same, earlier, refused⟩
        cases before with
        | nil =>
            obtain ⟨rfl, -⟩ := List.cons.inj same
            exact .inl refused
        | cons _ before =>
            obtain ⟨rfl, rfl⟩ := List.cons.inj same
            obtain ⟨innocent, earlier⟩ := List.forall_mem_cons.mp earlier
            exact .inr ⟨innocent, before, checked, after, rfl, earlier, refused⟩

/-- Settings fail to be read with the complaint about the first variable that offends. -/
theorem ofEnvironment_eq_error_iff {failure : Failure} :
    ofEnvironment environment = .error failure ↔
      IsFirstRefusal environment failure Checked.inOrder := by
  refine (isReadBy_readNumber .interval rfl rfl).bind_eq_error_iff fun _ => ?_
  refine (isReadBy_readNumber .maxDuration rfl rfl).bind_eq_error_iff fun _ => ?_
  refine (isReadBy_readNumber .timeout rfl rfl).bind_eq_error_iff fun _ => ?_
  refine (isReadBy_readChoice .mode (fun _ => ?_) rfl).bind_eq_error_iff fun _ => ?_
  · rw [Checked.Accepts, ReconcileMode.exists_ofName?_iff]
  refine (isReadBy_readChoice .onFailure (fun _ => ?_) rfl).bind_eq_error_iff fun _ => ?_
  · rw [Checked.Accepts, FailurePolicy.exists_ofName?_iff]
  refine (isReadBy_readNumber .pageSize rfl rfl).bind_eq_error_iff fun _ => ?_
  exact ⟨nofun, False.elim⟩

/-! ## The settings of an environment -/

/-- Whether each setting is what its own variable means, or the default where that counts as unset;
what has no variable is left at its default. -/
structure IsSettledBy (environment : Dict String) (config : ClientConfig) : Prop where
  baseUrl : Settled environment "DNSLOG_API_BASE_URL"
    (fun text url => url = BaseUrl.normalize text) "/api" config.apiBaseUrl
  apiKey : Settled environment "DNSLOG_API_KEY" (fun text key => key = some text) none
    config.envApiKey
  interval : Settled environment "DNSLOG_POLL_INTERVAL_MS" SpellsNumber 2000
    config.poll.intervalMs.toNat
  maxDuration : Settled environment "DNSLOG_POLL_MAX_DURATION_MS" SpellsNumber 0
    config.poll.maxDurationMs.toNat
  timeout : Settled environment "DNSLOG_REQUEST_TIMEOUT_SECS" SpellsNumber 10
    config.requestTimeoutSecs.toNat
  statePath : Settled environment "DNSLOG_STATE_PATH" (fun text path => path = text)
    "dnslog-state.json" config.statePath
  mode : Settled environment "DNSLOG_WATCH_MODE"
    (fun text mode => Text.lowercase text = mode.name) .replace config.watch.mode
  onFailure : Settled environment "DNSLOG_WATCH_ON_FAILURE"
    (fun text policy => Text.lowercase text = policy.name) .keep config.watch.onFailure
  pageSize : Settled environment "DNSLOG_PAGE_SIZE" SpellsNumber 20 config.watch.pageSize.toNat
  eventChannelCapacity : config.poll.eventChannelCapacity = 1000
  order : config.watch.order = .descending

theorem settled_baseUrl_iff {url : String} :
    Settled environment key (fun text url => url = BaseUrl.normalize text) "/api" url ↔
      BaseUrl.normalize ((setting? environment key).getD "") = url := by
  cases held : setting? environment key with
  | none => rw [settled_of_none held]; exact eq_comm
  | some text => rw [settled_of_some held]; exact eq_comm

theorem settled_apiKey_iff {apiKey : Option String} :
    Settled environment key (fun text apiKey => apiKey = some text) none apiKey ↔
      setting? environment key = apiKey := by
  cases held : setting? environment key with
  | none => rw [settled_of_none held]; exact eq_comm
  | some text => rw [settled_of_some held]; exact eq_comm

theorem settled_text_iff {fallback value : String} :
    Settled environment key (fun text value => value = text) fallback value ↔
      (setting? environment key).getD fallback = value := by
  cases held : setting? environment key with
  | none => rw [settled_of_none held]; exact eq_comm
  | some text => rw [settled_of_some held]; exact eq_comm

theorem exists_readNumber_iff {Word : Type} {ofNat : Nat → Word} {toNat : Word → Nat}
    {bound fallback : Nat} (inverse : ∀ value < bound, toNat (ofNat value) = value)
    (back : ∀ word, ofNat (toNat word) = word) (narrow : ∀ word, toNat word < bound)
    (small : fallback < bound) {word : Word} :
    (∃ value, readNumber environment key bound fallback = .ok value ∧ ofNat value = word) ↔
      Settled environment key SpellsNumber fallback (toNat word) := by
  simp only [readNumber_eq, readSetting_eq_ok_iff, number?_eq_some_iff]
  cases held : setting? environment key with
  | none =>
      simp only [settled_of_none held]
      constructor
      · rintro ⟨_, rfl, rfl⟩
        exact inverse _ small
      · intro same
        exact ⟨_, rfl, same ▸ back word⟩
  | some text =>
      simp only [settled_of_some held]
      constructor
      · rintro ⟨value, ⟨spells, below⟩, rfl⟩
        rwa [inverse value below]
      · exact fun spells => ⟨toNat word, ⟨spells, narrow word⟩, back word⟩

theorem readChoice_eq_ok_iff {α : Type} {ofName? : String → Option α} (valid : String)
    {fallback choice : α} {nameOf : α → String}
    (named : ∀ name choice, ofName? name = some choice ↔ name = nameOf choice) :
    readChoice environment key ofName? valid fallback = .ok choice ↔
      Settled environment key (fun text choice => Text.lowercase text = nameOf choice) fallback
        choice := by
  rw [readChoice_eq, readSetting_eq_ok_iff]
  simp only [named]

theorem exists_readNumber_uint64_iff {fallback : Nat} (small : fallback < UInt64.size)
    {word : UInt64} :
    (∃ value, readNumber environment key UInt64.size fallback = .ok value ∧
        UInt64.ofNat value = word) ↔
      Settled environment key SpellsNumber fallback word.toNat :=
  exists_readNumber_iff (fun _ => UInt64.toNat_ofNat_of_lt') (fun _ => UInt64.ofNat_toNat)
    UInt64.toNat_lt small

theorem exists_readNumber_uint32_iff {fallback : Nat} (small : fallback < UInt32.size)
    {word : UInt32} :
    (∃ value, readNumber environment key UInt32.size fallback = .ok value ∧
        UInt32.ofNat value = word) ↔
      Settled environment key SpellsNumber fallback word.toNat :=
  exists_readNumber_iff (fun _ => UInt32.toNat_ofNat_of_lt') (fun _ => UInt32.ofNat_toNat)
    UInt32.toNat_lt small

/-- Settings are read just if each is what its own variable means. -/
theorem ofEnvironment_eq_ok_iff {config : ClientConfig} :
    ofEnvironment environment = .ok config ↔ IsSettledBy environment config := by
  simp only [ofEnvironment, bind_eq_ok]
  constructor
  · rintro ⟨interval, first, duration, second, timeout, third, mode, fourth, policy, fifth, size,
      sixth, made⟩
    obtain rfl := Except.ok.inj made
    exact {
      baseUrl := settled_baseUrl_iff.mpr rfl
      apiKey := settled_apiKey_iff.mpr rfl
      interval := (exists_readNumber_uint64_iff (by decide)).mp ⟨_, first, rfl⟩
      maxDuration := (exists_readNumber_uint64_iff (by decide)).mp ⟨_, second, rfl⟩
      timeout := (exists_readNumber_uint64_iff (by decide)).mp ⟨_, third, rfl⟩
      statePath := settled_text_iff.mpr rfl
      mode := (readChoice_eq_ok_iff _ fun _ _ => ReconcileMode.ofName?_eq_some_iff).mp fourth
      onFailure := (readChoice_eq_ok_iff _ fun _ _ => FailurePolicy.ofName?_eq_some_iff).mp fifth
      pageSize := (exists_readNumber_uint32_iff (by decide)).mp ⟨_, sixth, rfl⟩
      eventChannelCapacity := rfl
      order := rfl }
  · intro settled
    obtain ⟨apiBaseUrl, envApiKey, requestTimeoutSecs, statePath,
      ⟨intervalMs, maxDurationMs, capacity⟩, ⟨mode, onFailure, pageSize, order⟩⟩ := config
    obtain ⟨interval, first, rfl⟩ :=
      (exists_readNumber_uint64_iff (by decide)).mpr settled.interval
    obtain ⟨duration, second, rfl⟩ :=
      (exists_readNumber_uint64_iff (by decide)).mpr settled.maxDuration
    obtain ⟨timeout, third, rfl⟩ :=
      (exists_readNumber_uint64_iff (by decide)).mpr settled.timeout
    obtain ⟨size, sixth, rfl⟩ :=
      (exists_readNumber_uint32_iff (by decide)).mpr settled.pageSize
    have fourth := (readChoice_eq_ok_iff "Valid modes: replace, append"
      fun _ _ => ReconcileMode.ofName?_eq_some_iff).mpr settled.mode
    have fifth := (readChoice_eq_ok_iff "Valid policies: keep, clear"
      fun _ _ => FailurePolicy.ofName?_eq_some_iff).mpr settled.onFailure
    obtain rfl : capacity = 1000 := settled.eventChannelCapacity
    obtain rfl : order = .descending := settled.order
    refine ⟨interval, first, duration, second, timeout, third, _, fourth, _, fifth, size, sixth, ?_⟩
    rw [settled_baseUrl_iff.mp settled.baseUrl, settled_apiKey_iff.mp settled.apiKey,
      settled_text_iff.mp settled.statePath]
    rfl

/-- The variables that are read. -/
def variableNames : List String :=
  ["DNSLOG_API_BASE_URL", "DNSLOG_API_KEY", "DNSLOG_STATE_PATH"] ++ Checked.inOrder.map Checked.name

theorem ofEnvironment_congr {other : Dict String}
    (alike : ∀ name ∈ variableNames, setting? environment name = setting? other name) :
    ofEnvironment environment = ofEnvironment other := by
  simp only [variableNames, Checked.inOrder, List.map_cons, List.map_nil, List.cons_append,
    List.nil_append, List.forall_mem_cons, Checked.name] at alike
  obtain ⟨baseUrl, apiKey, statePath, interval, maxDuration, timeout, mode, onFailure, pageSize,
    -⟩ := alike
  simp only [ofEnvironment, readNumber, readChoice, baseUrl, apiKey, statePath, interval,
    maxDuration, timeout, mode, onFailure, pageSize]

theorem exists_isFirstRefusal {order : List Checked} {checked : Checked} (among : checked ∈ order)
    (offends : Offends environment checked) :
    ∃ failure, IsFirstRefusal environment failure order := by
  induction order with
  | nil => cases among
  | cons first others ih =>
      by_cases offending : Offends environment first
      · obtain ⟨text, holds, refused⟩ := offending
        exact ⟨_, .inl ⟨text, holds, refused, rfl⟩⟩
      · have later : checked ∈ others := by
          refine (List.mem_cons.mp among).resolve_left ?_
          rintro rfl
          exact offending offends
        obtain ⟨failure, refusal⟩ := ih later
        exact ⟨failure, .inr ⟨offending, refusal⟩⟩

theorem exists_ofEnvironment_eq_ok_iff :
    (∃ config, ofEnvironment environment = .ok config) ↔
      ∀ checked, ¬ Offends environment checked := by
  constructor
  · rintro ⟨config, read⟩ checked offends
    have among : checked ∈ Checked.inOrder := by cases checked <;> decide
    obtain ⟨failure, refusal⟩ := exists_isFirstRefusal among offends
    rw [← ofEnvironment_eq_error_iff, read] at refusal
    cases refusal
  · intro innocent
    cases read : ofEnvironment environment with
    | ok config => exact ⟨config, rfl⟩
    | error failure =>
        obtain ⟨_, checked, _, _, _, text, holds, refused, _⟩ :=
          isFirstRefusal_iff.mp (ofEnvironment_eq_error_iff.mp read)
        exact absurd ⟨text, holds, refused⟩ (innocent checked)

/-- Settings are read from an environment if and only if every number and every word in it is
understood, and each setting is then what its own variable means, or the default where that counts
as unset.  Otherwise the failure is the complaint about the first variable, in the order in which
they are read, whose text is not understood.  Other variables play no part, and neither do blanks
around a text. -/
theorem environments_are_read_variable_by_variable (environment : Dict String) :
    ((∃ config, ofEnvironment environment = .ok config) ↔
        ∀ (checked : Checked) (text : String),
          Holds environment checked.name text → checked.Accepts text) ∧
      (∀ config, ofEnvironment environment = .ok config ↔ IsSettledBy environment config) ∧
      (∀ failure, ofEnvironment environment = .error failure ↔
        ∃ before checked after text, Checked.inOrder = before ++ checked :: after ∧
          (∀ earlier ∈ before, ∀ text, Holds environment earlier.name text → earlier.Accepts text) ∧
          Holds environment checked.name text ∧ ¬ checked.Accepts text ∧
          failure = .config (checked.name ++ checked.complaint text)) ∧
      ∀ other,
        (∀ name ∈ variableNames, ∀ text, Holds environment name text ↔ Holds other name text) →
          ofEnvironment other = ofEnvironment environment := by
  have innocent (checked : Checked) : ¬ Offends environment checked ↔
      ∀ text, Holds environment checked.name text → checked.Accepts text := by
    simp only [Offends, not_exists, not_and, not_not]
  refine ⟨?_, fun config => ofEnvironment_eq_ok_iff, fun failure => ?_, fun other alike => ?_⟩
  · rw [exists_ofEnvironment_eq_ok_iff]
    exact forall_congr' innocent
  · simp only [ofEnvironment_eq_error_iff, isFirstRefusal_iff, Refuses, innocent,
      exists_and_left]
  · refine ofEnvironment_congr fun name read => Option.ext fun text => ?_
    rw [setting?_eq_some_iff, setting?_eq_some_iff, alike name read text]

/-- A sign and leading zeros are read, blanks of any kind are not, and a variable that has only
blanks counts as unset. -/
example : ofEnvironment [("DNSLOG_PAGE_SIZE", "\u3000+007\u0085"), ("DNSLOG_WATCH_MODE", " "),
    ("DNSLOG_WATCH_ON_FAILURE", "Clear"), ("HOME", "-")] =
      .ok { apiBaseUrl := "/api", watch := { onFailure := .clear, pageSize := 7 } } := by
  decide +kernel

end ClientConfig
end ProbeWatch
