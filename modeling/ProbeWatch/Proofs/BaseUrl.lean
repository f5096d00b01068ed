import ProbeWatch.BaseUrl
import ProbeWatch.Proofs.Text.Blank

/-!
# Normal forms of base URLs

Every text is brought into a normal form: it is rooted or names its host, and it ends in the API
path.  The texts in that form are the ones that stay as they are.  Of a URL that names its host, all
but the path is kept, and the path is that of the API; a host of the name `api` alone is taken for it.
-/

namespace ProbeWatch.BaseUrl

open Text (isBlank isAllBlank trim trimChars dropEndWhile)

/-! ## The form -/

/-- Whether a URL begins with a slash or a scheme. -/
def IsRooted (url : List Char) : Prop :=
  ['/'] <+: url ∨ "http://".toList <+: url ∨ "https://".toList <+: url

/-- Whether a URL is rooted and ends in the API path. -/
structure IsNormal (url : List Char) : Prop where
  root : IsRooted url
  /-- The API path stands at the end. -/
  api : apiPath <:+ url

theorem isNormal_apiPath : IsNormal apiPath :=
  ⟨.inl (by decide), List.suffix_refl apiPath⟩

variable {url raw : List Char}

theorem IsNormal.ne_nil (normal : IsNormal url) : url ≠ [] := by
  rintro rfl
  exact absurd (List.suffix_nil.mp normal.api) (List.cons_ne_nil _ _)

theorem IsNormal.getLast? (normal : IsNormal url) : url.getLast? = some 'i' := by
  obtain ⟨front, rfl⟩ := normal.api
  rw [List.getLast?_append]
  rfl

theorem IsNormal.head? (normal : IsNormal url) : url.head? = some '/' ∨ url.head? = some 'h' := by
  rcases normal.root with ⟨rest, rfl⟩ | ⟨rest, rfl⟩ | ⟨rest, rfl⟩
  · exact .inl rfl
  · exact .inr rfl
  · exact .inr rfl

/-- A URL in normal form begins with a slash or a letter and ends in a letter, so it has no blanks
around it. -/
theorem IsNormal.trimChars_eq (normal : IsNormal url) : trimChars url = url := by
  rw [Text.trimChars_eq_self_iff, normal.getLast?]
  refine ⟨fun c first => ?_, fun c last => ?_⟩
  · rcases normal.head? with slash | letter
    · rw [slash] at first
      cases first
      rfl
    · rw [letter] at first
      cases first
      rfl
  · cases last
    rfl

theorem IsNormal.stripped_eq (normal : IsNormal url) : stripped url = url := by
  rw [stripped, normal.trimChars_eq, Text.dropEndWhile_eq_self_iff, normal.getLast?]
  rintro c ⟨⟩
  rfl

theorem IsRooted.append (root : IsRooted url) (rest : List Char) : IsRooted (url ++ rest) := by
  have kept := List.prefix_append url rest
  exact root.imp (·.trans kept) (Or.imp (·.trans kept) (·.trans kept))

theorem IsRooted.rooted_eq (root : IsRooted url) : rooted url = url := by
  refine if_pos ?_
  simp only [isAbsolute, Bool.or_eq_true, List.isPrefixOf_iff_prefix]
  rcases root with slash | http | https
  · exact .inr slash
  · exact .inl (.inl (.inl http))
  · exact .inl (.inl (.inr https))

theorem isRooted_rooted (url : List Char) : IsRooted (rooted url) := by
  rw [rooted]
  split
  · rename_i root
    simp only [isAbsolute, Bool.or_eq_true, List.isPrefixOf_iff_prefix] at root
    rcases root with ((http | https) | slashes) | slash
    · exact .inr (.inl http)
    · exact .inr (.inr https)
    · exact .inl ((List.prefix_append ['/'] ['/']).trans slashes)
    · exact .inl slash
  · exact .inl (List.prefix_append ['/'] url)

theorem IsRooted.isNormal_withApiPath (root : IsRooted url) : IsNormal (withApiPath url) := by
  rw [withApiPath]
  split
  · rename_i api
    exact ⟨root, List.isSuffixOf_iff_suffix.mp api⟩
  · exact ⟨root.append apiPath, List.suffix_append url apiPath⟩

theorem isNormal_normalChars (raw : List Char) : IsNormal (normalChars raw) := by
  rw [normalChars]
  split
  · exact isNormal_apiPath
  · exact (isRooted_rooted _).isNormal_withApiPath

theorem IsNormal.normalChars_eq (normal : IsNormal url) : normalChars url = url := by
  have filled : ¬url.isEmpty = true := fun empty => normal.ne_nil (List.isEmpty_iff.mp empty)
  simp only [normalChars, normal.stripped_eq, if_neg filled, normal.root.rooted_eq]
  exact if_pos (List.isSuffixOf_iff_suffix.mpr normal.api)

theorem normalize_eq_self_iff {text : String} :
    normalize text = text ↔ IsNormal text.toList := by
  rw [normalize, ← String.toList_inj, String.toList_ofList]
  constructor
  · intro same
    rw [← same]
    exact isNormal_normalChars text.toList
  · exact IsNormal.normalChars_eq

theorem toList_normalize (text : String) :
    (normalize text).toList = normalChars text.toList := by
  rw [normalize, String.toList_ofList]

/-! ## What makes no difference -/

theorem normalize_padded {front back : String} (leading : isAllBlank front = true)
    (trailing : isAllBlank back = true) (text : String) :
    normalize (front ++ text ++ back) = normalize text := by
  have trimmed := Text.trimChars_padded (Text.isAllBlank_iff.mp leading)
    (Text.isAllBlank_iff.mp trailing) text.toList
  rw [normalize, normalize, String.toList_append, String.toList_append, normalChars, normalChars,
    stripped, stripped, trimmed]

theorem stripped_append_slashes (trimmed : trimChars url = url) (count : Nat) :
    stripped (url ++ List.replicate count '/') = stripped url := by
  have slash : ∀ c ∈ List.replicate count '/', (c == '/') = true := fun c found =>
    beq_iff_eq.mpr (List.eq_of_mem_replicate found)
  have still : trimChars (url ++ List.replicate count '/') = url ++ List.replicate count '/' := by
    rw [Text.trimChars_eq_self_iff] at trimmed ⊢
    refine ⟨fun c first => ?_, fun c last => ?_⟩
    · rw [List.head?_append, Option.mem_def, Option.or_eq_some_iff] at first
      rcases first with first | ⟨-, first⟩
      · exact trimmed.1 c first
      · rw [List.eq_of_mem_replicate (List.mem_of_head? first)]
        rfl
    · rw [List.getLast?_append, Option.mem_def, Option.or_eq_some_iff] at last
      rcases last with last | ⟨-, last⟩
      · rw [List.eq_of_mem_replicate (List.mem_of_getLast? last)]
        rfl
      · exact trimmed.2 c last
  rw [stripped, stripped, still, trimmed, Text.dropEndWhile_append,
    if_pos (Text.dropEndWhile_eq_nil_iff.mpr slash)]

/-- Every text is brought into a normal form, which has no blanks around it and stays as it is.
Blanks around the text make no difference to it, and neither do slashes behind a trimmed text. -/
theorem normalize_is_normal_form (raw : String) :
    IsNormal (normalize raw).toList ∧ trim (normalize raw) = normalize raw ∧
      normalize (normalize raw) = normalize raw ∧
      (∀ front back : String, isAllBlank front = true → isAllBlank back = true →
        normalize (front ++ raw ++ back) = normalize raw) ∧
      (trim raw = raw → ∀ count,
        normalize (raw ++ String.ofList (List.replicate count '/')) = normalize raw) := by
  have normal : IsNormal (normalize raw).toList := by
    rw [toList_normalize]
    exact isNormal_normalChars raw.toList
  refine ⟨normal, ?_, normalize_eq_self_iff.mpr normal, ?_, ?_⟩
  · rw [trim, normal.trimChars_eq, String.ofList_toList]
  · exact fun front back leading trailing => normalize_padded leading trailing raw
  · intro trimmed count
    have trimmed : trimChars raw.toList = raw.toList := by
      rw [← Text.toList_trim, trimmed]
    rw [normalize, normalize, String.toList_append, String.toList_ofList, normalChars, normalChars,
      stripped_append_slashes trimmed]

/-- A bare scheme is no host, so it becomes a rooted path, with or without blanks around it and more
slashes behind it. -/
theorem normalize_bare_scheme :
    normalize "http://" = "/http:/api" ∧
      normalize "\u2003http://\n" = normalize "http://" ∧
      normalize ("http://" ++ String.ofList (List.replicate 3 '/')) = normalize "http://" := by
  have laws := normalize_is_normal_form "http://"
  have padded : "\u2003http://\n" = "\u2003" ++ "http://" ++ "\n" := by decide
  have trimmed : trim "http://" = "http://" := by decide
  refine ⟨by decide, ?_, laws.2.2.2.2 trimmed 3⟩
  rw [padded]
  exact laws.2.2.2.1 "\u2003" "\n" (by decide) (by decide)

/-! ## URLs that name their host -/

/-- The schemes in front of the name of a host. -/
def schemes : List (List Char) := ["http://".toList, "https://".toList, "//".toList]

/-- A URL that names its host. -/
structure AbsoluteUrl where
  /-- The scheme, with the slashes behind it. -/
  scheme : List Char
  /-- The host, with what belongs to it. -/
  authority : List Char
  /-- What follows the host. -/
  path : List Char
  scheme_mem : scheme ∈ schemes
  authority_ne_nil : authority ≠ []
  slash_notMem : '/' ∉ authority
  trimChars_authority : trimChars authority = authority
  root_path : path = [] ∨ ['/'] <+: path
  trimEnd_path : dropEndWhile isBlank path = path

/-- A path without the slashes at its end. -/
def barePath (path : List Char) : List Char := dropEndWhile (· == '/') path

/-- The path of the API for a path: the bare path itself, if it already ends in the API path, and
else the API path below it. -/
def pathToApi (path : List Char) : List Char :=
  if apiPath <:+ barePath path then barePath path else barePath path ++ apiPath

theorem apiPath_suffix_pathToApi (path : List Char) : apiPath <:+ pathToApi path := by
  rw [pathToApi]
  split
  · assumption
  · exact List.suffix_append _ _

/-- The API path does not reach over a slash at which it does not begin itself. -/
theorem apiPath_suffix_append_iff {front rest : List Char} :
    apiPath <:+ front ++ '/' :: rest ↔ apiPath <:+ '/' :: rest := by
  constructor
  · intro ends
    rcases List.suffix_or_suffix_of_suffix ends (List.suffix_append front ('/' :: rest)) with
      within | beyond
    · exact within
    · rcases List.suffix_cons_iff.mp beyond with same | short
      · exact same ▸ List.suffix_refl apiPath
      · exact absurd (short.subset List.mem_cons_self) (by decide)
  · exact fun ends => ends.trans (List.suffix_append front ('/' :: rest))

theorem exists_front_of_mem_schemes {scheme : List Char} (found : scheme ∈ schemes) :
    ∃ front, scheme = front ++ ['/'] := by
  simp only [schemes, List.mem_cons, List.not_mem_nil, or_false] at found
  rcases found with rfl | rfl | rfl
  · exact ⟨"http:/".toList, rfl⟩
  · exact ⟨"https:/".toList, rfl⟩
  · exact ⟨"/".toList, rfl⟩

theorem isAbsolute_append {scheme : List Char} (found : scheme ∈ schemes) (rest : List Char) :
    isAbsolute (scheme ++ rest) = true := by
  have begins := List.prefix_append scheme rest
  simp only [isAbsolute, Bool.or_eq_true, List.isPrefixOf_iff_prefix]
  simp only [schemes, List.mem_cons, List.not_mem_nil, or_false] at found
  rcases found with rfl | rfl | rfl
  · exact .inl (.inl begins)
  · exact .inl (.inr begins)
  · exact .inr begins

namespace AbsoluteUrl

/-- The characters of a URL. -/
def chars (url : AbsoluteUrl) : List Char := url.scheme ++ url.authority ++ url.path

/-- Whether a URL is that of a host named like the API path, without a path. -/
def IsHostNamedApi (url : AbsoluteUrl) : Prop :=
  url.authority = "api".toList ∧ barePath url.path = []

instance (url : AbsoluteUrl) : Decidable url.IsHostNamedApi :=
  inferInstanceAs (Decidable (_ ∧ _))

variable (url : AbsoluteUrl)

theorem trimChars_chars : trimChars url.chars = url.chars := by
  have authority := Text.trimChars_eq_self_iff.mp url.trimChars_authority
  have path := Text.dropEndWhile_eq_self_iff.mp url.trimEnd_path
  refine Text.trimChars_eq_self_iff.mpr ⟨fun c first => ?_, fun c last => ?_⟩
  · have scheme := url.scheme_mem
    simp only [schemes, List.mem_cons, List.not_mem_nil, or_false] at scheme
    rw [chars] at first
    rcases scheme with http | https | slashes
    · rw [http] at first
      cases first
      rfl
    · rw [https] at first
      cases first
      rfl
    · rw [slashes] at first
      cases first
      rfl
  · rw [chars, List.getLast?_append, List.getLast?_append, Option.mem_def, Option.or_eq_some_iff,
      Option.or_eq_some_iff] at last
    rcases last with last | ⟨-, last | ⟨none, -⟩⟩
    · exact path c last
    · exact authority.2 c last
    · exact absurd (List.getLast?_eq_none_iff.mp none) url.authority_ne_nil

/-- The slashes at the end of a URL are those at the end of its path. -/
theorem stripped_chars :
    stripped url.chars = url.scheme ++ url.authority ++ barePath url.path := by
  have whole : dropEndWhile (· == '/') (url.scheme ++ url.authority) =
      url.scheme ++ url.authority := by
    refine Text.dropEndWhile_eq_self_iff.mpr fun c last => ?_
    rw [List.getLast?_append, Option.mem_def, Option.or_eq_some_iff] at last
    rcases last with last | ⟨none, -⟩
    · refine beq_eq_false_iff_ne.mpr ?_
      rintro rfl
      exact url.slash_notMem (List.mem_of_getLast? last)
    · exact absurd (List.getLast?_eq_none_iff.mp none) url.authority_ne_nil
  rw [stripped, url.trimChars_chars, chars, Text.dropEndWhile_append_of_eq whole, barePath]

theorem barePath_eq_nil_or_cons : barePath url.path = [] ∨ ∃ rest, barePath url.path = '/' :: rest := by
  have front := Text.dropEndWhile_isPrefix (· == '/') url.path
  cases bare : barePath url.path with
  | nil => exact .inl rfl
  | cons c rest =>
      rw [barePath] at bare
      rw [bare] at front
      rcases url.root_path with nothing | slash
      · rw [nothing] at front
        exact absurd (List.prefix_nil.mp front) (List.cons_ne_nil _ _)
      · obtain ⟨later, same⟩ := front
        obtain ⟨other, same'⟩ := slash
        rw [← same, List.cons_append] at same'
        exact .inr ⟨rest, by rw [(List.cons.inj same').1]⟩

/-- A URL ends in the API path if its path does, or if that is what the host is called. -/
theorem apiPath_suffix_iff :
    apiPath <:+ url.scheme ++ url.authority ++ barePath url.path ↔
      url.IsHostNamedApi ∨ apiPath <:+ barePath url.path := by
  rcases url.barePath_eq_nil_or_cons with bare | ⟨rest, bare⟩
  · obtain ⟨front, scheme⟩ := exists_front_of_mem_schemes url.scheme_mem
    have host : url.scheme ++ url.authority ++ [] = front ++ '/' :: url.authority := by
      rw [scheme, List.append_nil, List.append_assoc, List.singleton_append]
    rw [bare, host, apiPath_suffix_append_iff, List.suffix_cons_iff]
    constructor
    · rintro (same | within)
      · exact .inl ⟨(List.cons.inj same).2.symm, bare⟩
      · exact absurd (within.subset List.mem_cons_self) url.slash_notMem
    · rintro (⟨named, -⟩ | nothing)
      · exact .inl (by rw [named]; rfl)
      · exact absurd (List.suffix_nil.mp nothing) (List.cons_ne_nil _ _)
  · have other : ¬url.IsHostNamedApi := fun named => by
      rw [IsHostNamedApi, bare] at named
      exact List.cons_ne_nil _ _ named.2
    rw [bare, apiPath_suffix_append_iff, or_iff_right other]

theorem normalChars_chars :
    normalChars url.chars =
      withApiPath (url.scheme ++ url.authority ++ barePath url.path) := by
  have filled : ¬(url.scheme ++ url.authority ++ barePath url.path).isEmpty = true := by
    simp [url.authority_ne_nil]
  have absolute : rooted (url.scheme ++ url.authority ++ barePath url.path) =
      url.scheme ++ url.authority ++ barePath url.path := by
    rw [rooted, List.append_assoc, isAbsolute_append url.scheme_mem, Bool.true_or, if_pos rfl]
  simp only [normalChars, url.stripped_chars, if_neg filled, absolute]

end AbsoluteUrl

/-- Of a URL that names its host, with any blanks around it, the scheme and the host are kept and the
path becomes that of the API, which ends in the API path.  The exception is a host of the name `api`
without a path, which stands for the API path itself. -/
theorem normalize_absolute (url : AbsoluteUrl) {front back : String}
    (leading : isAllBlank front = true) (trailing : isAllBlank back = true) :
    (¬url.IsHostNamedApi →
      normalize (front ++ String.ofList url.chars ++ back) =
          String.ofList (url.scheme ++ url.authority ++ pathToApi url.path) ∧
        apiPath <:+ pathToApi url.path) ∧
    (url.IsHostNamedApi →
      normalize (front ++ String.ofList url.chars ++ back) =
        String.ofList (url.scheme ++ url.authority)) := by
  rw [normalize_padded leading trailing, normalize, String.toList_ofList, url.normalChars_chars]
  constructor
  · intro other
    refine ⟨congrArg String.ofList ?_, apiPath_suffix_pathToApi url.path⟩
    have ends := url.apiPath_suffix_iff
    rw [or_iff_right other] at ends
    rw [withApiPath, pathToApi]
    by_cases api : apiPath <:+ barePath url.path
    · rw [if_pos (List.isSuffixOf_iff_suffix.mpr (ends.mpr api)), if_pos api]
    · rw [if_neg fun found => api (ends.mp (List.isSuffixOf_iff_suffix.mp found)), if_neg api,
        List.append_assoc]
  · intro named
    rw [withApiPath, if_pos (List.isSuffixOf_iff_suffix.mpr (url.apiPath_suffix_iff.mpr (.inl named))),
      named.2, List.append_nil]

/-- A host whose path ends in something like the API path, with more slashes behind it. -/
def lookalike : AbsoluteUrl where
  scheme := "https://".toList
  authority := "api:80".toList
  path := "/v1/xapi//".toList
  scheme_mem := by decide
  authority_ne_nil := by decide
  slash_notMem := by decide
  trimChars_authority := by decide
  root_path := by decide
  trimEnd_path := by decide

theorem normalize_lookalike :
    ¬lookalike.IsHostNamedApi ∧
      normalize (" " ++ String.ofList lookalike.chars ++ "\n") = "https://api:80/v1/xapi/api" := by
  have other : ¬lookalike.IsHostNamedApi := by decide
  exact ⟨other, ((normalize_absolute lookalike (by decide) (by decide)).1 other).1⟩

/-- A host of the name `api`. -/
def hostNamedApi : AbsoluteUrl where
  scheme := "http://".toList
  authority := "api".toList
  path := []
  scheme_mem := by decide
  authority_ne_nil := by decide
  slash_notMem := by decide
  trimChars_authority := by decide
  root_path := .inl rfl
  trimEnd_path := rfl

/-- The name of the host is taken for the API path, so that the URL gains none. -/
theorem host_named_api_gains_no_path :
    String.ofList hostNamedApi.chars = "http://api" ∧
      normalize (String.ofList hostNamedApi.chars) = "http://api" ∧
      String.ofList (hostNamedApi.scheme ++ hostNamedApi.authority ++ pathToApi hostNamedApi.path) =
        "http://api/api" :=
  ⟨by decide, by decide, by decide⟩

end ProbeWatch.BaseUrl
