import Mathlib.Data.List.DropRight
import GhostRecon.Common.Text
import GhostRecon.Lib.Urls

/-!
The URLs a deployed service is configured with. In a strict profile a service URL must be sealed
or lead to a host inside: one whose name has no dot, one below an internal name, or a private
address. The rules on names are tried before the one on addresses, and an address in text is read
as a name by them: one without a dot passes whatever it leads to.
-/

namespace GhostRecon.Configuration

open Lib (Address SplitResult urlsplit ipAddress isHexadecimal)

section Settings

/-- The profiles; the local one is named by its host. -/
inductive RuntimeProfile where
  | localhost | test | staging | production
  deriving DecidableEq

inductive ServiceName where
  | gateway | eventIntelligence | incidentIntelligence | enrichment | emailIntelligence | crm
  | sequencing | meetingHandoff | scoringRouting | governance | reporting | ingestion | console
  | worker | scheduler | migration
  deriving DecidableEq

/-- The names of `ALL_LIVE_PROVIDERS`. -/
def allLiveProviders : List String :=
  ["geocoder_provider", "search_provider", "news_provider", "email_verifier_provider",
   "crm_provider", "calendar_provider", "smtp_provider", "imap_provider", "crawl_user_agent"]

/-- `requirements_for`: the names of the settings a service needs. -/
def requirementsFor : ServiceName → List String
  | .gateway => ["database_url", "redis_url"]
  | .eventIntelligence => ["database_url", "geocoder_provider"]
  | .incidentIntelligence => ["database_url", "news_provider"]
  | .enrichment =>
    ["database_url", "search_provider", "email_verifier_provider", "crawl_user_agent"]
  | .emailIntelligence => ["database_url", "email_verifier_provider"]
  | .crm => ["database_url", "crm_provider"]
  | .sequencing =>
    ["database_url", "crm_provider", "smtp_provider", "imap_provider", "calendar_provider"]
  | .meetingHandoff => ["database_url", "crm_provider", "calendar_provider"]
  | .scoringRouting | .governance | .reporting | .ingestion | .migration => ["database_url"]
  | .console => ["gateway_base_url"]
  | .worker => ["database_url", "redis_url"] ++ allLiveProviders
  | .scheduler => ["redis_url"]

/-- The URLs of the settings, as texts. -/
structure Settings where
  profile : RuntimeProfile
  attioBaseUrl : String
  nominatimBaseUrl : String
  serpapiBaseUrl : String
  openserpBaseUrl : String
  emailVerifierUrl : String
  gatewayBaseUrl : String

def Settings.strictRuntime (settings : Settings) : Bool :=
  settings.profile = .staging || settings.profile = .production

/-- A URL, with its name and the setting that needs it. -/
structure UrlSetting where
  owner : String
  name : String
  url : String

def publicUrls (settings : Settings) : List UrlSetting :=
  [⟨"crm_provider", "attio_base_url", settings.attioBaseUrl⟩,
   ⟨"geocoder_provider", "nominatim_base_url", settings.nominatimBaseUrl⟩,
   ⟨"news_provider", "serpapi_base_url", settings.serpapiBaseUrl⟩]

def serviceUrls (settings : Settings) : List UrlSetting :=
  [⟨"search_provider", "openserp_base_url", settings.openserpBaseUrl⟩,
   ⟨"email_verifier_provider", "email_verifier_url", settings.emailVerifierUrl⟩,
   ⟨"gateway_base_url", "gateway_base_url", settings.gatewayBaseUrl⟩]

structure ConfigurationIssue where
  profile : RuntimeProfile
  service : ServiceName
  settingName : String
  errorCode : String
  remediation : String
  deriving DecidableEq

end Settings

section Urls

variable [Casing] (nfkc : List Char → List Char)

/-- The endings of the names inside. -/
def internalSuffixes : List (List Char) :=
  [['.', 'i', 'n', 't', 'e', 'r', 'n', 'a', 'l'], ['.', 'l', 'o', 'c', 'a', 'l'],
   ['.', 's', 'v', 'c'], ['.', 'c', 'l', 'u', 's', 't', 'e', 'r', '.', 'l', 'o', 'c', 'a', 'l']]

def lowerText (text : List Char) : List Char :=
  (lower (String.ofList text)).toList

/-- The host of a URL, in lower case and without dots at its end; none where there is no host. -/
def hostOf (parsed : SplitResult) : Option (List Char) :=
  ((parsed.hostname lowerText).filter (· ≠ [])).map fun host =>
    (lowerText host).rdropWhile (· = '.')

/-- The rules on names: `localhost`, a name without a dot, one below an internal name. -/
def namedInside (host : List Char) : Bool :=
  host = ['l', 'o', 'c', 'a', 'l', 'h', 'o', 's', 't'] || !decide ('.' ∈ host) ||
    internalSuffixes.any fun ending => ending.isSuffixOf host

/-- An address that does not lead outside. -/
def internalAddress (address : Address) : Bool :=
  address.isPrivate || address.isLoopback || address.isLinkLocal

/-- `_is_safe_service_url`; none where splitting the URL raises. -/
def isSafeServiceUrl (value : String) : Option Bool := do
  let parsed ← urlsplit nfkc value.toList
  if parsed.scheme = ['h', 't', 't', 'p', 's'] then return true
  else if parsed.scheme ≠ ['h', 't', 't', 'p'] then return false
  else
    match hostOf parsed with
    | none => return false
    | some host =>
      if namedInside host then return true
      else
        match ipAddress host with
        | none => return false
        | some address => return internalAddress address

/-- The issue of a user in a URL. -/
def credentialIssues (settings : Settings) (service : ServiceName) (setting : UrlSetting)
    (parsed : SplitResult) : List ConfigurationIssue :=
  if parsed.hasUser then
    [⟨settings.profile, service, setting.name, "credential_bearing_url",
      "move credentials to an owned secret setting"⟩]
  else []

/-- The issues of one URL that a service needs. -/
def urlIssues (settings : Settings) (service : ServiceName) (setting : UrlSetting) :
    Option (List ConfigurationIssue) := do
  let parsed ← urlsplit nfkc setting.url.toList
  let credentials := credentialIssues settings service setting parsed
  if setting.owner ∈ (publicUrls settings).map (·.owner) then
    if parsed.scheme = ['h', 't', 't', 'p', 's'] then return credentials
    else
      return credentials ++ [⟨settings.profile, service, setting.name, "insecure_public_url",
        "use an HTTPS provider endpoint"⟩]
  else if ← isSafeServiceUrl nfkc setting.url then return credentials
  else
    return credentials ++ [⟨settings.profile, service, setting.name, "unsafe_url",
      "use HTTPS or an internal HTTP service URL"⟩]

/-- The checks of `validate_configuration` on URLs. -/
def validateUrls (settings : Settings) (service : ServiceName) :
    Option (List ConfigurationIssue) :=
  if settings.strictRuntime then
    ((publicUrls settings ++ serviceUrls settings).filter fun setting =>
      setting.owner ∈ requirementsFor service).mapM (urlIssues nfkc settings service)
      |>.map List.flatten
  else some []

/-- A text is accepted as a service URL in a strict profile: it is the URL of a setting that a
service needs, and validation ends without finding it unsafe. -/
def Accepted (value : String) : Prop :=
  ∃ settings service setting issues, settings.strictRuntime = true ∧
    setting ∈ serviceUrls settings ∧ setting.url = value ∧
    setting.owner ∈ requirementsFor service ∧
    validateUrls nfkc settings service = some issues ∧
    ∀ issue ∈ issues, ¬(issue.settingName = setting.name ∧ issue.errorCode = "unsafe_url")

/-- The host of a URL in clear is an address in text, with its dots at the end left out. -/
def ClearLiteral (value : String) (host : List Char) (address : Address) : Prop :=
  ∃ parsed, urlsplit nfkc value.toList = some parsed ∧ parsed.scheme = ['h', 't', 't', 'p'] ∧
    hostOf parsed = some host ∧ ipAddress host = some address

end Urls

section Names

variable {host ending : List Char}

/-- A text below an internal name. -/
def endsInside (text : List Char) : Bool :=
  internalSuffixes.any fun ending => ending.isSuffixOf text

/-- No internal ending has a percent sign, and each has a letter that no address has. -/
theorem internalSuffixes_letters : ∀ ending ∈ internalSuffixes, '%' ∉ ending ∧
    (ending.any fun c => !(c == ':' || c == '.' || isHexadecimal c)) = true := by
  decide

theorem namedInside_eq (host : List Char) :
    namedInside host = (!decide ('.' ∈ host) || endsInside host) := by
  unfold namedInside endsInside
  by_cases hlocal : host = ['l', 'o', 'c', 'a', 'l', 'h', 'o', 's', 't']
  · rw [hlocal]
    decide
  · rw [decide_eq_false hlocal, Bool.false_or]

/-- An address without a scope is not below an internal name. -/
theorem endsInside_plain (h : ∀ c ∈ host, c = ':' ∨ c = '.' ∨ isHexadecimal c = true) :
    endsInside host = false := by
  unfold endsInside
  rw [List.any_eq_false]
  intro ending hending hsuffix
  obtain ⟨c, hc, hletter⟩ := List.any_eq_true.mp (internalSuffixes_letters ending hending).2
  have hmem : c ∈ host := (List.isSuffixOf_iff_suffix.mp hsuffix).subset hc
  rcases h c hmem with rfl | rfl | hfigure
  · cases hletter
  · cases hletter
  · rw [hfigure, Bool.or_true] at hletter
    cases hletter

/-- What ends a text with a percent sign ends what stands behind it. -/
theorem suffix_scope_iff {front scope : List Char} (hpercent : '%' ∉ ending) :
    ending <:+ front ++ '%' :: scope ↔ ending <:+ scope := by
  have hscope : '%' :: scope <:+ front ++ '%' :: scope := List.suffix_append _ _
  constructor
  · intro hending
    rcases List.suffix_or_suffix_of_suffix hending hscope with hsuffix | hsuffix
    · rcases List.suffix_cons_iff.mp hsuffix with heq | hsuffix
      · rw [heq] at hpercent
        exact absurd List.mem_cons_self hpercent
      · exact hsuffix
    · exact absurd (hsuffix.subset List.mem_cons_self) hpercent
  · intro hending
    exact (hending.trans (List.suffix_cons _ _)).trans hscope

theorem endsInside_scope (front scope : List Char) :
    endsInside (front ++ '%' :: scope) = endsInside scope := by
  unfold endsInside
  rw [Bool.eq_iff_iff, List.any_eq_true, List.any_eq_true]
  constructor
  · rintro ⟨ending, hending, hsuffix⟩
    have hpercent := (internalSuffixes_letters ending hending).1
    have hsuffix := (suffix_scope_iff hpercent).mp (List.isSuffixOf_iff_suffix.mp hsuffix)
    exact ⟨ending, hending, List.isSuffixOf_iff_suffix.mpr hsuffix⟩
  · rintro ⟨ending, hending, hsuffix⟩
    have hpercent := (internalSuffixes_letters ending hending).1
    have hsuffix : ending <:+ front ++ '%' :: scope :=
      (suffix_scope_iff hpercent).mpr (List.isSuffixOf_iff_suffix.mp hsuffix)
    exact ⟨ending, hending, List.isSuffixOf_iff_suffix.mpr hsuffix⟩

/-- A short address is no name inside. -/
theorem namedInside_v4 {number : Nat} (h : Lib.ipv4Value host = some number) :
    namedInside host = false := by
  have hplain : ∀ c ∈ host, c = ':' ∨ c = '.' ∨ isHexadecimal c = true := by
    intro c hc
    rcases Lib.ipv4Value_characters h c hc with hdot | hdecimal
    · exact Or.inr (Or.inl hdot)
    · right
      right
      unfold isHexadecimal
      rw [hdecimal]
      rfl
  rw [namedInside_eq, decide_eq_true (Lib.ipv4Value_dot h), endsInside_plain hplain]
  rfl

/-- A long address is a name inside when it has no dot or its scope ends as one. -/
theorem namedInside_v6 {number : Nat} {scope : Option (List Char)}
    (h : Lib.ipv6Address host = some (.v6 number scope)) :
    namedInside host = (!decide ('.' ∈ host) || scope.any endsInside) := by
  rw [namedInside_eq]
  obtain ⟨value, heq, hplain⟩ | ⟨value, front, text, heq, rfl⟩ := Lib.ipv6Address_cases h
  · obtain ⟨-, rfl⟩ := Address.v6.inj heq
    rw [endsInside_plain hplain]
    rfl
  · obtain ⟨-, rfl⟩ := Address.v6.inj heq
    rw [endsInside_scope]
    rfl

end Names

section Acceptance

/-- No setting of a service URL needs a public one. -/
theorem serviceUrls_not_public {settings : Settings} {setting : UrlSetting}
    (h : setting ∈ serviceUrls settings) :
    ¬setting.owner ∈ (publicUrls settings).map (·.owner) := by
  unfold serviceUrls at h
  simp only [List.mem_cons, List.not_mem_nil, or_false] at h
  rcases h with rfl | rfl | rfl
  · simp [publicUrls]
  · simp [publicUrls]
  · simp [publicUrls]

/-- Settings in production with one URL for all. -/
def productionSettings (value : String) : Settings where
  profile := .production
  attioBaseUrl := value
  nominatimBaseUrl := value
  serpapiBaseUrl := value
  openserpBaseUrl := value
  emailVerifierUrl := value
  gatewayBaseUrl := value

def gatewayUrl (value : String) : UrlSetting :=
  ⟨"gateway_base_url", "gateway_base_url", value⟩

/-- The console needs the URL of the gateway alone. -/
theorem console_urls (value : String) :
    ((publicUrls (productionSettings value) ++ serviceUrls (productionSettings value)).filter
      fun setting => setting.owner ∈ requirementsFor .console) = [gatewayUrl value] := by
  simp [publicUrls, serviceUrls, requirementsFor, gatewayUrl, productionSettings]

theorem credentialIssues_code {settings : Settings} {service : ServiceName}
    {setting : UrlSetting} {parsed : SplitResult} :
    ∀ issue ∈ credentialIssues settings service setting parsed,
      issue.errorCode ≠ "unsafe_url" := by
  intro issue hissue
  unfold credentialIssues at hissue
  split at hissue
  · rw [List.mem_singleton.mp hissue]
    simp
  · cases hissue

variable [Casing] {nfkc : List Char → List Char} {value : String}

/-- An address in clear is safe by its name, or by where it leads. -/
theorem isSafeServiceUrl_literal {host : List Char} {address : Address}
    (h : ClearLiteral nfkc value host address) :
    isSafeServiceUrl nfkc value = some (namedInside host || internalAddress address) := by
  obtain ⟨parsed, hparsed, hscheme, hhost, haddress⟩ := h
  unfold isSafeServiceUrl
  rw [hparsed]
  simp only [Option.bind_eq_bind, Option.bind_some, hscheme, hhost, haddress]
  cases namedInside host with
  | true => rfl
  | false => rfl

/-- The issues of a service URL are that of its user, and one more where it is not safe. -/
theorem urlIssues_service {settings : Settings} {service : ServiceName} {setting : UrlSetting}
    {issues : List ConfigurationIssue} (hsetting : setting ∈ serviceUrls settings) :
    urlIssues nfkc settings service setting = some issues ↔
      ∃ parsed safe, urlsplit nfkc setting.url.toList = some parsed ∧
        isSafeServiceUrl nfkc setting.url = some safe ∧
        issues = credentialIssues settings service setting parsed ++
          if safe then [] else [⟨settings.profile, service, setting.name, "unsafe_url",
            "use HTTPS or an internal HTTP service URL"⟩] := by
  unfold urlIssues
  simp only [if_neg (serviceUrls_not_public hsetting), Option.bind_eq_bind,
    Option.bind_eq_some_iff]
  constructor
  · rintro ⟨parsed, hparsed, safe, hsafe, hissues⟩
    refine ⟨parsed, safe, hparsed, hsafe, ?_⟩
    cases safe with
    | true =>
      cases hissues
      exact (List.append_nil _).symm
    | false =>
      cases hissues
      rfl
  · rintro ⟨parsed, safe, hparsed, hsafe, rfl⟩
    refine ⟨parsed, hparsed, safe, hsafe, ?_⟩
    cases safe with
    | true => exact congrArg some (List.append_nil _).symm
    | false => rfl

/-- A URL that a service needs is looked at, and found unsafe unless it is safe. -/
theorem safe_of_validated {settings : Settings} {service : ServiceName} {setting : UrlSetting}
    {issues : List ConfigurationIssue} (hstrict : settings.strictRuntime = true)
    (hsetting : setting ∈ serviceUrls settings)
    (hneeded : setting.owner ∈ requirementsFor service)
    (hissues : validateUrls nfkc settings service = some issues)
    (hfound : ∀ issue ∈ issues,
      ¬(issue.settingName = setting.name ∧ issue.errorCode = "unsafe_url")) :
    isSafeServiceUrl nfkc setting.url = some true := by
  unfold validateUrls at hissues
  rw [if_pos hstrict] at hissues
  obtain ⟨lists, hlists, rfl⟩ := Option.map_eq_some_iff.mp hissues
  have hmem : setting ∈ (publicUrls settings ++ serviceUrls settings).filter fun setting =>
      setting.owner ∈ requirementsFor service :=
    List.mem_filter.mpr ⟨List.mem_append_right _ hsetting, decide_eq_true hneeded⟩
  obtain ⟨list, hlist, hown⟩ := Lib.mapM_option_mem hlists setting hmem
  obtain ⟨parsed, safe, hparsed, hsafe, rfl⟩ := (urlIssues_service hsetting).mp hown
  cases safe with
  | true => exact hsafe
  | false =>
    have hunsafe := List.mem_flatten.mpr
      ⟨_, hlist, List.mem_append_right _ (List.mem_singleton_self _)⟩
    exact absurd ⟨rfl, rfl⟩ (hfound _ hunsafe)

/-- Every safe URL is accepted: the console needs no other. -/
theorem accepted_iff : Accepted nfkc value ↔ isSafeServiceUrl nfkc value = some true := by
  constructor
  · rintro ⟨settings, service, setting, issues, hstrict, hsetting, rfl, hneeded, hissues, hfound⟩
    exact safe_of_validated hstrict hsetting hneeded hissues hfound
  · intro hsafe
    obtain ⟨parsed, hparsed, -⟩ := Option.bind_eq_some_iff.mp (id hsafe)
    have hmem : gatewayUrl value ∈ serviceUrls (productionSettings value) := by
      simp [serviceUrls, gatewayUrl, productionSettings]
    have hown : urlIssues nfkc (productionSettings value) .console (gatewayUrl value) =
        some (credentialIssues (productionSettings value) .console (gatewayUrl value) parsed ++
          []) :=
      (urlIssues_service hmem).mpr ⟨parsed, true, hparsed, hsafe, rfl⟩
    have hissues : validateUrls nfkc (productionSettings value) .console =
        some (credentialIssues (productionSettings value) .console (gatewayUrl value) parsed) := by
      have hstrict : (productionSettings value).strictRuntime = true := rfl
      unfold validateUrls
      rw [if_pos hstrict, console_urls, List.mapM_cons, hown]
      simp
    refine ⟨_, _, _, _, rfl, hmem, rfl, List.mem_singleton_self _, hissues, ?_⟩
    intro issue hissue hunsafe
    exact credentialIssues_code issue hissue hunsafe.2

/-- In a strict profile a service URL in clear whose host is an address in text leads inside,
exactly when that address is not a long one outside that has no dot or whose scope ends as an
internal name. -/
theorem clear_literals_inside_iff (nfkc : List Char → List Char) (value : String) :
    (Accepted nfkc value → ∀ host address, ClearLiteral nfkc value host address →
        internalAddress address = true) ↔
      ¬∃ host number scope, ClearLiteral nfkc value host (.v6 number scope) ∧
        internalAddress (.v6 number scope) = false ∧
        ('.' ∉ host ∨ scope.any endsInside = true) := by
  have hnamed : ∀ {host : List Char} {number : Nat} {scope : Option (List Char)},
      Lib.ipv6Address host = some (.v6 number scope) →
      (namedInside host = true ↔ '.' ∉ host ∨ scope.any endsInside = true) := by
    intro host number scope hlong
    rw [namedInside_v6 hlong, Bool.or_eq_true, Bool.not_eq_true', decide_eq_false_iff_not]
  constructor
  · rintro hinside ⟨host, number, scope, hliteral, houtside, hname⟩
    obtain ⟨parsed, hparsed, hscheme, hhost, haddress⟩ := id hliteral
    have hlong : Lib.ipv6Address host = some (.v6 number scope) := by
      obtain ⟨short, heq, -⟩ | ⟨_, _, heq, hlong⟩ := Lib.ipAddress_cases haddress
      · cases heq
      · rw [heq]
        exact hlong
    have hsafe : isSafeServiceUrl nfkc value = some true := by
      rw [isSafeServiceUrl_literal hliteral, (hnamed hlong).mpr hname, Bool.true_or]
    have hinternal := hinside (accepted_iff.mpr hsafe) host _ hliteral
    rw [houtside] at hinternal
    cases hinternal
  · intro hnone haccepted host address hliteral
    have hsafe := isSafeServiceUrl_literal hliteral
    rw [accepted_iff.mp haccepted] at hsafe
    obtain ⟨parsed, hparsed, hscheme, hhost, haddress⟩ := id hliteral
    cases hinternal : internalAddress address with
    | true => rfl
    | false =>
      rw [hinternal, Bool.or_false] at hsafe
      have hname : namedInside host = true := (Option.some.inj hsafe).symm
      exfalso
      obtain ⟨number, rfl, hshort⟩ | ⟨number, scope, rfl, hlong⟩ := Lib.ipAddress_cases haddress
      · rw [namedInside_v4 hshort] at hname
        cases hname
      · exact hnone ⟨host, number, scope, hliteral, hinternal, (hnamed hlong).mp hname⟩

end Acceptance

/-- The address of a public name server has no dot in its long form, and is accepted in clear. -/
theorem public_resolver_accepted : ¬∀ value, Accepted id value →
    ∀ host address, ClearLiteral id value host address → internalAddress address = true := by
  intro hinside
  have hsafe : isSafeServiceUrl id "http://[2001:4860:4860::8888]/" = some true := by
    decide +kernel
  have hliteral : ClearLiteral id "http://[2001:4860:4860::8888]/"
      "2001:4860:4860::8888".toList (.v6 0x20014860486000000000000000008888 none) :=
    ⟨⟨"http".toList, "[2001:4860:4860::8888]".toList, ['/'], [], []⟩, by decide +kernel,
      by decide +kernel, by decide +kernel, by decide +kernel⟩
  have hinternal := hinside _ (accepted_iff.mpr hsafe) _ _ hliteral
  have houtside : internalAddress (.v6 0x20014860486000000000000000008888 none) = false := by
    decide +kernel
  rw [houtside] at hinternal
  cases hinternal

end GhostRecon.Configuration
