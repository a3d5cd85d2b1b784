/-
How the CORS middleware decides a preflight, and how one should be decided.
-/
import McpSdk.Cors

namespace McpSdk.Cors

open List Option

/-- The policy admits this `Origin`; one that cannot be read is in no list. -/
def CorsConfig.AdmitsValue (config : CorsConfig) : Option Str → Prop
  | some origin => config.Admits origin
  | none => ∀ allowed, config.allowOrigins ≠ .list allowed

def Request.HasRequestMethod (request : Request) : Prop :=
  (request.headers.get requestMethodHeader).isSome = true

/-- Every name in the value is empty or allowed, in whatever case. -/
def CorsConfig.AllowsNames (config : CorsConfig) (value : Option Str) : Prop :=
  ∃ text, value = some text ∧ ∀ part ∈ RustStr.split [','] text,
    RustStr.trim part ≠ [] → ∃ name ∈ config.allowHeaders,
      RustStr.eqIgnoreAsciiCase (RustStr.trim part) name.asStr = true

/-- A preflight that should be granted. -/
structure Grantable (config : CorsConfig) (request : Request) : Prop where
  origin : ∃ value, request.headers.get originHeader = some value ∧ config.AdmitsValue value
  method : ∃ method ∈ config.allowMethods,
    request.headers.get requestMethodHeader = some (some method.asStr)
  headers : ∀ value ∈ request.headers.getAll requestHeadersHeader, config.AllowsNames value

/-- The request goes to the next handler, and its response comes back. -/
def Passed (config : CorsConfig) (request : Request) : Prop :=
  ∃ after : Response → Response, ∀ next, handle config request next = (next request).map after

/-- A preflight is granted exactly when it should be, and otherwise refused;
anything else is passed on. -/
structure Decides (config : CorsConfig) (request : Request) : Prop where
  preflight : request.HasRequestMethod → ∀ next, ∃ response,
    handle config request next = .ok response ∧
      (Grantable config request → response.status = 204) ∧
      (¬ Grantable config request → 400 ≤ response.status)
  other : ¬ request.HasRequestMethod → Passed config request

/-- The method can be read, no name is empty, and the first value lists all. -/
structure Regular (request : Request) : Prop where
  method : request.requestedMethod.isSome = true
  nonempty : [] ∉ request.requestedHeaders
  covered : ∀ value ∈ request.headers.getAll requestHeadersHeader,
    ∃ text, value = some text ∧
      ∀ name ∈ lowerNames text, name = [] ∨ name ∈ request.requestedHeaders

/-- There is a configuration that takes the request, or should. -/
def Servable (request : Request) : Prop :=
  ∃ config, Accepted config request ∨ Grantable config request

/-- The ways in which a preflight is answered otherwise than it should be. -/
inductive Misjudged (config : CorsConfig) (request : Request) : Prop where
  /-- A method that cannot be read is not checked. -/
  | method {origin : Str} (horigin : request.origin = some origin)
      (hadmits : config.Admits origin)
      (hnames : request.requestedHeaders ⊆ config.allowedNames)
      (hmethod : request.requestedMethod = none)
  /-- Only the first value of the header is checked, and only if it can be read. -/
  | value {origin : Str} {value : Option Str} (horigin : request.origin = some origin)
      (hadmits : config.Admits origin)
      (hnames : request.requestedHeaders ⊆ config.allowedNames)
      (hmethod : ∃ method ∈ config.allowMethods, request.requestedMethod = some method)
      (hvalue : value ∈ request.headers.getAll requestHeadersHeader)
      (hnot : ¬ config.AllowsNames value)
  /-- An empty name is not passed over. -/
  | empty (hgrantable : Grantable config request) (horigin : request.origin.isSome = true)
      (hempty : [] ∈ request.requestedHeaders)
  /-- Without an origin that can be read, nothing else is checked. -/
  | unchecked (horigin : request.origin = none) (hany : config.allowOrigins = .any)
      (hcredentials : config.allowCredentials = false) (hnot : ¬ Grantable config request)
  /-- An origin that cannot be read is taken for none. -/
  | unread (hgrantable : Grantable config request) (horigin : request.origin = none)
      (hpolicy : config.allowOrigins ≠ .any ∨ config.allowCredentials = true)

section Decision

variable {config : CorsConfig} {request : Request}

theorem Method.parse_asStr (method : Method) : Method.parse method.asStr = some method :=
  dif_pos method.valid

theorem Method.asStr_of_parse {text : Str} {method : Method}
    (hparse : Method.parse text = some method) : text = method.asStr := by
  rw [Method.parse] at hparse
  split at hparse
  · cases hparse
    rfl
  · cases hparse

theorem requestedMethod_eq_some_iff {method : Method} :
    request.requestedMethod = some method ↔
      request.headers.get requestMethodHeader = some (some method.asStr) := by
  rw [Request.requestedMethod]
  constructor
  · intro hrequested
    obtain ⟨text, htext, hparse⟩ := bind_eq_some_iff.mp hrequested
    obtain ⟨value, hvalue, heq⟩ := bind_eq_some_iff.mp htext
    rw [hvalue, ← Method.asStr_of_parse hparse]
    exact congrArg some heq
  · intro hget
    rw [hget]
    exact Method.parse_asStr method

theorem mem_allowedNames {name : Str} :
    name ∈ config.allowedNames ↔ ∃ allowed ∈ config.allowHeaders, name = allowed.asStr := by
  rw [CorsConfig.allowedNames, List.mem_map]
  refine exists_congr fun allowed => and_congr_right fun _ => ?_
  rw [allowed.lower]
  exact eq_comm

theorem nil_not_mem_allowedNames : [] ∉ config.allowedNames := by
  intro hnil
  obtain ⟨allowed, -, heq⟩ := mem_allowedNames.mp hnil
  have hvalid := allowed.valid
  rw [← heq] at hvalid
  cases hvalid

theorem allowsNames_iff {value : Option Str} :
    config.AllowsNames value ↔ ∃ text, value = some text ∧
      ∀ name ∈ lowerNames text, name = [] ∨ name ∈ config.allowedNames := by
  refine exists_congr fun text => and_congr_right fun _ => ?_
  rw [lowerNames, List.forall_mem_map]
  refine forall_congr' fun part => forall_congr' fun _ => ?_
  rw [List.map_eq_nil_iff, ← or_iff_not_imp_left]
  refine or_congr_right ?_
  rw [CorsConfig.allowedNames, List.mem_map]
  refine exists_congr fun name => and_congr_right fun _ => ?_
  rw [RustStr.eqIgnoreAsciiCase, decide_eq_true_iff]
  exact eq_comm

theorem mem_requestedHeaders {name : Str} :
    name ∈ request.requestedHeaders ↔ ∃ text,
      some text ∈ (request.headers.getAll requestHeadersHeader).head? ∧ name ∈ lowerNames text := by
  rw [Request.requestedHeaders, HeaderMap.get_eq_head?]
  cases (request.headers.getAll requestHeadersHeader).head? with
  | none => simp
  | some value =>
    cases value with
    | none => simp
    | some text => simp

theorem origin_eq_some_iff {origin : Str} :
    request.origin = some origin ↔ request.headers.get originHeader = some (some origin) := by
  rw [Request.origin, bind_eq_some_iff]
  simp

theorem accepted_iff {origin : Str} (horigin : request.origin = some origin) :
    Accepted config request ↔ config.Admits origin ∧
      (∀ method ∈ request.requestedMethod, method ∈ config.allowMethods) ∧
      request.requestedHeaders ⊆ config.allowedNames := by
  rw [Accepted, horigin]

/-- Without an empty name, a request that should be granted is. -/
theorem Grantable.accepted {origin : Str} (hgrantable : Grantable config request)
    (horigin : request.origin = some origin) (hnonempty : [] ∉ request.requestedHeaders) :
    Accepted config request := by
  obtain ⟨⟨value, hvalue, hadmits⟩, ⟨other, hother, hsame⟩, hheaders⟩ := hgrantable
  cases (origin_eq_some_iff.mp horigin).symm.trans hvalue
  refine (accepted_iff horigin).mpr ⟨hadmits, ?_, ?_⟩
  · intro requested hrequested
    have heq := hrequested.symm.trans (requestedMethod_eq_some_iff.mpr hsame)
    cases heq
    exact hother
  · intro name hname
    obtain ⟨text, htext, hlisted⟩ := mem_requestedHeaders.mp hname
    obtain ⟨same, heq, hallowed⟩ := allowsNames_iff.mp (hheaders _ (mem_of_mem_head? htext))
    cases heq
    rcases hallowed name hlisted with rfl | hmem
    · exact absurd hname hnonempty
    · exact hmem

/-- A request that is regular is granted exactly when it should be. -/
theorem Regular.accepted_iff_grantable (hregular : Regular request)
    (horigin : request.origin.isSome = true) (config : CorsConfig) :
    Accepted config request ↔ Grantable config request := by
  obtain ⟨origin, horigin⟩ := isSome_iff_exists.mp horigin
  obtain ⟨method, hmethod⟩ := isSome_iff_exists.mp hregular.method
  refine ⟨?_, fun hgrantable => hgrantable.accepted horigin hregular.nonempty⟩
  rw [accepted_iff horigin]
  rintro ⟨hadmits, hmethods, hheaders⟩
  refine ⟨⟨some origin, origin_eq_some_iff.mp horigin, hadmits⟩, ⟨method, ?_, ?_⟩, ?_⟩
  · exact hmethods method hmethod
  · exact requestedMethod_eq_some_iff.mp hmethod
  · intro value hvalue
    obtain ⟨text, rfl, hcovered⟩ := hregular.covered value hvalue
    refine allowsNames_iff.mpr ⟨text, rfl, ?_⟩
    intro name hname
    exact (hcovered name hname).imp_right (hheaders ·)

theorem Misjudged.not_iff (hmisjudged : Misjudged config request) :
    ¬ (Accepted config request ↔ Grantable config request) := by
  intro hiff
  cases hmisjudged with
  | method horigin hadmits hnames hmethod =>
    have haccepted := (accepted_iff horigin).mpr ⟨hadmits, by simp [hmethod], hnames⟩
    obtain ⟨method, -, hget⟩ := (hiff.mp haccepted).method
    cases hmethod.symm.trans (requestedMethod_eq_some_iff.mpr hget)
  | value horigin hadmits hnames hmethod hvalue hnot =>
    obtain ⟨method, hallowed, hmethod⟩ := hmethod
    have haccepted := (accepted_iff horigin).mpr
      ⟨hadmits, by simpa [hmethod] using hallowed, hnames⟩
    exact hnot ((hiff.mp haccepted).headers _ hvalue)
  | empty hgrantable horigin hempty =>
    obtain ⟨origin, horigin⟩ := isSome_iff_exists.mp horigin
    have haccepted := (accepted_iff horigin).mp (hiff.mpr hgrantable)
    exact nil_not_mem_allowedNames (haccepted.2.2 hempty)
  | unchecked horigin hany hcredentials hnot =>
    refine hnot (hiff.mp ?_)
    rw [Accepted, horigin]
    exact ⟨hany, hcredentials⟩
  | unread hgrantable horigin hpolicy =>
    have haccepted := hiff.mpr hgrantable
    rw [Accepted, horigin] at haccepted
    rcases hpolicy with hpolicy | hcredentials
    · exact hpolicy haccepted.1
    · cases haccepted.2.symm.trans hcredentials

theorem misjudged_of_accepted (haccepted : Accepted config request)
    (hnot : ¬ Grantable config request) : Misjudged config request := by
  cases horigin : request.origin with
  | none =>
    rw [Accepted, horigin] at haccepted
    exact .unchecked horigin haccepted.1 haccepted.2 hnot
  | some origin =>
    obtain ⟨hadmits, hmethods, hnames⟩ := (accepted_iff horigin).mp haccepted
    cases hmethod : request.requestedMethod with
    | none => exact .method horigin hadmits hnames hmethod
    | some method =>
      have hallowed := hmethods method hmethod
      by_contra hright
      refine hnot ⟨⟨_, origin_eq_some_iff.mp horigin, hadmits⟩,
        ⟨method, hallowed, requestedMethod_eq_some_iff.mp hmethod⟩, ?_⟩
      intro value hvalue
      by_contra hnames'
      exact hright (.value horigin hadmits hnames ⟨method, hallowed, hmethod⟩ hvalue hnames')

theorem misjudged_of_grantable (hgrantable : Grantable config request)
    (hnot : ¬ Accepted config request) : Misjudged config request := by
  cases horigin : request.origin with
  | none =>
    rw [Accepted, horigin, not_and_or, Bool.not_eq_false] at hnot
    exact .unread hgrantable horigin hnot
  | some origin =>
    refine .empty hgrantable (by rw [horigin]; rfl) ?_
    by_contra hnonempty
    exact hnot (hgrantable.accepted horigin hnonempty)

theorem not_misjudged_iff :
    ¬ Misjudged config request ↔ (Accepted config request ↔ Grantable config request) := by
  constructor
  · intro hright
    constructor
    · intro haccepted
      by_contra hnot
      exact hright (misjudged_of_accepted haccepted hnot)
    · intro hgrantable
      by_contra hnot
      exact hright (misjudged_of_grantable hgrantable hnot)
  · intro hiff hmisjudged
    exact hmisjudged.not_iff hiff

/-- The configuration allows only those headers that the middleware reads in
the request. -/
def CorsConfig.restrict (config : CorsConfig) (request : Request) : CorsConfig :=
  { config with
    allowHeaders := config.allowHeaders.filter fun allowed =>
      request.requestedHeaders.contains allowed.asStr }

theorem Accepted.restrict {origin : Str} (horigin : request.origin = some origin)
    (haccepted : Accepted config request) : Accepted (config.restrict request) request := by
  obtain ⟨hadmits, hmethods, hheaders⟩ := (accepted_iff horigin).mp haccepted
  refine (accepted_iff horigin).mpr ⟨hadmits, hmethods, ?_⟩
  intro name hname
  obtain ⟨allowed, hmem, rfl⟩ := mem_allowedNames.mp (hheaders hname)
  refine mem_allowedNames.mpr ⟨allowed, ?_, rfl⟩
  exact mem_filter.mpr ⟨hmem, contains_iff_mem.mpr hname⟩

/-- The policy that is open to all, without credentials and methods. -/
def openConfig : CorsConfig :=
  ⟨.any, [], [], false, none, []⟩

/-- An `OPTIONS` request is never passed on. -/
theorem Decides.hasRequestMethod (hoptions : request.method = .options)
    (hdecides : Decides config request) : request.HasRequestMethod := by
  by_contra hnone
  obtain ⟨after, hafter⟩ := hdecides.other hnone
  have herror := hafter fun _ => .error (.httpError [])
  rw [handle, if_pos hoptions] at herror
  cases herror

section

variable (hoptions : request.method = .options) (hmethod : request.HasRequestMethod)

include hoptions hmethod

theorem decides_iff :
    Decides config request ↔ (Accepted config request ↔ Grantable config request) := by
  have hhandle : ∀ next, handle config request next =
      .ok (preflight config request) := fun _ => if_pos hoptions
  have hstatus : ((Grantable config request → (preflight config request).status = 204) ∧
      (¬ Grantable config request → 400 ≤ (preflight config request).status)) ↔
      (Accepted config request ↔ Grantable config request) := by
    rcases preflight_cases config request with
      ⟨haccepted, heq⟩ | ⟨hnot, status, payload, hle, heq⟩
    · have hgranted : (preflight config request).status = 204 := by
        rw [heq]
        rfl
      rw [hgranted]
      simp [haccepted]
    · have hrefused : (preflight config request).status = status := by
        rw [heq]
        rfl
      have hne : status ≠ 204 := by omega
      rw [hrefused]
      simp [hnot, hle, hne]
  rw [← hstatus]
  constructor
  · intro hdecides
    obtain ⟨response, hresponse, hboth⟩ :=
      hdecides.preflight hmethod fun _ => .ok (preflight config request)
    cases (hhandle _).symm.trans hresponse
    exact hboth
  · intro hboth
    exact ⟨fun _ next => ⟨_, hhandle next, hboth⟩, fun hnone => absurd hmethod hnone⟩

/-- A request that is decided right under every configuration is regular, if
it can be granted at all. -/
theorem regular_of_decides (horigin : request.origin.isSome = true)
    (hdecides : ∀ config, Decides config request) (hservable : Servable request) :
    Regular request := by
  obtain ⟨origin, horigin⟩ := isSome_iff_exists.mp horigin
  have hiff : ∀ config, Accepted config request ↔ Grantable config request :=
    fun config => (decides_iff hoptions hmethod).mp (hdecides config)
  obtain ⟨config, heither⟩ := hservable
  have haccepted : Accepted config request := heither.elim id (hiff config).mpr
  obtain ⟨method, -, hget⟩ := ((hiff config).mp haccepted).method
  refine ⟨?_, ?_, ?_⟩
  · rw [requestedMethod_eq_some_iff.mpr hget]
    rfl
  · intro hnil
    exact nil_not_mem_allowedNames (((accepted_iff horigin).mp haccepted).2.2 hnil)
  · intro value hvalue
    -- the configuration without the headers that were not read
    have hgrantable := (hiff _).mp (haccepted.restrict horigin)
    obtain ⟨text, rfl, hallowed⟩ := allowsNames_iff.mp (hgrantable.headers value hvalue)
    refine ⟨text, rfl, ?_⟩
    intro name hname
    refine (hallowed name hname).imp_right ?_
    intro hmem
    obtain ⟨allowed, hfiltered, rfl⟩ := mem_allowedNames.mp hmem
    exact contains_iff_mem.mp (mem_filter.mp hfiltered).2

theorem Decides.origin_isSome (hdecides : Decides openConfig request) :
    request.origin.isSome = true := by
  by_contra hnone
  rw [Bool.not_eq_true, isSome_eq_false_iff, isNone_iff_eq_none] at hnone
  have haccepted : Accepted openConfig request := by
    rw [Accepted, hnone]
    exact ⟨rfl, rfl⟩
  obtain ⟨method, hmem, -⟩ := (((decides_iff hoptions hmethod).mp hdecides).mp haccepted).method
  cases hmem

theorem decides_of_regular (horigin : request.origin.isSome = true)
    (hregular : Servable request → Regular request) (config : CorsConfig) :
    Decides config request := by
  refine (decides_iff hoptions hmethod).mpr ?_
  by_cases hservable : Servable request
  · exact (hregular hservable).accepted_iff_grantable horigin config
  · constructor
    · intro haccepted
      exact absurd ⟨config, .inl haccepted⟩ hservable
    · intro hgrantable
      exact absurd ⟨config, .inr hgrantable⟩ hservable

end

/-- For every configuration and `OPTIONS` request: it is decided right exactly
when it names a method and is not misjudged.  Under every configuration it is,
exactly when its origin can be read and it is regular or never to be granted. -/
theorem preflight_decides_iff (hoptions : request.method = .options) :
    (∀ config, Decides config request ↔
      request.HasRequestMethod ∧ ¬ Misjudged config request) ∧
    ((∀ config, Decides config request) ↔
      request.HasRequestMethod ∧ request.origin.isSome = true ∧
        (Servable request → Regular request)) := by
  refine ⟨fun config => ⟨?_, ?_⟩, ?_, ?_⟩
  · intro hdecides
    have hmethod := hdecides.hasRequestMethod hoptions
    exact ⟨hmethod, not_misjudged_iff.mpr ((decides_iff hoptions hmethod).mp hdecides)⟩
  · rintro ⟨hmethod, hright⟩
    exact (decides_iff hoptions hmethod).mpr (not_misjudged_iff.mp hright)
  · intro hdecides
    have hmethod := (hdecides openConfig).hasRequestMethod hoptions
    have horigin := (hdecides openConfig).origin_isSome hoptions hmethod
    exact ⟨hmethod, horigin, regular_of_decides hoptions hmethod horigin hdecides⟩
  · rintro ⟨hmethod, horigin, hregular⟩
    exact decides_of_regular hoptions hmethod horigin hregular

end Decision

namespace CorsPreflightWitness

def options (headers : List (Str × Option Str)) : Request :=
  ⟨.options, "/mcp", ⟨(originHeader, some "a") :: headers⟩, []⟩

def asking (method headers : Str) : Request :=
  options [(requestMethodHeader, some method), (requestHeadersHeader, some headers)]

/-- What is no preflight is answered, what is no method granted, and a last comma refused. -/
theorem preflight_misjudged :
    (¬ (options []).HasRequestMethod ∧
        handle .default (options []) (fun _ => .error (.httpError [])) =
          .ok (preflight .default (options [])) ∧
        (preflight .default (options [])).status = 204) ∧
      ((∀ method ∈ CorsConfig.default.allowMethods, method.asStr ≠ "G T") ∧
        (preflight .default (asking "G T" "Content-Type")).status = 204) ∧
      (preflight .default (asking "GET" "Content-Type")).status = 204 ∧
      (preflight .default (asking "GET"
        "Content-Type,")).status = 400 := by
  refine ⟨⟨?_, rfl, ?_⟩, ⟨?_, ?_⟩, ?_, ?_⟩
  · rw [Request.HasRequestMethod]
    decide +kernel
  · decide +kernel
  · decide +kernel
  · decide +kernel
  · decide +kernel
  · decide +kernel

theorem contentType_covered :
    ∀ value ∈ (asking "GET" "Content-Type".toList).headers.getAll
        requestHeadersHeader,
      ∃ text, value = some text ∧ ∀ name ∈ lowerNames text, name = [] ∨
        name ∈ (asking "GET" "Content-Type".toList).requestedHeaders := by
  have hvalues : (asking "GET" "Content-Type".toList).headers.getAll
      requestHeadersHeader = [some "Content-Type".toList] := by
    decide +kernel
  intro value hvalue
  rw [hvalues, mem_singleton] at hvalue
  refine ⟨_, hvalue, ?_⟩
  decide +kernel

theorem preflight_decides_contentType : Decides .permissive (asking "GET" "Content-Type") := by
  have hoptions : (asking "GET" "Content-Type".toList).method = .options := rfl
  refine (preflight_decides_iff hoptions).2.mpr ⟨?_, ?_, fun _ => ?_⟩ _
  · rw [Request.HasRequestMethod]
    decide +kernel
  · decide +kernel
  · exact ⟨by decide +kernel, by decide +kernel, contentType_covered⟩

end CorsPreflightWitness

end McpSdk.Cors
