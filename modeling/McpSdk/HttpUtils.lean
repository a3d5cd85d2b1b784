/-
The HTTP helpers of the client transports: headers, the origin of a URL, and the
endpoint of an SSE server, whose origin is compared only if it has one.
-/
import McpSdk.SseEvent

namespace McpSdk

open List

/-- The checks of the `http` crate on header names and values. -/
structure HttpCrate where
  headerName : Str → Except Str Str
  headerValue : Str → Except Str Unit

/-- A header map as the list of its entries, the names in lower case. -/
abbrev HeaderList := List (Str × Str)

def HeaderList.values (headers : HeaderList) (name : Str) : List Str :=
  (headers.filter (·.1 = name)).map (·.2)

/-- `HeaderMap::insert`: the values that the header had are dropped. -/
def HeaderList.insert (headers : HeaderList) (name value : Str) : HeaderList :=
  headers.filter (·.1 ≠ name) ++ [(name, value)]

/-- `RequestBuilder::headers`: the second map replaces the values of the first. -/
def HeaderList.replace (headers custom : HeaderList) : HeaderList :=
  headers.filter (fun entry => ∀ other ∈ custom, other.1 ≠ entry.1) ++ custom

theorem HeaderList.values_insert_self (headers : HeaderList) (name value : Str) :
    (headers.insert name value).values name = [value] := by
  have hnone : (headers.filter (·.1 ≠ name)).filter (·.1 = name) = [] := by
    rw [filter_filter, filter_eq_nil_iff]
    simp
  unfold insert values
  rw [filter_append, hnone]
  simp

theorem HeaderList.values_insert_of_ne {name other : Str} (hne : other ≠ name)
    (headers : HeaderList) (value : Str) :
    (headers.insert name value).values other = headers.values other := by
  have hkept : (headers.filter (·.1 ≠ name)).filter (·.1 = other) =
      headers.filter (·.1 = other) := by
    rw [filter_filter]
    apply filter_congr
    intro entry _
    by_cases hentry : entry.1 = other
    · simp [hentry, hne]
    · simp [hentry]
  unfold insert values
  rw [filter_append, hkept]
  simp [Ne.symm hne]

theorem HeaderList.values_append (left right : HeaderList) (name : Str) :
    HeaderList.values (left ++ right) name = left.values name ++ right.values name := by
  simp [HeaderList.values]

theorem HeaderList.values_replace {headers : HeaderList} {name : Str}
    (hname : headers.values name = []) (custom : HeaderList) :
    (headers.replace custom).values name = custom.values name := by
  have hnone : headers.filter (·.1 = name) = [] := by
    simpa [HeaderList.values] using hname
  have hkept : HeaderList.values (headers.filter fun entry =>
      ∀ other ∈ custom, other.1 ≠ entry.1) name = [] := by
    unfold HeaderList.values
    rw [filter_filter, map_eq_nil_iff, filter_eq_nil_iff]
    intro entry hentry hboth
    have hmem : entry ∈ headers.filter (·.1 = name) := by
      rw [mem_filter]
      simp only [Bool.and_eq_true] at hboth
      exact ⟨hentry, hboth.1⟩
    rw [hnone] at hmem
    cases hmem
  unfold HeaderList.replace
  rw [HeaderList.values_append, hkept, nil_append]

/-- The text before `#`, the scheme up to `://`, and host and port up to `/`. -/
def extractOrigin (url : Str) : Option Str := do
  let url ← (RustStr.split ['#'] url).head?
  let (scheme, rest) ← RustStr.splitOnceStr "://" url
  let stop := (rest.findIdx? (· = '/')).getD rest.length
  let hostPort := rest.take stop
  some (scheme ++ "://" ++ hostPort)

theorem take_findIdx? (c : Char) (text : Str) :
    text.take ((text.findIdx? (· = c)).getD text.length) = text.takeWhile (· ≠ c) := by
  induction text with
  | nil => rfl
  | cons d text ih =>
    by_cases hd : d = c
    · simp [findIdx?_cons, hd]
    · have htake : (d :: text).takeWhile (· ≠ c) =
          d :: text.takeWhile (· ≠ c) := takeWhile_cons_of_pos (by simpa)
      rw [htake, ← ih, findIdx?_cons]
      cases text.findIdx? (· = c) with
      | none | some => simp [hd]

theorem extractOrigin_eq (url : Str) :
    extractOrigin url =
      (RustStr.splitOnceStr "://".toList (url.takeWhile (· ≠ '#'))).map
        fun parts => parts.1 ++ "://".toList ++ parts.2.takeWhile (· ≠ '/') := by
  unfold extractOrigin
  rw [RustStr.split_head?]
  simp only [take_findIdx?, Option.bind_eq_bind, Option.bind_some]
  cases RustStr.splitOnceStr "://".toList (url.takeWhile (· ≠ '#')) with
  | none | some => rfl

/-- There is an origin exactly when `://` occurs before the first `#`. -/
theorem extractOrigin_eq_none_iff (url : Str) :
    extractOrigin url = none ↔
      ¬ "://".toList <:+: url.takeWhile (· ≠ '#') := by
  rw [extractOrigin_eq, Option.map_eq_none_iff]
  exact RustStr.splitOnceStr_eq_none_iff (by decide)

theorem takeWhile_append_of_not_mem {c : Char} {left : Str} (hc : c ∉ left) (right : Str) :
    (left ++ c :: right).takeWhile (· ≠ c) = left := by
  rw [takeWhile_append_of_pos]
  · simp
  · intro d hd
    simpa using ne_of_mem_of_not_mem hd hc

theorem extractOrigin_append_path {url origin : Str} (horigin : extractOrigin url = some origin)
    (path : Str) : extractOrigin (origin ++ '/' :: path) = some origin := by
  rw [extractOrigin_eq, Option.map_eq_some_iff] at horigin
  obtain ⟨⟨scheme, rest⟩, hsplit, rfl⟩ := horigin
  have hurl := RustStr.splitOnceStr_eq hsplit
  have hhash : '#' ∉ url.takeWhile (· ≠ '#') := by
    intro hmem
    simpa using mem_takeWhile_imp hmem
  rw [hurl] at hhash
  simp only [mem_append, not_or] at hhash
  have hhost : '/' ∉ rest.takeWhile (· ≠ '/') := by
    intro hmem
    simpa using mem_takeWhile_imp hmem
  have hhostHash : '#' ∉ rest.takeWhile (· ≠ '/') := fun hmem =>
    hhash.2 ((List.takeWhile_prefix _).subset hmem)
  -- the fragment that is cut off begins behind the slash
  have hcut : (scheme ++ "://".toList ++ rest.takeWhile (· ≠ '/') ++
      '/' :: path).takeWhile (· ≠ '#') =
        scheme ++ "://".toList ++ (rest.takeWhile (· ≠ '/') ++
          '/' :: path.takeWhile (· ≠ '#')) := by
    rw [takeWhile_append_of_pos, takeWhile_cons_of_pos (by decide)]
    · simp
    · intro d hd
      simp only [mem_append] at hd
      rcases hd with (hd | hd) | hd
      · simpa using ne_of_mem_of_not_mem hd hhash.1.1
      · simpa using ne_of_mem_of_not_mem hd hhash.1.2
      · simpa using ne_of_mem_of_not_mem hd hhostHash
  rw [extractOrigin_eq, hcut, RustStr.splitOnceStr_replace hsplit _ (by decide), Option.map_some]
  simp only [takeWhile_append_of_not_mem hhost]

namespace ClientSse

inductive TransportError where
  | configuration (message : Str)
deriving Repr, DecidableEq

/-- The part of a `ClientSseTransport` that the checks below read. -/
structure ClientSseTransport where
  sseUrl : Str
  baseUrl : Str
  customHeaders : Option HeaderList
deriving Repr, DecidableEq

/-- The custom headers, in the order in which the map gives them. -/
def validateHeaders (http : HttpCrate) :
    HeaderList → List (Str × Str) → Except TransportError HeaderList
  | headerMap, [] => .ok headerMap
  | headerMap, (key, value) :: headers =>
    match http.headerName key with
    | .error e => .error (.configuration ("Invalid header name: " ++ e))
    | .ok name =>
      match http.headerValue value with
      | .error e =>
        .error (.configuration ("Invalid header value: " ++ e))
      | .ok () => validateHeaders http (headerMap.insert name value) headers

def ClientSseTransport.new (http : HttpCrate) (serverUrl : Str)
    (customHeaders : Option (List (Str × Str))) : Except TransportError ClientSseTransport :=
  match extractOrigin serverUrl with
  | none =>
    .error (.configuration ("Failed to extract origin from server URL: " ++ serverUrl))
  | some baseUrl =>
    match customHeaders with
    | none => .ok ⟨serverUrl, baseUrl, none⟩
    | some headers =>
      (validateHeaders http [] headers).map fun headerMap =>
        ⟨serverUrl, baseUrl, some headerMap⟩

def ClientSseTransport.validateMessageEndpoint (self : ClientSseTransport)
    (endpoint : Str) : Except TransportError Str :=
  if ['/'].isPrefixOf endpoint then .ok (self.baseUrl ++ endpoint)
  else match extractOrigin endpoint with
    | some endpointOrigin =>
      if endpointOrigin ≠ self.baseUrl then
        .error (.configuration
          ("Endpoint origin does not match connection origin. expected: "
            ++ self.baseUrl ++ " , received: " ++ endpointOrigin))
      else .ok endpoint
    | none => .ok endpoint

theorem ClientSseTransport.extractOrigin_of_new {http : HttpCrate} {serverUrl : Str}
    {customHeaders : Option (List (Str × Str))} {transport : ClientSseTransport}
    (hnew : ClientSseTransport.new http serverUrl customHeaders = .ok transport) :
    extractOrigin serverUrl = some transport.baseUrl := by
  unfold ClientSseTransport.new at hnew
  cases horigin : extractOrigin serverUrl with
  | none => simp [horigin] at hnew
  | some baseUrl =>
    simp only [horigin] at hnew
    cases customHeaders with
    | none =>
      cases hnew
      rfl
    | some headers =>
      cases hmap : validateHeaders http [] headers with
      | error e => simp [hmap, Except.map] at hnew
      | ok headerMap =>
        simp only [hmap, Except.map, Except.ok.injEq] at hnew
        subst hnew
        rfl

/-- What is accepted has the origin of the connection exactly for endpoints that
are paths or have an origin. -/
theorem validateMessageEndpoint_origin_iff (http : HttpCrate) (serverUrl : Str)
    (customHeaders : Option (List (Str × Str))) (transport : ClientSseTransport)
    (hnew : ClientSseTransport.new http serverUrl customHeaders = .ok transport) (endpoint : Str) :
    (∀ url, transport.validateMessageEndpoint endpoint = .ok url →
        extractOrigin url = some transport.baseUrl) ↔
      ['/'] <+: endpoint ∨ "://" <:+: endpoint.takeWhile (· ≠ '#') := by
  have hbase := ClientSseTransport.extractOrigin_of_new hnew
  unfold ClientSseTransport.validateMessageEndpoint
  constructor
  · intro hsame
    by_contra hnot
    rw [not_or, ← List.isPrefixOf_iff_prefix, ← extractOrigin_eq_none_iff] at hnot
    have hnone := hsame endpoint (by simp [hnot.1, hnot.2])
    rw [hnot.2] at hnone
    cases hnone
  · intro hcond url hurl
    by_cases hpath : ['/'].isPrefixOf endpoint = true
    · rw [if_pos hpath] at hurl
      cases hurl
      obtain ⟨path, rfl⟩ := List.isPrefixOf_iff_prefix.mp hpath
      exact extractOrigin_append_path hbase path
    · rw [if_neg hpath] at hurl
      rcases hcond with hstart | hscheme
      · exact absurd (List.isPrefixOf_iff_prefix.mpr hstart) hpath
      · cases horigin : extractOrigin endpoint with
        | none => exact absurd hscheme ((extractOrigin_eq_none_iff endpoint).mp horigin)
        | some endpointOrigin =>
          simp only [horigin] at hurl
          by_cases hne : endpointOrigin ≠ transport.baseUrl
          · rw [if_pos hne] at hurl
            cases hurl
          · rw [if_neg hne] at hurl
            cases hurl
            rw [horigin, not_not.mp hne]

namespace EndpointWitness

def http : HttpCrate :=
  ⟨.ok, fun _ => .ok ()⟩

def serverUrl : Str := "http://a:80/sse#x"

def transport : ClientSseTransport :=
  ⟨serverUrl, "http://a:80", none⟩

theorem validateMessageEndpoint_path :
    ClientSseTransport.new http serverUrl none = .ok transport ∧
      ∀ url, transport.validateMessageEndpoint "/m://b#/".toList = .ok url →
        extractOrigin url = some "http://a:80".toList := by
  have hnew : ClientSseTransport.new http serverUrl none = .ok transport := by
    decide +kernel
  have hiff := validateMessageEndpoint_origin_iff http serverUrl none transport
    hnew "/m://b#/".toList
  exact ⟨hnew, hiff.mpr (Or.inl (by decide))⟩

/-- An endpoint without scheme is accepted as it is, and it has no origin. -/
theorem validateMessageEndpoint_no_scheme :
    ClientSseTransport.new http serverUrl none = .ok transport ∧
      transport.validateMessageEndpoint "b.org/m" = .ok "b.org/m" ∧
      extractOrigin "b.org/m" = none := by
  decide +kernel

end EndpointWitness

end ClientSse

end McpSdk
