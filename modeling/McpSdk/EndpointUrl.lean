/-
The endpoint URL that an SSE server sends, with the session id in its query,
which it reads back with `query_param`.
-/
import McpSdk.SseEvent

namespace McpSdk.EndpointUrl

open List Option
open RustStr (cutAt splitOnce split)

def sessionIdKey : Str := "sessionId"

def sessionPair (sessionId : Str) : Str :=
  sessionIdKey ++ ['='] ++ sessionId

def queryWithSessionId (query : Option Str) (sessionId : Str) : Str :=
  match query with
  | some q =>
    if !q.isEmpty then q ++ ['&'] ++ sessionPair sessionId
    else sessionPair sessionId
  | none => sessionPair sessionId

def endpointWithSessionId (endpoint sessionId : Str) : Str :=
  let base := if endpoint.isEmpty then ['/'] else endpoint
  let (pathAndQuery, fragment) := cutAt '#' base
  let (path, query) := cutAt '?' pathAndQuery
  let newQuery := queryWithSessionId query sessionId
  match fragment with
  | some f => path ++ ['?'] ++ newQuery ++ ['#'] ++ f
  | none => path ++ ['?'] ++ newQuery

def removeQueryAndHash (endpoint : Str) : Str :=
  let withoutFragment := (splitOnce '#' endpoint).elim endpoint (·.1)
  let withoutQuery := (splitOnce '?' withoutFragment).elim withoutFragment (·.1)
  if withoutQuery.isEmpty then ['/'] else withoutQuery

/-- The query of a URI: the text between the first `?` and the first `#`. -/
def uriQuery (uri : Str) : Option Str :=
  (cutAt '?' (cutAt '#' uri).1).2

def uriFragment (uri : Str) : Option Str :=
  (cutAt '#' uri).2

/-- The value of a pair of the query for a key, empty without `=`. -/
def pairValue (key pair : Str) : Option Str :=
  let (k, v) := cutAt '=' pair
  if k = key then some (v.getD []) else none

def queryValue (key query : Str) : Option Str :=
  (split ['&'] query).findSome? (pairValue key)

def queryParam (uri key : Str) : Option Str :=
  (uriQuery uri).bind (queryValue key)

def uriPath (uri : Str) : Str :=
  (cutAt '?' (cutAt '#' uri).1).1

def assemble (path query : Str) (fragment : Option Str) : Str :=
  path ++ '?' :: query ++ fragment.elim [] ('#' :: ·)

theorem endpointWithSessionId_eq (endpoint sessionId : Str) :
    endpointWithSessionId endpoint sessionId =
      assemble (uriPath (if endpoint.isEmpty then ['/'] else endpoint))
        (queryWithSessionId (uriQuery endpoint) sessionId)
        (uriFragment endpoint) := by
  have hbase : uriQuery (if endpoint.isEmpty then ['/'] else endpoint) = uriQuery endpoint ∧
      uriFragment (if endpoint.isEmpty then ['/'] else endpoint) =
        uriFragment endpoint := by
    cases endpoint with
    | nil => decide
    | cons c endpoint => exact ⟨rfl, rfl⟩
  rw [← hbase.1, ← hbase.2]
  unfold endpointWithSessionId assemble uriPath uriQuery uriFragment
  generalize (if endpoint.isEmpty then ['/'] else endpoint) = base
  cases hfragment : (cutAt '#' base).2 with
  | none | some => simp [hfragment]

theorem removeQueryAndHash_eq (endpoint : Str) :
    removeQueryAndHash endpoint =
      if (uriPath endpoint).isEmpty then ['/'] else uriPath endpoint := by
  have hcut : ∀ (c : Char) (text : Str),
      (splitOnce c text).elim text (·.1) = (cutAt c text).1 := by
    intro c text
    unfold cutAt
    cases splitOnce c text with
    | none | some => rfl
  unfold removeQueryAndHash uriPath
  simp only [hcut]

section Assemble

variable {path query : Str}

theorem cutAt_assemble (hpath : '#' ∉ path) (hquery : '#' ∉ query) (fragment : Option Str) :
    cutAt '#' (assemble path query fragment) = (path ++ '?' :: query, fragment) := by
  have hnone : '#' ∉ path ++ '?' :: query := by
    simp [hpath, hquery]
  cases fragment with
  | none =>
    rw [assemble, elim_none, append_nil]
    exact RustStr.cutAt_of_not_mem hnone
  | some f => exact RustStr.cutAt_append hnone f

theorem uriFragment_assemble (hpath : '#' ∉ path) (hquery : '#' ∉ query) (fragment : Option Str) :
    uriFragment (assemble path query fragment) = fragment := by
  rw [uriFragment, cutAt_assemble hpath hquery]

theorem uriPath_assemble (hpath : '#' ∉ path) (hmark : '?' ∉ path) (hquery : '#' ∉ query)
    (fragment : Option Str) : uriPath (assemble path query fragment) = path := by
  rw [uriPath, cutAt_assemble hpath hquery, RustStr.cutAt_append hmark]

theorem uriQuery_assemble (hpath : '#' ∉ path) (hmark : '?' ∉ path) (hquery : '#' ∉ query)
    (fragment : Option Str) : uriQuery (assemble path query fragment) = some query := by
  rw [uriQuery, cutAt_assemble hpath hquery, RustStr.cutAt_append hmark]

end Assemble

theorem not_mem_uriPath (uri : Str) : '?' ∉ uriPath uri ∧ '#' ∉ uriPath uri := by
  obtain ⟨hhash, -⟩ := RustStr.cutAt_cases '#' uri
  obtain ⟨hmark, hcases⟩ := RustStr.cutAt_cases '?' (cutAt '#' uri).1
  refine ⟨hmark, fun hmem => hhash ?_⟩
  rcases hcases with hwhole | ⟨right, -, htext⟩
  · rwa [uriPath, hwhole] at hmem
  · rw [htext]
    exact mem_append_left _ hmem

theorem not_mem_uriQuery {uri query : Str} (hquery : uriQuery uri = some query) : '#' ∉ query := by
  obtain ⟨hhash, -⟩ := RustStr.cutAt_cases '#' uri
  obtain ⟨-, hcases⟩ := RustStr.cutAt_cases '?' (cutAt '#' uri).1
  rcases hcases with hwhole | ⟨right, hcut, htext⟩
  · rw [uriQuery, hwhole] at hquery
    cases hquery
  · rw [uriQuery, hcut] at hquery
    cases hquery
    intro hmem
    rw [htext] at hhash
    exact hhash (by simp [hmem])

theorem pairValue_sessionPair (key sessionId : Str) :
    pairValue key (sessionPair sessionId) =
      if sessionIdKey = key then some sessionId else none := by
  have htext : sessionPair sessionId = sessionIdKey ++ '=' :: sessionId := by
    rw [sessionPair, append_assoc, singleton_append]
  have hnot : '=' ∉ sessionIdKey := by decide
  unfold pairValue
  rw [htext, RustStr.cutAt_append hnot]
  rfl

theorem not_mem_sessionPair {c : Char} (hkey : c ∉ sessionIdKey) (hne : c ≠ '=')
    {sessionId : Str} (hid : c ∉ sessionId) : c ∉ sessionPair sessionId := by
  simp [sessionPair, hkey, hne, hid]

theorem queryValue_queryWithSessionId {key sessionId : Str} (hkey : key ≠ [])
    (hamp : '&' ∉ sessionId) (query : Option Str) :
    queryValue key (queryWithSessionId query sessionId) =
      (query.bind (queryValue key)).or
        (if sessionIdKey = key then some sessionId else none) := by
  have hlast : queryValue key (sessionPair sessionId) =
      if sessionIdKey = key then some sessionId else none := by
    rw [queryValue,
      RustStr.split_of_not_mem (not_mem_sessionPair (by decide) (by decide) hamp),
      findSome?_singleton, pairValue_sessionPair]
  cases query with
  | none => exact hlast
  | some q =>
    cases q with
    | nil =>
      have hempty : queryValue key [] = none := by
        simp [queryValue, split, RustStr.splitFrom, pairValue, cutAt, splitOnce, Ne.symm hkey]
      rw [bind_some, hempty, none_or]
      exact hlast
    | cons c q =>
      have hquery : queryWithSessionId (some (c :: q)) sessionId =
          (c :: q) ++ '&' :: sessionPair sessionId := by
        simp [queryWithSessionId]
      rw [hquery, queryValue, RustStr.split_append_cons, findSome?_append, ← hlast]
      rfl

theorem not_mem_queryWithSessionId {uri sessionId : Str} (hhash : '#' ∉ sessionId) :
    '#' ∉ queryWithSessionId (uriQuery uri) sessionId := by
  have hpair := not_mem_sessionPair (c := '#') (by decide) (by decide) hhash
  cases hquery : uriQuery uri with
  | none => exact hpair
  | some q =>
    have hq := not_mem_uriQuery hquery
    rw [queryWithSessionId]
    split
    · simp [hq, hpair]
    · exact hpair

/-- For every endpoint without a `sessionId` and every id without `&` and `#`:
the id can be read back, and all else is as it was. -/
theorem endpointWithSessionId_preserves {endpoint sessionId : Str}
    (hnone : queryParam endpoint sessionIdKey = none)
    (hamp : '&' ∉ sessionId) (hhash : '#' ∉ sessionId) :
    queryParam (endpointWithSessionId endpoint sessionId) sessionIdKey = some sessionId ∧
      (∀ key, key ≠ [] → key ≠ sessionIdKey →
        queryParam (endpointWithSessionId endpoint sessionId) key = queryParam endpoint key) ∧
      uriFragment (endpointWithSessionId endpoint sessionId) = uriFragment endpoint ∧
      removeQueryAndHash (endpointWithSessionId endpoint sessionId) =
        removeQueryAndHash endpoint := by
  obtain ⟨hmark, hpath⟩ := not_mem_uriPath (if endpoint.isEmpty then ['/'] else endpoint)
  have hquery : '#' ∉ queryWithSessionId (uriQuery endpoint) sessionId :=
    not_mem_queryWithSessionId hhash
  have hparam : ∀ key, key ≠ [] →
      queryParam (endpointWithSessionId endpoint sessionId) key =
        (queryParam endpoint key).or
          (if sessionIdKey = key then some sessionId else none) := by
    intro key hkey
    rw [queryParam, endpointWithSessionId_eq, uriQuery_assemble hpath hmark hquery, bind_some,
      queryValue_queryWithSessionId hkey hamp]
    rfl
  refine ⟨?_, ?_, ?_, ?_⟩
  · rw [hparam sessionIdKey (by decide), hnone, if_pos rfl, none_or]
  · intro key hkey hne
    rw [hparam key hkey, if_neg (Ne.symm hne), or_none]
  · rw [endpointWithSessionId_eq, uriFragment_assemble hpath hquery]
  · rw [removeQueryAndHash_eq, removeQueryAndHash_eq, endpointWithSessionId_eq,
      uriPath_assemble hpath hmark hquery]
    cases endpoint with
    | nil => decide
    | cons c endpoint => rfl

namespace EndpointUrlWitness

/-- A query in front of the id, and a fragment with a mark of its own. -/
theorem preserves_fragment :
    endpointWithSessionId "/messages?a=1&b#x?y".toList "i=d?".toList =
        "/messages?a=1&b&sessionId=i=d?#x?y".toList ∧
      queryParam (endpointWithSessionId "/messages?a=1&b#x?y".toList
        "i=d?".toList) sessionIdKey = some "i=d?".toList ∧
      (∀ key, key ≠ [] → key ≠ sessionIdKey →
        queryParam (endpointWithSessionId "/messages?a=1&b#x?y".toList "i=d?".toList) key =
          queryParam "/messages?a=1&b#x?y".toList key) ∧
      uriFragment (endpointWithSessionId "/messages?a=1&b#x?y".toList "i=d?".toList) =
        uriFragment "/messages?a=1&b#x?y".toList ∧
      removeQueryAndHash (endpointWithSessionId "/messages?a=1&b#x?y".toList "i=d?".toList) =
        removeQueryAndHash "/messages?a=1&b#x?y".toList :=
  ⟨by decide +kernel, endpointWithSessionId_preserves (by decide +kernel) (by decide) (by decide)⟩

end EndpointUrlWitness

end McpSdk.EndpointUrl
