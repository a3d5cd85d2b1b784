/-
Where a resource server publishes its metadata, and where a client that was
given no URL looks for it.
-/
import McpSdk.ClientAuth
import Mathlib.Data.List.AList

namespace McpSdk.RemoteAuth

open List Option
open RustStr (trimEndMatches splitOnceStr)
open ClientAuth (ParsedUrl prmUrlCandidates)

inductive Scheme where
  | http
  | https
deriving Repr, DecidableEq

def Scheme.asStr : Scheme → Str
  | .http => "http"
  | .https => "https"

/-- A parsed `http` or `https` URL with a host, and a port unless it is the scheme's. -/
structure ResourceUrl where
  scheme : Scheme
  host : Str
  port : Option Nat
  path : Str
  host_ne_nil : host ≠ []
  slash_not_mem_host : '/' ∉ host
  path_head : path.head? = some '/'

def ResourceUrl.authority (url : ResourceUrl) : Str :=
  url.host ++ url.port.elim [] fun port => ':' :: RustStr.showNat port

inductive OauthEndpoint where
  | authorizationEndpoint
  | tokenEndpoint
  | registrationEndpoint
  | revocationEndpoint
  | introspectionEndpoint
  | authorizationServerMetadata
  | protectedResourceMetadata
deriving Repr, DecidableEq

def wellKnownOauthAuthorizationServer : Str :=
  "/.well-known/oauth-authorization-server"

def oauthProtectedResourceBase : Str :=
  "/.well-known/oauth-protected-resource"

def urlBase (url : ResourceUrl) : Str :=
  url.scheme.asStr ++ "://" ++ url.host

def createProtectedResourceMetadataUrl (path : Str) : Str :=
  oauthProtectedResourceBase ++ if path = ['/'] then [] else path

structure RemoteAuthProvider where
  endpointMap : AList fun _ : Str => OauthEndpoint
  protectedResourceMetadataUrl : Str
deriving DecidableEq

def RemoteAuthProvider.new (resourceUrl : ResourceUrl) : RemoteAuthProvider :=
  let relativeUrl := createProtectedResourceMetadataUrl resourceUrl.path
  let baseUrl := urlBase resourceUrl
  { endpointMap :=
      ((∅ : AList fun _ : Str => OauthEndpoint).insert
        wellKnownOauthAuthorizationServer .authorizationServerMetadata).insert
        relativeUrl .protectedResourceMetadata
    protectedResourceMetadataUrl := trimEndMatches '/' baseUrl ++ relativeUrl }

/-- The scheme, the authority and the path of the text of a URL. -/
def splitUrl (text : Str) : Option ParsedUrl :=
  (splitOnceStr "://" text).map fun parts =>
    ⟨parts.1, parts.2.takeWhile (· ≠ '/'), parts.2.dropWhile (· ≠ '/')⟩

/-- The metadata URL has the scheme, host and port of the resource, is
registered, and is where a client looks first. -/
structure Agrees (parseUrl : Str → Option ParsedUrl) (text : Str)
    (url : ResourceUrl) (provider : RemoteAuthProvider) : Prop where
  location : ∃ path, splitUrl provider.protectedResourceMetadataUrl =
      some ⟨url.scheme.asStr, url.authority, path⟩ ∧
    provider.endpointMap.lookup path = some .protectedResourceMetadata
  first : (prmUrlCandidates parseUrl text none).head? = some provider.protectedResourceMetadataUrl

variable (url : ResourceUrl)

theorem splitUrl_urlBase (path : Str) :
    splitUrl (urlBase url ++ '/' :: path) = some ⟨url.scheme.asStr, url.host, '/' :: path⟩ := by
  have hscheme : splitOnceStr "://"
      (url.scheme.asStr ++ "://") = some (url.scheme.asStr, []) := by
    cases url.scheme with
    | http => decide
    | https => decide
  have hhost : ∀ c ∈ url.host, (decide (c ≠ '/')) = true := by
    intro c hc
    simpa using ne_of_mem_of_not_mem hc url.slash_not_mem_host
  have hsplit := RustStr.splitOnceStr_replace hscheme (url.host ++ '/' :: path) (by decide)
  unfold splitUrl urlBase
  rw [append_assoc, hsplit, map_some, takeWhile_append_of_pos hhost, dropWhile_append_of_pos hhost]
  simp

theorem trimEndMatches_urlBase : trimEndMatches '/' (urlBase url) = urlBase url := by
  rw [RustStr.trimEndMatches_eq_self_iff]
  intro hlast
  rw [urlBase, getLast?_append_of_ne_nil _ url.host_ne_nil] at hlast
  exact url.slash_not_mem_host (mem_of_getLast? hlast)

theorem new_protectedResourceMetadataUrl :
    (RemoteAuthProvider.new url).protectedResourceMetadataUrl =
      urlBase url ++ createProtectedResourceMetadataUrl url.path := by
  rw [RemoteAuthProvider.new, trimEndMatches_urlBase]

theorem new_registered :
    splitUrl (RemoteAuthProvider.new url).protectedResourceMetadataUrl =
        some ⟨url.scheme.asStr, url.host, createProtectedResourceMetadataUrl url.path⟩ ∧
      (RemoteAuthProvider.new url).endpointMap.lookup
        (createProtectedResourceMetadataUrl url.path) = some .protectedResourceMetadata := by
  have hbase : ∃ rest, oauthProtectedResourceBase = '/' :: rest :=
    ⟨".well-known/oauth-protected-resource", by decide⟩
  obtain ⟨rest, hrest⟩ := hbase
  refine ⟨?_, AList.lookup_insert _⟩
  rw [new_protectedResourceMetadataUrl, createProtectedResourceMetadataUrl, hrest, cons_append]
  exact splitUrl_urlBase url _

theorem prmUrlCandidates_head? {parseUrl : Str → Option ParsedUrl} {text : Str}
    {parsed : ParsedUrl} (hparse : parseUrl text = some parsed) :
    (prmUrlCandidates parseUrl text none).head? =
      some (parsed.origin ++ oauthProtectedResourceBase ++
        trimEndMatches '/' parsed.path) := by
  have hslash : trimEndMatches '/' parsed.path ≠ ['/'] := by
    intro heq
    have hsame : trimEndMatches '/' ['/'] = ['/'] := by
      rw [← heq]
      exact rdropWhile_idempotent _ _
    simp [trimEndMatches] at hsame
  unfold prmUrlCandidates oauthProtectedResourceBase
  generalize "/.well-known/oauth-protected-resource" = base
  rw [hparse]
  by_cases hempty : trimEndMatches '/' parsed.path = []
  · simp [hempty]
  · simp [hempty, hslash]

theorem authority_eq_host_iff : url.host = url.authority ↔ url.port = none := by
  unfold ResourceUrl.authority
  cases url.port with
  | none => simp
  | some port => simp

/-- Server and client append one path, unless slashes are trimmed from it. -/
theorem relative_eq_iff (path : Str) :
    (if path = ['/'] then [] else path) = trimEndMatches '/' path ↔
      path = ['/'] ∨ path.getLast? ≠ some '/' := by
  by_cases hroot : path = ['/']
  · simp [hroot, trimEndMatches]
  · rw [if_neg hroot, eq_comm, RustStr.trimEndMatches_eq_self_iff]
    simp [hroot]

/-- For every resource URL: server and client agree on the place of the metadata
exactly when it has no port and its path is the root or does not end in a slash. -/
theorem new_agrees_iff (url : ResourceUrl) {parseUrl : Str → Option ParsedUrl} {text : Str}
    (hparse : parseUrl text = some ⟨url.scheme.asStr, url.authority, url.path⟩) :
    Agrees parseUrl text url (RemoteAuthProvider.new url) ↔
      url.port = none ∧ (url.path = ['/'] ∨ url.path.getLast? ≠ some '/') := by
  obtain ⟨hlocation, hregistered⟩ := new_registered url
  have hfirst : url.port = none →
      ((prmUrlCandidates parseUrl text none).head? =
          some (RemoteAuthProvider.new url).protectedResourceMetadataUrl ↔
        url.path = ['/'] ∨ url.path.getLast? ≠ some '/') := by
    intro hport
    rw [prmUrlCandidates_head? hparse, new_protectedResourceMetadataUrl,
      some.injEq, ← relative_eq_iff, eq_comm, createProtectedResourceMetadataUrl, ParsedUrl.origin,
      ← (authority_eq_host_iff url).mpr hport, ← urlBase, append_assoc,
      append_cancel_left_eq, append_cancel_left_eq]
  constructor
  · rintro ⟨⟨path, hsplit, -⟩, hclient⟩
    have hport : url.port = none := by
      rw [hlocation, some.injEq, ParsedUrl.mk.injEq] at hsplit
      exact (authority_eq_host_iff url).mp hsplit.2.1
    exact ⟨hport, (hfirst hport).mp hclient⟩
  · rintro ⟨hport, hpath⟩
    refine ⟨⟨_, ?_, hregistered⟩, (hfirst hport).mpr hpath⟩
    rw [hlocation, (authority_eq_host_iff url).mpr hport]

namespace RemoteAuthProviderWitness

def resource (port : Option Nat) (path : Str) (hpath : path.head? = some '/') : ResourceUrl where
  scheme := .https
  host := "h"
  port
  path
  host_ne_nil := by decide
  slash_not_mem_host := by decide
  path_head := hpath

def plain : ResourceUrl := resource none "/mcp" (by decide)

def withPort : ResourceUrl := resource (some 8443) "/mcp" (by decide)

def withSlash : ResourceUrl := resource none "/mcp/" (by decide)

theorem agrees_plain :
    splitUrl "https://h/mcp" = some ⟨plain.scheme.asStr, plain.authority, plain.path⟩ ∧
      Agrees splitUrl "https://h/mcp" plain
        (RemoteAuthProvider.new plain) := by
  have hparse : splitUrl "https://h/mcp" =
      some ⟨plain.scheme.asStr, plain.authority, plain.path⟩ := by
    decide +kernel
  refine ⟨hparse, (new_agrees_iff plain hparse).mpr ⟨rfl, ?_⟩⟩
  decide +kernel

/-- The port is lost, and a slash at the end is kept by the server only. -/
theorem not_agrees :
    ((RemoteAuthProvider.new withPort).protectedResourceMetadataUrl =
        "https://h/.well-known/oauth-protected-resource/mcp".toList ∧
      prmUrlCandidates splitUrl "https://h:8443/mcp".toList none =
        ["https://h:8443/.well-known/oauth-protected-resource/mcp".toList,
          "https://h:8443/.well-known/oauth-protected-resource".toList] ∧
      ¬ Agrees splitUrl "https://h:8443/mcp".toList withPort
        (RemoteAuthProvider.new withPort)) ∧
    (RemoteAuthProvider.new withSlash).protectedResourceMetadataUrl =
        "https://h/.well-known/oauth-protected-resource/mcp/".toList ∧
      prmUrlCandidates splitUrl "https://h/mcp/".toList none =
        ["https://h/.well-known/oauth-protected-resource/mcp".toList,
          "https://h/.well-known/oauth-protected-resource".toList] ∧
      ¬ Agrees splitUrl "https://h/mcp/".toList withSlash
        (RemoteAuthProvider.new withSlash) := by
  have hport : prmUrlCandidates splitUrl "https://h:8443/mcp".toList none =
      ["https://h:8443/.well-known/oauth-protected-resource/mcp".toList,
        "https://h:8443/.well-known/oauth-protected-resource".toList] := by
    decide +kernel
  have hslash : prmUrlCandidates splitUrl "https://h/mcp/".toList none =
      ["https://h/.well-known/oauth-protected-resource/mcp".toList,
        "https://h/.well-known/oauth-protected-resource".toList] := by
    decide +kernel
  refine ⟨⟨by decide +kernel, hport, ?_⟩, by decide +kernel, hslash, ?_⟩
  · intro hagrees
    have hfirst := hagrees.first
    rw [hport, head?_cons] at hfirst
    exact absurd hfirst (by decide +kernel)
  · intro hagrees
    have hfirst := hagrees.first
    rw [hslash, head?_cons] at hfirst
    exact absurd hfirst (by decide +kernel)

end RemoteAuthProviderWitness

end McpSdk.RemoteAuth
