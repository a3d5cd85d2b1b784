/-
The client ids that an auth client shows to the authorization server. Every flow
registers anew; only a metadata document gives all of them one id.
-/
import Mathlib.Data.List.Nodup
import McpSdk.ClientAuth

namespace McpSdk.ClientAuth

open List

universe u

variable {ω : Type u} {config : McpAuthConfig} {outside : Outside ω}
  {client next : McpAuthClient ω}

inductive Call where
  | buildAuthorizationUrl (codeChallenge : Str) (scope state : Option Str)
  | completeAuthorizationCodeFlow (code codeVerifier : Str)
  | authenticate
  | refresh (refreshToken : Str)
  | getToken
deriving Repr, DecidableEq

/-- The client after a call, whatever the call returned. -/
def call (config : McpAuthConfig) (outside : Outside ω)
    (client : McpAuthClient ω) : Call → McpAuthClient ω
  | .buildAuthorizationUrl codeChallenge scope state =>
    (buildAuthorizationUrl config outside codeChallenge scope state client).2
  | .completeAuthorizationCodeFlow code codeVerifier =>
    (completeAuthorizationCodeFlow config outside code codeVerifier client).2
  | .authenticate => (authenticate config outside client).2
  | .refresh refreshToken => (refresh config outside refreshToken client).2
  | .getToken => (getToken config outside client).2

def calls (config : McpAuthConfig) (outside : Outside ω)
    (client : McpAuthClient ω) : List Call → McpAuthClient ω :=
  List.foldl (call config outside) client

def McpAuthClient.metadata (config : McpAuthConfig)
    (client : McpAuthClient ω) : Option AuthorizationServerMetadata :=
  config.metadata.or client.discoveredMetadata

/-- The client goes on without showing its id; what it knows it keeps. -/
structure Extends (config : McpAuthConfig) (client next : McpAuthClient ω) :
    Prop where
  carried : next.carried = client.carried
  issued : client.issued.Sublist next.issued
  metadata : ∀ metadata, client.metadata config = some metadata →
    next.metadata config = some metadata

theorem Extends.trans {last : McpAuthClient ω} (hfirst : Extends config client next)
    (hsecond : Extends config next last) : Extends config client last :=
  ⟨hsecond.carried.trans hfirst.carried,
    hfirst.issued.trans hsecond.issued,
    fun metadata hmetadata =>
      hsecond.metadata metadata (hfirst.metadata metadata hmetadata)⟩

theorem Extends.of_eq (hcarried : next.carried = client.carried)
    (hissued : next.issued = client.issued)
    (hmetadata : next.discoveredMetadata = client.discoveredMetadata) :
    Extends config client next := by
  refine ⟨hcarried, hissued ▸ List.Sublist.refl _, ?_⟩
  intro metadata hknown
  rw [McpAuthClient.metadata, hmetadata]
  exact hknown

theorem discoverFromResource_eq (config : McpAuthConfig) (outside : Outside ω)
    (client : McpAuthClient ω) :
    (discoverFromResource config outside client).2.carried = client.carried ∧
      (discoverFromResource config outside client).2.issued = client.issued ∧
      (discoverFromResource config outside client).2.discoveredMetadata =
        client.discoveredMetadata := by
  have hprobed :
      (probeForResourceMetadata config outside client).2.carried = client.carried ∧
        (probeForResourceMetadata config outside client).2.issued = client.issued ∧
        (probeForResourceMetadata config outside client).2.discoveredMetadata =
          client.discoveredMetadata := by
    rw [probeForResourceMetadata]
    split
    · exact ⟨rfl, rfl, rfl⟩
    · exact ⟨rfl, rfl, rfl⟩
  rw [discoverFromResource]
  split
  · rename_i hprobe
    rw [hprobe] at hprobed
    split
    · exact hprobed
    · exact hprobed

theorem discoverMetadata_spec {result : Except ClientError AuthorizationServerMetadata}
    (hdiscover : discoverMetadata config outside client = (result, next)) :
    Extends config client next ∧ next.issued = client.issued ∧ ∀ metadata, result = .ok metadata →
        next.metadata config = some metadata := by
  rw [discoverMetadata] at hdiscover
  cases hconfig : config.metadata with
  | some configured =>
    rw [hconfig] at hdiscover
    cases hdiscover
    refine ⟨⟨rfl, List.Sublist.refl _, ?_⟩, rfl, ?_⟩
    · intro metadata hmetadata
      rw [McpAuthClient.metadata, hconfig] at hmetadata ⊢
      exact hmetadata
    · intro metadata hresult
      cases hresult
      rw [McpAuthClient.metadata, hconfig]
      rfl
  | none =>
    rw [hconfig] at hdiscover
    dsimp only at hdiscover
    cases hcached : client.discoveredMetadata with
    | some cached =>
      rw [hcached] at hdiscover
      cases hdiscover
      refine ⟨.of_eq rfl rfl rfl, rfl, ?_⟩
      intro metadata hresult
      cases hresult
      rw [McpAuthClient.metadata, hconfig, hcached]
      rfl
    | none =>
      rw [hcached] at hdiscover
      have hunknown : client.metadata config = none := by
        rw [McpAuthClient.metadata, hconfig, hcached]
        rfl
      have hknown : ∀ metadata,
          client.metadata config = some metadata →
            next.metadata config = some metadata := by
        intro metadata hmetadata
        rw [hunknown] at hmetadata
        cases hmetadata
      dsimp only at hdiscover
      split at hdiscover
      · cases hdiscover
        refine ⟨⟨rfl, List.Sublist.refl _, hknown⟩, rfl, ?_⟩
        intro metadata hresult
        cases hresult
        rw [McpAuthClient.metadata, hconfig]
        rfl
      · rename_i world hfetch
        have hsame := discoverFromResource_eq config outside (client.withWorld world)
        split at hdiscover
        · rename_i found last hfound
          rw [hfound] at hsame
          cases hdiscover
          refine ⟨⟨hsame.1, hsame.2.1 ▸ List.Sublist.refl _, hknown⟩, hsame.2.1, ?_⟩
          intro metadata hresult
          cases hresult
          rw [McpAuthClient.metadata, hconfig]
          rfl
        · rename_i last hfound
          rw [hfound] at hsame
          cases hdiscover
          refine ⟨⟨hsame.1, hsame.2.1 ▸ List.Sublist.refl _, hknown⟩, hsame.2.1, ?_⟩
          intro metadata hresult
          cases hresult

/-- The id of a registration is that of the document, or was issued for it. -/
def Granted (config : McpAuthConfig) (client next : McpAuthClient ω) (clientId : Str) : Prop :=
  ∃ metadata, next.metadata config = some metadata ∧
    (config.document metadata = some clientId ∨
      (config.document metadata = none ∧ next.issued = client.issued ++ [clientId]))

variable {result : Except ClientError RegistrationResponse}

theorem postRegistration_spec {endpoint : Str}
    (hpost : postRegistration config outside endpoint client = (result, next)) :
    Extends config client next ∧ ∀ registration, result = .ok registration →
        next.metadata config = client.metadata config ∧
          next.issued = client.issued ++ [registration.clientId] := by
  rw [postRegistration] at hpost
  split at hpost
  · split at hpost
    · cases hpost
      refine ⟨.of_eq rfl rfl rfl, ?_⟩
      intro registration hresult
      cases hresult
    · cases hpost
      refine ⟨⟨rfl, sublist_append_left _ _, fun metadata hmetadata => hmetadata⟩, ?_⟩
      intro registration hresult
      cases hresult
      exact ⟨rfl, rfl⟩

theorem register_spec (hclientId : config.clientId = none)
    (hregister : register config outside client = (result, next)) :
    Extends config client next ∧ ∀ registration, result = .ok registration →
        Granted config client next registration.clientId := by
  rw [register, hclientId] at hregister
  dsimp only at hregister
  split at hregister
  · rename_i hdiscover
    cases hregister
    refine ⟨(discoverMetadata_spec hdiscover).1, ?_⟩
    intro registration hresult
    cases hresult
  · rename_i metadata found hdiscover
    obtain ⟨hextends, hissued, hmetadata⟩ := discoverMetadata_spec hdiscover
    have hmetadata := hmetadata metadata rfl
    split at hregister
    · rename_i url hdocument
      cases hregister
      refine ⟨hextends.trans (.of_eq rfl rfl rfl), ?_⟩
      intro registration hresult
      cases hresult
      exact ⟨metadata, hmetadata, .inl hdocument⟩
    · rename_i hdocument
      split at hregister
      · cases hregister
        refine ⟨hextends, ?_⟩
        intro registration hresult
        cases hresult
      · obtain ⟨hposted, hreturned⟩ := postRegistration_spec hregister
        refine ⟨hextends.trans hposted, ?_⟩
        intro registration hresult
        obtain ⟨hsame, hnew⟩ := hreturned registration hresult
        refine ⟨metadata, hsame.trans hmetadata, .inr ⟨hdocument, ?_⟩⟩
        rw [hnew, hissued]

/-- What the client has shown: nothing at first, then the document, or ids that
were issued to it, each at most once. -/
structure Identified (config : McpAuthConfig) (client : McpAuthClient ω) :
    Prop where
  unknown : client.metadata config = none → client.carried = []
  document : ∀ metadata url, client.metadata config = some metadata →
    config.document metadata = some url → ∀ carrier ∈ client.carried, carrier.clientId = some url
  issued : ∀ metadata, client.metadata config = some metadata →
    config.document metadata = none →
      (client.carried.map Carrier.clientId).Sublist (client.issued.map some)

theorem new_identified (config : McpAuthConfig) (world : ω) :
    Identified config (McpAuthClient.new world) := by
  refine ⟨fun _ => rfl, ?_, ?_⟩
  · intro metadata url hmetadata hdocument carrier hcarrier
    cases hcarrier
  · intro metadata hmetadata hdocument
    exact List.Sublist.refl _

theorem Identified.extend (hclient : Identified config client)
    (hextends : Extends config client next) : Identified config next := by
  cases hknown : client.metadata config with
  | none =>
    have hnone : next.carried = [] := hextends.carried.trans (hclient.unknown hknown)
    refine ⟨fun _ => hnone, ?_, ?_⟩
    · intro metadata url hmetadata hdocument carrier hcarrier
      rw [hnone] at hcarrier
      cases hcarrier
    · intro metadata hmetadata hdocument
      rw [hnone]
      exact nil_sublist _
  | some known =>
    have hnext := hextends.metadata known hknown
    refine ⟨?_, ?_, ?_⟩
    · intro hnone
      rw [hnext] at hnone
      cases hnone
    · intro metadata url hmetadata hdocument
      rw [hnext] at hmetadata
      cases hmetadata
      rw [hextends.carried]
      exact hclient.document known url hknown hdocument
    · intro metadata hmetadata hdocument
      rw [hnext] at hmetadata
      cases hmetadata
      rw [hextends.carried]
      exact (hclient.issued known hknown hdocument).trans (hextends.issued.map some)

theorem Identified.carry (hclient : Identified config client)
    (hextends : Extends config client next) {clientId : Str}
    (hgranted : Granted config client next clientId) {carrier : Carrier}
    (hcarrier : carrier.clientId = some clientId) : Identified config (next.carry carrier) := by
  have hnext := hclient.extend hextends
  obtain ⟨known, hknown, hid⟩ := hgranted
  refine ⟨?_, ?_, ?_⟩
  · intro hnone
    cases hknown.symm.trans hnone
  · intro metadata url hmetadata hdocument other hother
    cases hknown.symm.trans hmetadata
    rcases mem_append.mp hother with hearlier | hlast
    · exact hnext.document known url hknown hdocument other hearlier
    · rw [mem_singleton.mp hlast, hcarrier]
      rcases hid with hurl | ⟨hnone, -⟩
      · exact hurl.symm.trans hdocument
      · cases hnone.symm.trans hdocument
  · intro metadata hmetadata hdocument
    cases hknown.symm.trans hmetadata
    rcases hid with hurl | ⟨-, hissued⟩
    · cases hurl.symm.trans hdocument
    · change ((next.carried ++ [carrier]).map Carrier.clientId).Sublist (next.issued.map some)
      rw [hextends.carried, hissued, map_append, map_append]
      refine List.Sublist.append ?_ ?_
      · cases hmetadata : client.metadata config with
        | none =>
          rw [hclient.unknown hmetadata]
          exact nil_sublist _
        | some earlier =>
          have hsame := hextends.metadata earlier hmetadata
          cases hknown.symm.trans hsame
          exact hclient.issued known hmetadata hdocument
      · rw [map_singleton, map_singleton, hcarrier]

theorem lookup_tokenForm (grantType : GrantType) (clientId : Str)
    (scope : Option Str) (rest : List (Str × Str)) :
    (tokenForm config grantType clientId scope ++ rest).lookup
      "client_id".toList = some clientId := by
  simp [tokenForm, lookup_cons]

theorem tokenRequest_clientId (metadata : AuthorizationServerMetadata) (grantType : GrantType)
    (registration : RegistrationResponse) (scope : Option Str) :
    (Carrier.tokenRequest (tokenRequest config outside metadata grantType
      registration scope)).clientId = some registration.clientId := by
  have hform : (tokenForm config grantType registration.clientId
      scope).lookup "client_id".toList = some registration.clientId := by
    rw [← append_nil (tokenForm _ _ _ _)]
    exact lookup_tokenForm grantType registration.clientId scope []
  rw [Carrier.clientId, tokenRequest]
  split
  · exact hform
  · split
    · exact lookup_tokenForm grantType registration.clientId scope _
    · exact hform

theorem sendTokenRequest_identified {request : TokenRequest}
    (hclient : Identified config (client.carry (.tokenRequest request))) :
    Identified config (sendTokenRequest outside request client).2 := by
  rw [sendTokenRequest]
  split
  split
  · exact hclient.extend (.of_eq rfl rfl rfl)
  · exact hclient.extend (.of_eq rfl rfl rfl)

section

variable (hclientId : config.clientId = none) (hclient : Identified config client)

include hclientId hclient

theorem Identified.registered {found : McpAuthClient ω} {metadata : AuthorizationServerMetadata}
    (hdiscover : discoverMetadata config outside client = (.ok metadata, found))
    (hregister : register config outside found = (result, next)) :
    Identified config next ∧ ∀ registration carrier, result = .ok registration →
        carrier.clientId = some registration.clientId → Identified config (next.carry carrier) := by
  have hfound := hclient.extend (discoverMetadata_spec hdiscover).1
  obtain ⟨hextends, hgranted⟩ := register_spec hclientId hregister
  refine ⟨hfound.extend hextends, ?_⟩
  intro registration carrier hresult hcarrier
  exact hfound.carry hextends (hgranted registration hresult) hcarrier

theorem Identified.exchangeToken (outside : Outside ω) (grantType : GrantType) :
    Identified config (ClientAuth.exchangeToken config outside grantType client).2 := by
  rw [ClientAuth.exchangeToken]
  split
  · rename_i hdiscover
    exact hclient.extend (discoverMetadata_spec hdiscover).1
  · rename_i metadata found hdiscover
    split
    · rename_i hregister
      exact (hclient.registered hclientId hdiscover hregister).1
    · rename_i registration registered hregister
      refine sendTokenRequest_identified ?_
      exact (hclient.registered hclientId hdiscover hregister).2 registration _
        rfl (tokenRequest_clientId metadata grantType registration _)

theorem Identified.buildAuthorizationUrl (outside : Outside ω)
    (codeChallenge : Str) (scope state : Option Str) :
    Identified config (ClientAuth.buildAuthorizationUrl config outside
      codeChallenge scope state client).2 := by
  rw [ClientAuth.buildAuthorizationUrl]
  split
  · rename_i hdiscover
    exact hclient.extend (discoverMetadata_spec hdiscover).1
  · rename_i metadata found hdiscover
    split
    · rename_i hregister
      exact (hclient.registered hclientId hdiscover hregister).1
    · rename_i registration registered hregister
      obtain ⟨hnext, hcarry⟩ := hclient.registered hclientId hdiscover hregister
      split
      · exact hnext
      · exact hcarry registration _ rfl (by simp [Carrier.clientId, authorizationUrl, lookup_cons])

theorem Identified.reauthenticate (outside : Outside ω) :
    Identified config (ClientAuth.reauthenticate config outside client).2 := by
  have hcleared : Identified config (client.withWorld (outside.clear client.world)) :=
    hclient.extend (.of_eq rfl rfl rfl)
  have hnext := hcleared.exchangeToken hclientId outside .clientCredentials
  rw [ClientAuth.reauthenticate, authenticate]
  split
  · rename_i hexchange
    rw [hexchange] at hnext
    exact hnext
  · rename_i hexchange
    rw [hexchange] at hnext
    exact hnext

theorem Identified.getToken (outside : Outside ω) :
    Identified config (ClientAuth.getToken config outside client).2 := by
  have hworld : ∀ world, Identified config (client.withWorld world) :=
    fun world => hclient.extend (.of_eq rfl rfl rfl)
  rw [ClientAuth.getToken]
  split
  · exact hworld _
  · split
    · exact (hworld _).reauthenticate hclientId outside
    · rename_i refreshToken world _
      have hrefreshed := (hworld world).exchangeToken hclientId outside (.refreshToken refreshToken)
      rw [refresh]
      split
      · rename_i hexchange
        rw [hexchange] at hrefreshed
        exact hrefreshed.extend (.of_eq rfl rfl rfl)
      · rename_i hexchange
        rw [hexchange] at hrefreshed
        exact hrefreshed.reauthenticate hclientId outside

theorem Identified.call (outside : Outside ω) (action : Call) :
    Identified config (ClientAuth.call config outside client action) := by
  cases action with
  | buildAuthorizationUrl codeChallenge scope state =>
    exact hclient.buildAuthorizationUrl hclientId outside codeChallenge scope state
  | completeAuthorizationCodeFlow code codeVerifier =>
    rw [ClientAuth.call, completeAuthorizationCodeFlow]
    split
    · exact hclient
    · exact hclient.exchangeToken hclientId outside _
  | authenticate | refresh => exact hclient.exchangeToken hclientId outside _
  | getToken => exact hclient.getToken hclientId outside

theorem Identified.calls (outside : Outside ω) (actions : List Call) :
    Identified config (ClientAuth.calls config outside client actions) := by
  induction actions generalizing client with
  | nil => exact hclient
  | cons action actions ih => exact ih (hclient.call hclientId outside action)

end

/-- The server takes the metadata document of the client for its id. -/
def Documented (config : McpAuthConfig) (client : McpAuthClient ω) : Prop :=
  ∃ metadata url, client.metadata config = some metadata ∧ config.document metadata = some url

theorem length_le_one_of_nodup {α : Type u} {ids : List α} (hnodup : ids.Nodup)
    (hsame : ∀ left ∈ ids, ∀ right ∈ ids, left = right) : ids.length ≤ 1 := by
  match ids with
  | [] | [id] => simp
  | first :: second :: rest =>
    rw [nodup_cons] at hnodup
    have heq := hsame first mem_cons_self second (mem_cons_of_mem _ mem_cons_self)
    exact absurd (heq ▸ mem_cons_self) hnodup.1

/-- For every client without a configured id: all its requests carry one client
id exactly when the server takes its metadata document, or there is at most one
of them. -/
theorem clientId_unique_iff (hclientId : config.clientId = none) (outside : Outside ω) (world : ω)
    (actions : List Call) (hfresh : (calls config outside (.new world) actions).issued.Nodup) :
    (∀ left ∈ (calls config outside (.new world) actions).carried,
        ∀ right ∈ (calls config outside (.new world) actions).carried,
          left.clientId = right.clientId) ↔
      Documented config (calls config outside (.new world) actions) ∨
        (calls config outside (.new world) actions).carried.length ≤ 1 := by
  have hidentified := (new_identified config world).calls hclientId outside actions
  generalize calls config outside (.new world) actions = final at *
  constructor
  · intro hsame
    cases hmetadata : final.metadata config with
    | none =>
      refine .inr ?_
      rw [hidentified.unknown hmetadata]
      exact Nat.zero_le 1
    | some metadata =>
      cases hdocument : config.document metadata with
      | some url => exact .inl ⟨metadata, url, hmetadata, hdocument⟩
      | none =>
        have hnodup : (final.carried.map Carrier.clientId).Nodup :=
          (hidentified.issued metadata hmetadata hdocument).nodup
            (List.Nodup.map (fun _ _ hsome => Option.some.inj hsome) hfresh)
        refine .inr ?_
        rw [← length_map Carrier.clientId]
        refine length_le_one_of_nodup hnodup ?_
        intro left hleft right hright
        obtain ⟨first, hfirst, rfl⟩ := mem_map.mp hleft
        obtain ⟨second, hsecond, rfl⟩ := mem_map.mp hright
        exact hsame first hfirst second hsecond
  · rintro (⟨metadata, url, hmetadata, hdocument⟩ | hlength)
    · intro left hleft right hright
      rw [hidentified.document metadata url hmetadata hdocument left hleft,
        hidentified.document metadata url hmetadata hdocument right hright]
    · intro left hleft right hright
      obtain ⟨i, hi, rfl⟩ := mem_iff_getElem.mp hleft
      obtain ⟨j, hj, rfl⟩ := mem_iff_getElem.mp hright
      have heq : i = j := by omega
      subst heq
      rfl

namespace ClientIdentityWitness

def codeConfig (clientMetadataUrl : Option Str) : McpAuthConfig where
  serverUrl := "s"
  clientId := none
  clientSecret := none
  scope := none
  redirectUri := some "r"
  metadata := some ⟨"a", "t", some "d", none, some true⟩
  resource := none
  clientMetadataUrl := clientMetadataUrl

def countingServer : Outside Nat where
  parseUrl := fun _ => none
  base64Encode := fun text => text
  tryFetchMetadata := fun count _ => (none, count)
  fetchProtectedResourceMetadata := fun count _ => (none, count)
  probe := fun count _ => (none, count)
  postRegistration := fun count _ =>
    (.answered 201 [] (.ok ⟨List.replicate count 'c', none, none, none⟩), count + 1)
  postToken := fun count _ =>
    (.answered 200 [] (.ok ⟨"x", "bearer", none, none, none⟩), count)
  getAccessToken := fun count => (none, count)
  getRefreshToken := fun count => (none, count)
  setTokens := fun count _ => count
  clear := fun count => count

def flow : List Call :=
  [.buildAuthorizationUrl "h" none none, .completeAuthorizationCodeFlow "k" "v"]

def finished (clientMetadataUrl : Option Str) : McpAuthClient Nat :=
  calls (codeConfig clientMetadataUrl) countingServer (.new 1) flow

/-- The user authorizes one client, and another asks for the token. -/
theorem clientId_registeredTwice :
    (codeConfig none).clientId = none ∧ (finished none).issued.Nodup ∧
      (finished none).carried.map Carrier.clientId = [some ['c'], some ['c', 'c']] :=
  ⟨rfl, by decide, by decide⟩

theorem clientId_unique_documented :
    (finished (some "u")).carried.length = 2 ∧
      ∀ left ∈ (finished (some "u")).carried,
        ∀ right ∈ (finished (some "u")).carried, left.clientId = right.clientId :=
  ⟨by decide, (clientId_unique_iff rfl countingServer 1 flow (by decide)).mpr
    (.inl ⟨_, "u", rfl, rfl⟩)⟩

end ClientIdentityWitness

end McpSdk.ClientAuth
