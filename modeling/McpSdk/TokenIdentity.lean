/-
The ids of tokens that only a userinfo endpoint has accepted: the key id in the
header, or the token. A session keeps its `AuthInfo` for the next token with
that id.
-/
import McpSdk.AuthPropagation
import McpSdk.TokenVerifier

namespace McpSdk

open List AuthPropagation

universe u v

variable {κ : Type u} {ε : Type v}

namespace TokenVerifier

open AuthPropagation (ServerRuntime)
open JsonWebKeySet (JwtCrate)

/-- The tokens have one key, or one of them names the other as its key. -/
def SameIdentity (crate : JwtCrate κ) (first second : Str) : Prop :=
  ∃ one other, crate.decodeHeader first = .ok one ∧
    crate.decodeHeader second = .ok other ∧
    ((∃ kid, one.kid = some kid ∧ other.kid = some kid) ∨
      (one.kid = some second ∧ other.kid = none) ∨
      (one.kid = none ∧ other.kid = some first))

theorem verifyToken_userInfo {verifier : GenericOauthTokenVerifier}
    (hjwks : verifier.jwksUri = none) (hintrospection : verifier.introspectionUri = none)
    {crate : JwtCrate κ} {remote : Remote κ ε} {clock : Clock} {state : State κ} {token : Str}
    {authInfo : AuthInfo (TokenClaims ε)}
    (haccepted : (verifyToken crate remote clock verifier state token).1 = some (.ok authInfo)) :
    userInfoId crate token none = .ok authInfo.tokenUniqueId := by
  unfold verifyToken at haccepted
  simp only [hjwks, hintrospection] at haccepted
  split at haccepted
  · next endpoint hendpoint =>
    obtain ⟨id, extra, status, message, hid, -, -, rfl⟩ := verifyUserInfo_eq_ok_iff.mp haccepted
    exact hid
  · cases haccepted

theorem userInfoId_eq_ok_iff {crate : JwtCrate κ} {token id : Str} :
    userInfoId crate token none = .ok id ↔ ∃ header, crate.decodeHeader token = .ok header ∧
        header.kid.getD token = id := by
  unfold userInfoId JsonWebKeySet.decodeTokenHeader
  cases crate.decodeHeader token with
  | error text => simp
  | ok header => simp

/-- Ids are the same exactly for tokens of the same identity. -/
theorem userInfoId_eq_iff {crate : JwtCrate κ} {first second one other : Str}
    (hfirst : userInfoId crate first none = .ok one)
    (hsecond : userInfoId crate second none = .ok other) (hne : first ≠ second) :
    one = other ↔ SameIdentity crate first second := by
  obtain ⟨header, hheader, rfl⟩ := userInfoId_eq_ok_iff.mp hfirst
  obtain ⟨later, hlater, rfl⟩ := userInfoId_eq_ok_iff.mp hsecond
  unfold SameIdentity
  rw [hheader, hlater]
  simp only [Except.ok.injEq, exists_and_left, exists_eq_left']
  cases header.kid with
  | none =>
    cases later.kid with
    | none => simp [hne]
    | some kid => simp [eq_comm]
  | some kid =>
    cases later.kid with
    | none => simp
    | some other => simp [eq_comm]

/-- The ids differ, and a session with one `AuthInfo` takes the other. -/
structure Separates (one other : AuthInfo (TokenClaims ε)) : Prop where
  id_ne : one.tokenUniqueId ≠ other.tokenUniqueId
  update : (⟨some one⟩ : ServerRuntime (TokenClaims ε)).updateAuthInfo (some other) = ⟨some other⟩
  update_back : (⟨some other⟩ : ServerRuntime (TokenClaims ε)).updateAuthInfo
    (some one) = ⟨some one⟩

theorem separates_iff {one other : AuthInfo (TokenClaims ε)} :
    Separates one other ↔ one.tokenUniqueId ≠ other.tokenUniqueId := by
  constructor
  · exact Separates.id_ne
  · intro hne
    refine ⟨hne, ?_, ?_⟩
    · simp [ServerRuntime.updateAuthInfo, shouldUpdate, hne]
    · simp [ServerRuntime.updateAuthInfo, shouldUpdate, Ne.symm hne]

/-- For two different tokens that a userinfo endpoint alone accepts: their ids
differ and no session keeps one for the other, exactly when they do not have the
same identity. -/
theorem separates_iff_not_sameIdentity {verifier : GenericOauthTokenVerifier}
    (hjwks : verifier.jwksUri = none) (hintrospection : verifier.introspectionUri = none)
    {crate : JwtCrate κ} {remote later : Remote κ ε} {clock next : Clock}
    {state following : State κ} {first second : Str} {one other : AuthInfo (TokenClaims ε)}
    (hne : first ≠ second)
    (hfirst : (verifyToken crate remote clock verifier state first).1 = some (.ok one))
    (hsecond : (verifyToken crate later next verifier following second).1 = some (.ok other)) :
    Separates one other ↔ ¬ SameIdentity crate first second := by
  rw [separates_iff, ne_eq, userInfoId_eq_iff (verifyToken_userInfo hjwks hintrospection hfirst)
    (verifyToken_userInfo hjwks hintrospection hsecond) hne]

/-- A request whose token was accepted in some state of the verifier. -/
def Accepted (crate : JwtCrate κ) (verifier : GenericOauthTokenVerifier)
    (request : Str × AuthInfo (TokenClaims ε)) : Prop :=
  ∃ (remote : Remote κ ε) (clock : Clock) (state : State κ),
    (verifyToken crate remote clock verifier state request.1).1 = some (.ok request.2)

def sessionAfter (requests : List (Str × AuthInfo (TokenClaims ε))) :
    ServerRuntime (TokenClaims ε) :=
  requests.foldl (fun runtime request =>
    runtime.updateAuthInfo (some request.2)) ⟨none⟩

theorem sessionAfter_concat (requests : List (Str × AuthInfo (TokenClaims ε)))
    (request : Str × AuthInfo (TokenClaims ε)) :
    sessionAfter (requests ++ [request]) =
      (sessionAfter requests).updateAuthInfo (some request.2) := by
  rw [sessionAfter, foldl_append]
  rfl

/-- While no two tokens have the same identity, a session has after every
request an `AuthInfo` for its token. -/
theorem sessionAfter_own {verifier : GenericOauthTokenVerifier} (hjwks : verifier.jwksUri = none)
    (hintrospection : verifier.introspectionUri = none) {crate : JwtCrate κ}
    {requests : List (Str × AuthInfo (TokenClaims ε))} {request : Str × AuthInfo (TokenClaims ε)}
    (haccepted : ∀ accepted ∈ requests ++ [request], Accepted crate verifier accepted)
    (hidentity : ∀ one ∈ requests ++ [request], ∀ other ∈ requests ++ [request], one.1 ≠ other.1 →
      ¬ SameIdentity crate one.1 other.1) :
    ∃ authInfo, (sessionAfter (requests ++ [request])).authInfo =
        some authInfo ∧ (request.1, authInfo) ∈ requests ++ [request] := by
  induction requests using List.reverseRecOn generalizing request with
  | nil => exact ⟨request.2, rfl, mem_singleton.mpr rfl⟩
  | append_singleton requests last ih =>
    obtain ⟨old, hold, hmem⟩ := ih
      (fun accepted hmem => haccepted accepted (mem_append_left _ hmem))
      (fun one hone other hother => hidentity one
        (mem_append_left _ hone) other (mem_append_left _ hother))
    rw [sessionAfter_concat]
    by_cases hid : old.tokenUniqueId = request.2.tokenUniqueId
    · -- the old one stays, which was made for the same token
      obtain ⟨remote, clock, state, hfirst⟩ := haccepted _ (mem_append_left [request] hmem)
      obtain ⟨later, next, following, hsecond⟩ :=
        haccepted request (mem_append_right _ (mem_singleton_self _))
      have htoken : last.1 = request.1 := by
        by_contra hne
        exact hidentity _ (mem_append_left [request] hmem) request
          (mem_append_right _ (mem_singleton_self _)) hne ((userInfoId_eq_iff
            (verifyToken_userInfo hjwks hintrospection hfirst)
            (verifyToken_userInfo hjwks hintrospection hsecond) hne).mp hid)
      refine ⟨old, ?_, htoken ▸ mem_append_left [request] hmem⟩
      simp [ServerRuntime.updateAuthInfo, shouldUpdate, hold, hid]
    · refine ⟨request.2, ?_, mem_append_right _ (mem_singleton_self _)⟩
      simp [ServerRuntime.updateAuthInfo, shouldUpdate, hold, hid]

namespace TokenIdentityWitness

open TokenVerifierWitness

def crate : JwtCrate Unit :=
  { keyCrate with
    decodeHeader := fun token => .ok ⟨.rs256, if token = "c" then none else some "k"⟩ }

/-- Every token is accepted, and the object of its user is the token. -/
def remote : Remote Unit Str where
  introspect _ := .failed []
  userInfo _ token := .answered 200 none (.ok (some token))
  fetchJwks _ := .error []

theorem accepted_of_kid (token : Str) :
    (verifyToken crate remote clock alone (initial false) token).1 =
      some (.ok (userAuthInfo
        ((if token = "c" then none else some "k".toList).getD token)
        (some token))) :=
  rfl

theorem separates_without_kid :
    alone.jwksUri = none ∧ alone.introspectionUri = none ∧
      "a".toList ≠ "c".toList ∧
      Separates (userAuthInfo "k".toList (some "a".toList))
        (userAuthInfo "c".toList (some "c".toList)) :=
  ⟨rfl, rfl, by decide, (separates_iff_not_sameIdentity rfl rfl (by decide)
    (accepted_of_kid "a".toList) (accepted_of_kid "c".toList)).mpr (by
      rintro ⟨one, other, hone, hother, hsame⟩
      cases hone
      cases hother
      revert hsame
      simp)⟩

/-- Two tokens of one key: the session keeps the user of the first. -/
theorem same_kid_kept :
    Configured .ok ⟨[userInfo], none, none, none⟩ alone (initial false) ∧
      "a".toList ≠ "b".toList ∧
      (verifyToken crate remote clock alone (initial false) "a".toList).1 =
        some (.ok (userAuthInfo "k".toList (some "a".toList))) ∧
      (verifyToken crate remote clock alone (initial false) "b".toList).1 =
        some (.ok (userAuthInfo "k".toList (some "b".toList))) ∧
      ((⟨some (userAuthInfo "k".toList (some "a".toList))⟩ :
          ServerRuntime (TokenClaims Str)).updateAuthInfo
            (some (userAuthInfo "k".toList (some "b".toList)))).authInfo =
        some (userAuthInfo "k".toList (some "a".toList)) :=
  ⟨configured_alone, by decide, rfl, rfl, rfl⟩

def requestOf (token : Str) : Str × AuthInfo (TokenClaims Str) :=
  (token, userAuthInfo ((if token = "c" then none else some "k".toList).getD token) (some token))

theorem sessionAfter_own_without_kid :
    ∃ authInfo, (sessionAfter ([requestOf "a"] ++ [requestOf "c"])).authInfo = some authInfo ∧
      ("c".toList, authInfo) ∈ [requestOf "a"] ++ [requestOf "c"] := by
  refine @sessionAfter_own _ _ alone rfl rfl crate [requestOf "a"] (requestOf "c") ?_ ?_
  · rintro _ hmem
    obtain rfl | rfl : _ = requestOf "a" ∨ _ = requestOf "c" := by simpa using hmem
    · exact ⟨remote, clock, initial false, accepted_of_kid _⟩
    · exact ⟨remote, clock, initial false, accepted_of_kid _⟩
  · simp [requestOf, SameIdentity, crate]

end TokenIdentityWitness

end TokenVerifier

end McpSdk
