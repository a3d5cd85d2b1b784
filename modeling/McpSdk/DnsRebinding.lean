/-
The protection against DNS rebinding. By default a server admits the host as it
was bound to; a client puts an IPv6 address in brackets.
-/
import McpSdk.HttpPost

namespace McpSdk.DnsRebinding

open HttpPost (ErrorBody)

structure DnsRebindingOptions where
  dnsRebindingProtection : Bool
  allowedHosts : Option (List Str)
  allowedOrigins : Option (List Str)
deriving Repr, DecidableEq

def DnsRebindingOptions.default : DnsRebindingOptions :=
  ⟨true, none, none⟩

structure DnsRebindProtector where
  allowedHosts : Option (List Str)
  allowedOrigins : Option (List Str)
deriving Repr, DecidableEq

def isWildcard (host : Str) : Bool :=
  host.isEmpty || host == "0.0.0.0" || host == "::"

def hostPort (host : Str) (port : UInt16) : Str :=
  host ++ ':' :: RustStr.showNat port.toNat

/-- The protector, if there is anything to protect with, and the options. -/
def resolveDnsMiddleware (opts : DnsRebindingOptions) (host : Str)
    (port : UInt16) : Option DnsRebindProtector × DnsRebindingOptions :=
  if !opts.dnsRebindingProtection then (none, opts)
  else
    let allowedHosts := match opts.allowedHosts with
      | some hosts => some hosts
      | none => if isWildcard host then none else some [hostPort host port]
    let left := { opts with allowedHosts := none, allowedOrigins := none }
    if allowedHosts.isSome || opts.allowedOrigins.isSome then
      (some ⟨allowedHosts, opts.allowedOrigins⟩, left)
    else (none, left)

/-- One header against its list; a missing or empty list admits all. -/
def checkHeader (headers : HeaderMap) (header label : Str)
    (allowed : Option (List Str)) : Except ErrorBody Unit :=
  match allowed with
  | none => .ok ()
  | some allowed =>
    if allowed.isEmpty then .ok ()
    else
      match (headers.get header).bind id with
      | none =>
        .error ⟨.badRequest, "Invalid " ++ label ++ " header: [unknown] "⟩
      | some value =>
        if allowed.any (RustStr.eqIgnoreAsciiCase · value) then .ok ()
        else .error ⟨.badRequest, "Invalid " ++ label ++ " header: \"" ++ value ++ "\" "⟩

def hostHeader : Str := "host"

def originHeader : Str := "origin"

def DnsRebindProtector.protectDnsRebinding (protector : DnsRebindProtector)
    (headers : HeaderMap) : Except ErrorBody Unit :=
  match checkHeader headers hostHeader "Host"
      protector.allowedHosts with
  | .error error => .error error
  | .ok () =>
    checkHeader headers originHeader "Origin" protector.allowedOrigins

structure RegName where
  text : Str
  plain : ':' ∉ text

/-- An IPv6 address, as it is written without brackets. -/
structure Ipv6 where
  text : Str
  colon : ':' ∈ text
  chars : ∀ c ∈ text, c.isAlphanum = true ∨ c = ':' ∨ c = '.'

inductive BindHost where
  | regName (name : RegName)
  | ipv6 (address : Ipv6)

def BindHost.asStr : BindHost → Str
  | .regName name => name.text
  | .ipv6 address => address.text

def BindHost.authority (host : BindHost) (port : UInt16) : Str :=
  match host with
  | .regName name => hostPort name.text port
  | .ipv6 address => hostPort ('[' :: (address.text ++ [']'])) port

/-- With the default options, a request to the server's own address goes on. -/
def AdmitsOwn (host : BindHost) (port : UInt16) : Prop :=
  ∃ protector,
    (resolveDnsMiddleware .default host.asStr port).1 = some protector ∧
      ∀ headers value, headers.get hostHeader = some (some value) →
        RustStr.eqIgnoreAsciiCase value (host.authority port) = true →
          protector.protectDnsRebinding headers = .ok ()

theorem resolveDnsMiddleware_default {host : Str}
    (hhost : isWildcard host = false) (port : UInt16) :
    (resolveDnsMiddleware .default host port).1 = some ⟨some [hostPort host port], none⟩ := by
  simp [resolveDnsMiddleware, DnsRebindingOptions.default, hhost]

theorem checkHeader_ok_iff {headers : HeaderMap} {header value : Str}
    (hvalue : headers.get header = some (some value)) (label : Str)
    {allowed : List Str} (hallowed : allowed ≠ []) :
    checkHeader headers header label (some allowed) = .ok () ↔
      ∃ text ∈ allowed, RustStr.eqIgnoreAsciiCase text value = true := by
  rw [checkHeader, hvalue, ← List.any_eq_true]
  dsimp only [Option.bind_some, id]
  rw [if_neg (by simpa using hallowed)]
  split
  · next hany => exact iff_of_true rfl hany
  · next hany => exact iff_of_false (fun hok => by cases hok) hany

theorem protectDnsRebinding_ok_iff {allowed value : Str} {headers : HeaderMap}
    (hvalue : headers.get hostHeader = some (some value)) :
    DnsRebindProtector.protectDnsRebinding ⟨some [allowed], none⟩ headers = .ok () ↔
      RustStr.eqIgnoreAsciiCase allowed value = true := by
  have hcheck := checkHeader_ok_iff hvalue "Host" (List.cons_ne_nil allowed [])
  simp only [List.mem_singleton, exists_eq_left] at hcheck
  rw [← hcheck, DnsRebindProtector.protectDnsRebinding]
  -- without a list, the check of the origin admits everything
  cases checkHeader headers hostHeader "Host" (some [allowed]) with
  | error error => exact Iff.rfl
  | ok checked => exact Iff.rfl

theorem length_eq_of_eqIgnoreAsciiCase {left right : Str}
    (hsame : RustStr.eqIgnoreAsciiCase left right = true) : left.length = right.length := by
  have hlength := congrArg List.length (of_decide_eq_true hsame)
  rwa [List.length_map, List.length_map] at hlength

/-- For every bind host that is no wildcard: the default options admit a request
to the server's own address exactly when the host is no IPv6 address. -/
theorem admitsOwn_iff {host : BindHost} (hhost : isWildcard host.asStr = false) (port : UInt16) :
    AdmitsOwn host port ↔ ∀ address, host ≠ .ipv6 address := by
  have hresolved := resolveDnsMiddleware_default hhost port
  constructor
  · rintro ⟨protector, hprotector, hadmits⟩ address rfl
    cases hresolved.symm.trans hprotector
    let headers : HeaderMap := ⟨[(hostHeader, some (BindHost.authority (.ipv6 address) port))]⟩
    have hvalue : headers.get hostHeader =
        some (some (BindHost.authority (.ipv6 address) port)) := by
      simp [headers, HeaderMap.get]
    have hok := hadmits headers _ hvalue (decide_eq_true rfl)
    have hlength := length_eq_of_eqIgnoreAsciiCase ((protectDnsRebinding_ok_iff hvalue).mp hok)
    -- the brackets are two characters more
    simp [BindHost.asStr, BindHost.authority, hostPort] at hlength
    omega
  · intro hnot
    refine ⟨_, hresolved, ?_⟩
    intro headers value hvalue hsame
    rw [protectDnsRebinding_ok_iff hvalue]
    cases host with
    | regName name =>
      have hlower := of_decide_eq_true hsame
      exact decide_eq_true hlower.symm
    | ipv6 address => exact absurd rfl (hnot address)

namespace DnsRebindingWitness

def loopback : BindHost :=
  .ipv6 ⟨"::1", by decide, by simp⟩

def localhost : BindHost :=
  .regName ⟨"localhost", by decide⟩

/-- The server refuses a request to its own address. -/
theorem loopback_refused :
    isWildcard loopback.asStr = false ∧
      (resolveDnsMiddleware .default loopback.asStr 3000).1 = some ⟨some ["::1:3000"], none⟩ ∧
      loopback.authority 3000 = "[::1]:3000" ∧
      DnsRebindProtector.protectDnsRebinding
          ⟨some ["::1:3000"], none⟩
          ⟨[(hostHeader, some "[::1]:3000")]⟩ =
        .error ⟨.badRequest,
          "Invalid Host header: \"[::1]:3000\" "⟩ := by
  decide +kernel

theorem localhost_admitted : AdmitsOwn localhost 8080 :=
  (admitsOwn_iff (by decide) 8080).mpr (by rintro address ⟨⟩)

end DnsRebindingWitness

end McpSdk.DnsRebinding
