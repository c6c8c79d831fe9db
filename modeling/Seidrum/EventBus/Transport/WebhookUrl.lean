import Mathlib.Data.List.Basic
import Mathlib.Data.Nat.Digits.Defs

/-!
# Webhook URLs

A webhook URL is checked before it is registered and again before it is called.  Parsing URLs and
resolving host names are not part of the bus; they are the environment of the check, which may
answer the two lookups of one name differently.
-/

namespace Seidrum.EventBus

structure Ipv4Addr where
  octets : UInt8 × UInt8 × UInt8 × UInt8
  deriving DecidableEq, Repr

structure Ipv6Addr where
  segments : Vector UInt16 8
  deriving DecidableEq, Repr

inductive IpAddr
  | v4 (address : Ipv4Addr)
  | v6 (address : Ipv6Addr)
  deriving DecidableEq, Repr

namespace Ipv4Addr

def isLoopback (address : Ipv4Addr) : Bool := address.octets.1 = 127

def isPrivate : Ipv4Addr → Bool
  | ⟨a, b, _, _⟩ => a = 10 || (a = 172 && 16 ≤ b && b ≤ 31) || (a = 192 && b = 168)

def isLinkLocal : Ipv4Addr → Bool
  | ⟨a, b, _, _⟩ => a = 169 && b = 254

def isUnspecified (address : Ipv4Addr) : Bool := address.octets = (0, 0, 0, 0)

def isMulticast (address : Ipv4Addr) : Bool := 224 ≤ address.octets.1 && address.octets.1 ≤ 239

def isBroadcast (address : Ipv4Addr) : Bool := address.octets = (255, 255, 255, 255)

/-- The shared address space `100.64.0.0/10`. -/
def isShared : Ipv4Addr → Bool
  | ⟨a, b, _, _⟩ => a = 100 && b &&& 0xc0 = 64

def display : Ipv4Addr → String
  | ⟨a, b, c, d⟩ => ".".intercalate ([a, b, c, d].map (toString ·.toNat))

end Ipv4Addr

namespace Ipv6Addr

def isLoopback (address : Ipv6Addr) : Bool := address.segments = #v[0, 0, 0, 0, 0, 0, 0, 1]

def isUnspecified (address : Ipv6Addr) : Bool := address.segments = #v[0, 0, 0, 0, 0, 0, 0, 0]

def isMulticast (address : Ipv6Addr) : Bool := address.segments[0] &&& 0xff00 = 0xff00

/-- `fc00::/7` -/
def isUniqueLocal (address : Ipv6Addr) : Bool := address.segments[0] &&& 0xfe00 = 0xfc00

/-- `fe80::/10` -/
def isLinkLocal (address : Ipv6Addr) : Bool := address.segments[0] &&& 0xffc0 = 0xfe80

/-- The address embedded in `::ffff:a.b.c.d`. -/
def toIpv4Mapped (address : Ipv6Addr) : Option Ipv4Addr :=
  let high := address.segments[6]
  let low := address.segments[7]
  if address.segments.toList.take 6 = [0, 0, 0, 0, 0, 0xffff] then
    some ⟨(high >>> 8).toUInt8, high.toUInt8, (low >>> 8).toUInt8, low.toUInt8⟩
  else none

def hex (segments : List UInt16) : String :=
  ":".intercalate (segments.map fun segment ↦ String.ofList (Nat.toDigits 16 segment.toNat))

/-- Start and length of the first longest run of zero segments. -/
def longestZeros (segments : List UInt16) : ℕ × ℕ :=
  let runs := (List.range segments.length).map fun start ↦
    (start, ((segments.drop start).takeWhile (· = 0)).length)
  runs.foldl (fun longest run ↦ if longest.2 < run.2 then run else longest) (0, 0)

/-- A run of at least two zero segments is written as `::`. -/
def display (address : Ipv6Addr) : String :=
  let segments := address.segments.toList
  let (start, length) := longestZeros segments
  match address.toIpv4Mapped with
  | some mapped => "::ffff:" ++ mapped.display
  | none =>
      if length ≤ 1 then hex segments
      else hex (segments.take start) ++ "::" ++ hex (segments.drop (start + length))

end Ipv6Addr

namespace IpAddr

def isUnspecified : IpAddr → Bool
  | v4 address => address.isUnspecified
  | v6 address => address.isUnspecified

def display : IpAddr → String
  | v4 address => address.display
  | v6 address => address.display

end IpAddr

/-- Addresses that are unsafe for webhook delivery. -/
def isPrivateIp : IpAddr → Bool
  | .v4 address => isPrivateIpv4 address
  | .v6 address =>
      address.isLoopback || address.isUnspecified || address.isMulticast ||
        address.isUniqueLocal || address.isLinkLocal || address.toIpv4Mapped.any isPrivateIpv4
where
  isPrivateIpv4 (address : Ipv4Addr) : Bool :=
    address.isLoopback || address.isPrivate || address.isLinkLocal || address.isUnspecified ||
      address.isMulticast || address.isBroadcast || address.isShared

/-- How strictly webhook URLs are checked. -/
inductive WebhookUrlPolicy
  | strict
  | permissive
  deriving DecidableEq, Repr

inductive WebhookUrlError
  | parse (reason : String)
  | insecureScheme (scheme : String)
  | noHost
  | privateAddress (host : String) (address : IpAddr)
  | dnsError (host reason : String)
  deriving DecidableEq, Repr

def WebhookUrlError.message : WebhookUrlError → String
  | parse reason => "invalid URL: " ++ reason
  | insecureScheme scheme => "URL scheme must be https (got " ++ scheme ++ ")"
  | noHost => "URL must have a host"
  | privateAddress host address => "URL host " ++ host ++
      " resolves to a private/loopback/link-local address (" ++ address.display ++ ")"
  | dnsError host reason => "URL host " ++ host ++ " could not be resolved: " ++ reason

inductive UrlHost
  | ipv4 (address : Ipv4Addr)
  | ipv6 (address : Ipv6Addr)
  | domain (name : String)
  deriving DecidableEq, Repr

/-- A parsed URL; the port is the explicit one or the default of the scheme. -/
structure ParsedUrl where
  scheme : String
  host : Option UrlHost
  hostStr : Option String
  port : Option ℕ

/-- The URL parser and the resolver, with their error texts. -/
structure UrlEnv where
  parse : String → Except String ParsedUrl
  resolve : String → ℕ → Except String (List IpAddr)
  /-- the second lookup of the same name -/
  resolveAgain : String → ℕ → Except String (List IpAddr)

structure ValidatedWebhookUrl where
  host : String
  port : ℕ
  resolvedIp : IpAddr
  deriving DecidableEq, Repr

def checkAddressAgainstPolicy (host : String) (address : IpAddr) :
    WebhookUrlPolicy → Except WebhookUrlError Unit
  | .strict => if isPrivateIp address then .error (.privateAddress host address) else .ok ()
  -- an unspecified address is never a meaningful destination
  | .permissive =>
      if address.isUnspecified then .error (.privateAddress host address) else .ok ()

/-- The address to dial: the first one of the first lookup, after every address of the second lookup
passed the policy. -/
def resolveHost (env : UrlEnv) (host : String) (port : ℕ) (policy : WebhookUrlPolicy) :
    UrlHost → Except WebhookUrlError IpAddr
  | .ipv4 address => .ok (.v4 address)
  | .ipv6 address => .ok (.v6 address)
  | .domain name => do
      let addresses ← (env.resolve name port).mapError (.dnsError name)
      match addresses with
      | [] => .error (.dnsError name "no address resolved")
      | first :: _ =>
          let again ← (env.resolveAgain name port).mapError (.dnsError name)
          again.forM fun address ↦ checkAddressAgainstPolicy host address policy
          .ok first

/-- Validate a webhook URL and return the address to pin it to. -/
def validateWebhookUrlResolved (env : UrlEnv) (url : String) (policy : WebhookUrlPolicy) :
    Except WebhookUrlError ValidatedWebhookUrl := do
  let parsed ← (env.parse url).mapError .parse
  if policy = .strict ∧ parsed.scheme ≠ "https" then .error (.insecureScheme parsed.scheme)
  else if parsed.scheme ≠ "http" ∧ parsed.scheme ≠ "https" then
    .error (.insecureScheme parsed.scheme)
  else match parsed.host, parsed.hostStr with
    | some hostObj, some host =>
        let port := parsed.port.getD 443
        let resolvedIp ← resolveHost env host port policy hostObj
        checkAddressAgainstPolicy host resolvedIp policy
        .ok { host, port, resolvedIp }
    | _, _ => .error .noHost

def validateWebhookUrlWithPolicy (env : UrlEnv) (url : String) (policy : WebhookUrlPolicy) :
    Except WebhookUrlError Unit := (validateWebhookUrlResolved env url policy).map fun _ ↦ ()

variable {policy : WebhookUrlPolicy} {env : UrlEnv} {url host : String}
  {result : ValidatedWebhookUrl} {error : WebhookUrlError} {port : ℕ} {hostObj : UrlHost}

/-- An accepted URL was parsed and has a scheme of the policy; its host was resolved to an address that the
policy lets through. -/
theorem accepted_of_validateWebhookUrlResolved
    (h : validateWebhookUrlResolved env url policy = .ok result) :
    ∃ parsed hostObj, env.parse url = .ok parsed ∧ (policy = .strict → parsed.scheme = "https") ∧
      parsed.host = some hostObj ∧ parsed.hostStr = some result.host ∧
      resolveHost env result.host result.port policy hostObj = .ok result.resolvedIp ∧
      checkAddressAgainstPolicy result.host result.resolvedIp policy = .ok () := by
  unfold validateWebhookUrlResolved at h
  cases hparse : env.parse url with
  | error reason => simp [hparse, Except.mapError, bind, Except.bind] at h
  | ok parsed =>
    simp only [hparse, Except.mapError, bind, Except.bind] at h
    split_ifs at h with hstrict
    cases hhost : parsed.host with
    | none => simp [hhost] at h
    | some hostObj =>
      cases hhostStr : parsed.hostStr with
      | none => simp [hhost, hhostStr] at h
      | some host =>
        simp only [hhost, hhostStr] at h
        cases hresolved : resolveHost env host (parsed.port.getD 443) policy hostObj with
        | error error => simp [hresolved] at h
        | ok resolvedIp =>
          simp only [hresolved] at h
          cases hcheck : checkAddressAgainstPolicy host resolvedIp policy with
          | error error => simp [hcheck] at h
          | ok _ =>
            simp only [hcheck, Except.ok.injEq] at h
            subst h
            exact ⟨parsed, hostObj, rfl, fun hpolicy ↦ not_ne_iff.mp fun hscheme ↦
              hstrict ⟨hpolicy, hscheme⟩, hhost, hhostStr, hresolved, hcheck⟩

theorem strict_resolvedIp_public (h : validateWebhookUrlResolved env url .strict = .ok result) :
    isPrivateIp result.resolvedIp = false := by
  obtain ⟨_, _, _, _, _, _, _, hcheck⟩ := accepted_of_validateWebhookUrlResolved h
  simp only [checkAddressAgainstPolicy] at hcheck
  split_ifs at hcheck with hprivate
  simpa using hprivate

/-- The schemes a policy takes. -/
def WebhookUrlPolicy.schemes : WebhookUrlPolicy → List String
  | .strict => ["https"]
  | .permissive => ["http", "https"]

namespace UrlEnv

/-- One of the two lookups of a name fails, or the first one finds no address. -/
def LookupFails (env : UrlEnv) (name : String) (port : ℕ) : Prop :=
  (∃ reason, env.resolve name port = .error reason) ∨ env.resolve name port = .ok [] ∨
    ∃ reason, env.resolveAgain name port = .error reason

/-- The addresses a host stands for: a literal is its own address, and a name has the first one of
the first lookup and all of the second. -/
def Addresses (env : UrlEnv) (port : ℕ) : UrlHost → IpAddr → Prop
  | .ipv4 literal, address => address = .v4 literal
  | .ipv6 literal, address => address = .v6 literal
  | .domain name, address =>
      (∃ rest, env.resolve name port = .ok (address :: rest)) ∨
        ∃ again, env.resolveAgain name port = .ok again ∧ address ∈ again

end UrlEnv

/-- The URL is one the policy could accept, but its host name cannot be looked up. -/
def HostLookupFails (env : UrlEnv) (policy : WebhookUrlPolicy) (url : String) : Prop :=
  ∃ parsed name host, env.parse url = .ok parsed ∧ parsed.scheme ∈ policy.schemes ∧
    parsed.host = some (.domain name) ∧ parsed.hostStr = some host ∧
    env.LookupFails name (parsed.port.getD 443)

/-- The URL itself is not one the policy accepts. -/
inductive ViolatesUrlPolicy (env : UrlEnv) (policy : WebhookUrlPolicy) (url : String) : Prop
  | parse {reason : String} (unreadable : env.parse url = .error reason)
  | scheme {parsed : ParsedUrl} (read : env.parse url = .ok parsed)
      (refused : parsed.scheme ∉ policy.schemes)
  | noHost {parsed : ParsedUrl} (read : env.parse url = .ok parsed)
      (missing : parsed.host = none ∨ parsed.hostStr = none)
  | address {parsed : ParsedUrl} {hostObj : UrlHost} {host : String} {address : IpAddr}
      (read : env.parse url = .ok parsed) (named : parsed.host = some hostObj)
      (stands : env.Addresses (parsed.port.getD 443) hostObj address)
      (refused : checkAddressAgainstPolicy host address policy ≠ .ok ())

theorem schemes_of_accepted {scheme : String} (h : scheme ∈ policy.schemes) :
    ¬(policy = .strict ∧ scheme ≠ "https") ∧ ¬(scheme ≠ "http" ∧ scheme ≠ "https") := by
  cases policy with
  | strict => simp [List.mem_singleton.mp h]
  | permissive =>
    rcases List.mem_pair.mp h with rfl | rfl <;> simp

/-- A check of a list that fails has failed at one of its elements. -/
theorem exists_of_forM_error {ε α : Type} {check : α → Except ε PUnit} {error : ε} {xs : List α}
    (h : xs.forM check = .error error) : ∃ x ∈ xs, check x = .error error := by
  induction xs with
  | nil => cases h
  | cons x rest ih =>
    simp only [List.forM, bind, Except.bind] at h
    cases hcheck : check x with
    | error other =>
      rw [hcheck] at h
      cases h
      exact ⟨x, List.mem_cons_self, hcheck⟩
    | ok _ =>
      rw [hcheck] at h
      obtain ⟨y, hy, herror⟩ := ih h
      exact ⟨y, List.mem_cons_of_mem x hy, herror⟩

/-- Resolving a host fails when a lookup does, or at an address that the policy forbids. -/
theorem resolveHost_error (h : resolveHost env host port policy hostObj = .error error) :
    (∃ name, hostObj = .domain name ∧ env.LookupFails name port) ∨
      ∃ address, env.Addresses port hostObj address ∧
        checkAddressAgainstPolicy host address policy ≠ .ok () := by
  cases hostObj with
  | ipv4 literal | ipv6 literal => cases h
  | domain name =>
    unfold resolveHost at h
    simp only [bind, Except.bind] at h
    cases hfirst : env.resolve name port with
    | error reason => exact .inl ⟨name, rfl, .inl ⟨reason, hfirst⟩⟩
    | ok addresses =>
      cases addresses with
      | nil => exact .inl ⟨name, rfl, .inr (.inl hfirst)⟩
      | cons first rest =>
        cases hagain : env.resolveAgain name port with
        | error reason => exact .inl ⟨name, rfl, .inr (.inr ⟨reason, hagain⟩)⟩
        | ok again =>
          simp only [hfirst, hagain, Except.mapError] at h
          cases hchecked : again.forM fun address ↦
              checkAddressAgainstPolicy host address policy with
          | ok _ => simp [hchecked] at h
          | error other =>
            obtain ⟨address, hmem, hrefused⟩ := exists_of_forM_error hchecked
            exact .inr ⟨address, .inr ⟨again, hagain, hmem⟩, by simp [hrefused]⟩

/-- The address a host is resolved to is one it stands for. -/
theorem addresses_of_resolveHost {address : IpAddr}
    (h : resolveHost env host port policy hostObj = .ok address) :
    env.Addresses port hostObj address := by
  cases hostObj with
  | ipv4 literal | ipv6 literal => exact (Except.ok.inj h).symm
  | domain name =>
    unfold resolveHost at h
    simp only [bind, Except.bind] at h
    cases hfirst : env.resolve name port with
    | error reason => simp [hfirst, Except.mapError] at h
    | ok addresses =>
      cases addresses with
      | nil => simp [hfirst, Except.mapError] at h
      | cons first rest =>
        cases hagain : env.resolveAgain name port with
        | error reason => simp [hfirst, hagain, Except.mapError] at h
        | ok again =>
          simp only [hfirst, hagain, Except.mapError] at h
          split at h
          · cases h
          · cases h
            exact .inl ⟨rest, hfirst⟩

/-- A refused URL violates the policy, or its host could not be looked up. -/
theorem violates_or_lookupFails (h : validateWebhookUrlWithPolicy env url policy = .error error) :
    ViolatesUrlPolicy env policy url ∨ HostLookupFails env policy url := by
  unfold validateWebhookUrlWithPolicy validateWebhookUrlResolved at h
  cases hparse : env.parse url with
  | error reason => exact .inl (.parse hparse)
  | ok parsed =>
    by_cases hscheme : parsed.scheme ∈ policy.schemes
    swap
    · exact .inl (.scheme hparse hscheme)
    obtain ⟨hstrict, hknown⟩ := schemes_of_accepted hscheme
    simp only [hparse, Except.mapError, bind, Except.bind, if_neg hstrict, if_neg hknown] at h
    cases hhost : parsed.host with
    | none => exact .inl (.noHost hparse (.inl hhost))
    | some hostObj =>
      cases hhostStr : parsed.hostStr with
      | none => exact .inl (.noHost hparse (.inr hhostStr))
      | some host =>
        simp only [hhost, hhostStr] at h
        cases hresolved : resolveHost env host (parsed.port.getD 443) policy hostObj with
        | error other =>
          rcases resolveHost_error hresolved with ⟨name, rfl, hfails⟩ | ⟨address, hstands, hrefused⟩
          · exact .inr ⟨parsed, name, host, hparse, hscheme, hhost, hhostStr, hfails⟩
          · exact .inl (.address hparse hhost hstands hrefused)
        | ok address =>
          simp only [hresolved] at h
          have hrefused : checkAddressAgainstPolicy host address policy ≠ .ok () := by
            intro haccepted
            simp [haccepted, Except.map] at h
          exact .inl (.address hparse hhost (addresses_of_resolveHost hresolved) hrefused)

/-- A URL whose host cannot be looked up is refused. -/
theorem refused_of_lookupFails (h : HostLookupFails env policy url) :
    ∃ error, validateWebhookUrlWithPolicy env url policy = .error error := by
  obtain ⟨parsed, name, host, hparse, hscheme, hhost, hhostStr, hfails⟩ := h
  obtain ⟨hstrict, hknown⟩ := schemes_of_accepted hscheme
  have hresolved : ∃ error,
      resolveHost env host (parsed.port.getD 443) policy (.domain name) = .error error := by
    unfold resolveHost
    simp only [bind, Except.bind]
    rcases hfails with ⟨reason, hfirst⟩ | hfirst | ⟨reason, hagain⟩
    · exact ⟨_, by rw [hfirst]; rfl⟩
    · exact ⟨_, by rw [hfirst]; rfl⟩
    · cases hfirst : env.resolve name (parsed.port.getD 443) with
      | error other => exact ⟨_, rfl⟩
      | ok addresses =>
        cases addresses with
        | nil => exact ⟨_, rfl⟩
        | cons first rest => exact ⟨_, by rw [hagain]; rfl⟩
  obtain ⟨error, hresolved⟩ := hresolved
  refine ⟨error, ?_⟩
  unfold validateWebhookUrlWithPolicy validateWebhookUrlResolved
  simp [hparse, Except.mapError, bind, Except.bind, Except.map, hstrict, hknown, hhost, hhostStr,
    hresolved]

end Seidrum.EventBus
