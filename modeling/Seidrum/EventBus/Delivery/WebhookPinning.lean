import Mathlib.Tactic.IntervalCases
import Seidrum.Foundation.AddressBlocks
import Seidrum.EventBus.Delivery.WebhookChannel

/-!
# Where webhooks may lead

The addresses that a webhook must not be delivered to are named as blocks of addresses.  The check of an
address finds out exactly these, so an accepted URL is pinned to an address outside of them.  A delivery
checks its URL anew, builds its client for the address that this check returned, and sends with that
client alone.
-/

namespace Seidrum.EventBus

open Seidrum.Foundation

/-! ## Addresses as numbers -/

def Ipv4Addr.number : Ipv4Addr → ℕ
  | ⟨a, b, c, d⟩ => a.toNat * 2 ^ 24 + b.toNat * 2 ^ 16 + c.toNat * 2 ^ 8 + d.toNat

def Ipv6Addr.number (address : Ipv6Addr) : ℕ :=
  address.segments.toList.foldl (fun number segment ↦ number * 2 ^ 16 + segment.toNat) 0

def ipv4Block (a b c d : UInt8) (length : ℕ) : AddressBlock 32 := ⟨Ipv4Addr.number ⟨a, b, c, d⟩, length⟩

/-- The block of an address all of whose segments but the first and the last are zero. -/
def ipv6Block (first last : UInt16) (length : ℕ) : AddressBlock 128 :=
  ⟨Ipv6Addr.number ⟨#v[first, 0, 0, 0, 0, 0, 0, last]⟩, length⟩

/-- Loopback, private and link-local addresses, that of no host, multicast addresses, that of all hosts,
and the shared address space. -/
def forbiddenIpv4 : List (AddressBlock 32) :=
  [ipv4Block 127 0 0 0 8, ipv4Block 10 0 0 0 8, ipv4Block 172 16 0 0 12, ipv4Block 192 168 0 0 16,
    ipv4Block 169 254 0 0 16, ipv4Block 0 0 0 0 32, ipv4Block 224 0 0 0 4, ipv4Block 255 255 255 255 32,
    ipv4Block 100 64 0 0 10]

/-- `::1`, `::`, `ff00::/8`, `fc00::/7` and `fe80::/10`. -/
def forbiddenIpv6 : List (AddressBlock 128) :=
  [ipv6Block 0 1 128, ipv6Block 0 0 128, ipv6Block 0xff00 0 8, ipv6Block 0xfc00 0 7, ipv6Block 0xfe80 0 10]

/-- An address that a webhook must not lead to; `::ffff:0:0/96` maps the addresses of the other kind. -/
def IpAddr.Forbidden : IpAddr → Prop
  | v4 address => InBlocks forbiddenIpv4 address.number
  | v6 address => InBlocks forbiddenIpv6 address.number ∨
      address.number / 2 ^ 32 = 0xffff ∧ InBlocks forbiddenIpv4 (address.number % 2 ^ 32)

instance (address : IpAddr) : Decidable address.Forbidden := by
  cases address <;> unfold IpAddr.Forbidden <;> infer_instance

section Ipv4

variable {a b c d : UInt8} (x y z w : UInt8) {length k : ℕ}

/-- The leading bits of an address end within its first byte, or with it. -/
theorem contains_ipv4_first (h : length + k = 8) :
    (ipv4Block x y z w length).Contains (Ipv4Addr.number ⟨a, b, c, d⟩) ↔
      a.toNat / 2 ^ k = x.toNat / 2 ^ k := by
  have hbytes := And.intro b.toNat_lt (And.intro c.toNat_lt (And.intro d.toNat_lt y.toNat_lt))
  have hrest := And.intro z.toNat_lt w.toNat_lt
  have hshift : 32 - length = 24 + k := by omega
  have htop (n m : ℕ) (hm : m < 2 ^ 24) : (n * 2 ^ 24 + m) / 2 ^ 24 = n := by omega
  simp only [AddressBlock.Contains, ipv4Block, Ipv4Addr.number, hshift, pow_add,
    ← Nat.div_div_eq_div_mul, Nat.add_assoc]
  rw [htop _ _ (by omega), htop _ _ (by omega)]

/-- The leading bits of an address end within its second byte, or with it. -/
theorem contains_ipv4_second (h : length + k = 16) (hk : k ≤ 8) :
    (ipv4Block x y z w length).Contains (Ipv4Addr.number ⟨a, b, c, d⟩) ↔
      a.toNat = x.toNat ∧ b.toNat / 2 ^ k = y.toNat / 2 ^ k := by
  have hbytes := And.intro b.toNat_lt (And.intro c.toNat_lt (And.intro d.toNat_lt y.toNat_lt))
  have hrest := And.intro z.toNat_lt w.toNat_lt
  have hshift : 32 - length = 16 + k := by omega
  have htop (n m r : ℕ) (hr : r < 2 ^ 16) :
      (n * 2 ^ 24 + (m * 2 ^ 16 + r)) / 2 ^ 16 = n * 2 ^ 8 + m := by omega
  simp only [AddressBlock.Contains, ipv4Block, Ipv4Addr.number, hshift, pow_add,
    ← Nat.div_div_eq_div_mul, Nat.add_assoc]
  rw [htop _ _ _ (by omega), htop _ _ _ (by omega)]
  interval_cases k <;> omega

theorem contains_ipv4_whole :
    (ipv4Block x y z w 32).Contains (Ipv4Addr.number ⟨a, b, c, d⟩) ↔
      a.toNat = x.toNat ∧ b.toNat = y.toNat ∧ c.toNat = z.toNat ∧ d.toNat = w.toNat := by
  have hfirst := And.intro a.toNat_lt (And.intro b.toNat_lt (And.intro c.toNat_lt d.toNat_lt))
  have hsecond := And.intro x.toNat_lt (And.intro y.toNat_lt (And.intro z.toNat_lt w.toNat_lt))
  simp only [AddressBlock.Contains, ipv4Block, Ipv4Addr.number]
  omega

end Ipv4

theorem isPrivateIpv4_iff (address : Ipv4Addr) :
    isPrivateIp.isPrivateIpv4 address = true ↔ InBlocks forbiddenIpv4 address.number := by
  obtain ⟨a, b, c, d⟩ := address
  have hshared : b &&& 0xc0 = 64 ↔ b.toNat / 2 ^ 6 = 1 := by
    have hmask : b.toNat &&& (2 ^ 8 - 2 ^ 6) = 1 * 2 ^ 6 ↔ b.toNat / 2 ^ 6 = 1 :=
      land_leading_eq_iff b.toNat_lt (by decide)
    rw [← hmask, ← UInt8.toNat_inj, UInt8.toNat_and]
    rfl
  have hprivate : 16 ≤ b.toNat ∧ b.toNat ≤ 31 ↔ b.toNat / 2 ^ 4 = 16 / 2 ^ 4 := by omega
  have hmulticast : 224 ≤ a.toNat ∧ a.toNat ≤ 239 ↔ a.toNat / 2 ^ 4 = 224 / 2 ^ 4 := by omega
  simp only [forbiddenIpv4, inBlocks_cons, inBlocks_nil,
    contains_ipv4_first _ _ _ _ (show 8 + 0 = 8 from rfl),
    contains_ipv4_first _ _ _ _ (show 4 + 4 = 8 from rfl),
    contains_ipv4_second _ _ _ _ (show 12 + 4 = 16 from rfl) (by decide),
    contains_ipv4_second _ _ _ _ (show 10 + 6 = 16 from rfl) (by decide),
    contains_ipv4_second _ _ _ _ (show 16 + 0 = 16 from rfl) (by decide), contains_ipv4_whole]
  simp only [isPrivateIp.isPrivateIpv4, Ipv4Addr.isLoopback, Ipv4Addr.isPrivate, Ipv4Addr.isLinkLocal,
    Ipv4Addr.isUnspecified, Ipv4Addr.isMulticast, Ipv4Addr.isBroadcast, Ipv4Addr.isShared,
    Bool.or_eq_true, Bool.and_eq_true, decide_eq_true_eq, hshared, ← UInt8.toNat_inj, UInt8.le_iff_toNat_le,
    Prod.mk.injEq]
  simp only [UInt8.reduceToNat, and_assoc, hprivate, hmulticast, pow_zero, Nat.div_one, or_assoc, or_false,
    show 64 / 2 ^ 6 = 1 from rfl]

section Ipv6

theorem Ipv6Addr.exists_segments (address : Ipv6Addr) :
    ∃ s t u v w x y z, address = ⟨#v[s, t, u, v, w, x, y, z]⟩ := by
  obtain ⟨⟨⟨segments⟩, hlength⟩⟩ := address
  match segments, hlength with
  | [s, t, u, v, w, x, y, z], _ => exact ⟨s, t, u, v, w, x, y, z, rfl⟩

variable {s t u v w x y z : UInt16}

theorem Ipv6Addr.number_eq : Ipv6Addr.number ⟨#v[s, t, u, v, w, x, y, z]⟩ =
    s.toNat * 2 ^ 112 + (t.toNat * 2 ^ 96 + u.toNat * 2 ^ 80 + v.toNat * 2 ^ 64 + w.toNat * 2 ^ 48 +
      x.toNat * 2 ^ 32 + (y.toNat * 2 ^ 16 + z.toNat)) := by
  simp only [Ipv6Addr.number, Vector.toList_mk, List.foldl_cons, List.foldl_nil]
  ring

/-- The leading bits of an address end within its first segment. -/
theorem contains_ipv6_first (first last : UInt16) {length k : ℕ} (h : length + k = 16) :
    (ipv6Block first last length).Contains (Ipv6Addr.number ⟨#v[s, t, u, v, w, x, y, z]⟩) ↔
      s.toNat / 2 ^ k = first.toNat / 2 ^ k := by
  have hsegments := And.intro t.toNat_lt (And.intro u.toNat_lt (And.intro v.toNat_lt w.toNat_lt))
  have hrest := And.intro x.toNat_lt (And.intro y.toNat_lt (And.intro z.toNat_lt last.toNat_lt))
  have hshift : 128 - length = 112 + k := by omega
  have htop (n m : ℕ) (hm : m < 2 ^ 112) : (n * 2 ^ 112 + m) / 2 ^ 112 = n := by omega
  simp only [AddressBlock.Contains, ipv6Block, Ipv6Addr.number_eq, hshift, pow_add,
    ← Nat.div_div_eq_div_mul, UInt16.toNat_zero]
  rw [htop _ _ (by omega), htop _ _ (by omega)]

theorem contains_ipv6_whole (last : UInt16) :
    (ipv6Block 0 last 128).Contains (Ipv6Addr.number ⟨#v[s, t, u, v, w, x, y, z]⟩) ↔
      #v[s, t, u, v, w, x, y, z] = #v[0, 0, 0, 0, 0, 0, 0, last] := by
  have hsegments := And.intro t.toNat_lt (And.intro u.toNat_lt (And.intro v.toNat_lt w.toNat_lt))
  have hrest := And.intro x.toNat_lt (And.intro y.toNat_lt (And.intro z.toNat_lt last.toNat_lt))
  simp only [AddressBlock.Contains, ipv6Block, Ipv6Addr.number_eq, Nat.sub_self, pow_zero, Nat.div_one,
    UInt16.toNat_zero, Vector.mk.injEq, Array.mk.injEq, List.cons.injEq, ← UInt16.toNat_inj, and_true]
  constructor
  · intro h
    refine ⟨?_, ?_, ?_, ?_, ?_, ?_, ?_, ?_⟩ <;> omega
  · rintro ⟨hs, ht, hu, hv, hw, hx, hy, hz⟩
    rw [hs, ht, hu, hv, hw, hx, hy, hz]

/-- The address mapped by `::ffff:a.b.c.d` is what follows the first 96 bits. -/
theorem Ipv6Addr.toIpv4Mapped_eq (address : Ipv6Addr) :
    address.toIpv4Mapped = none ∧ address.number / 2 ^ 32 ≠ 0xffff ∨
      ∃ mapped, address.toIpv4Mapped = some mapped ∧ address.number / 2 ^ 32 = 0xffff ∧
        address.number % 2 ^ 32 = mapped.number := by
  obtain ⟨s, t, u, v, w, x, y, z, rfl⟩ := address.exists_segments
  have hsegments := And.intro t.toNat_lt (And.intro u.toNat_lt (And.intro v.toNat_lt w.toNat_lt))
  have hrest := And.intro x.toNat_lt (And.intro y.toNat_lt z.toNat_lt)
  have hhead : s.toNat = 0 ∧ t.toNat = 0 ∧ u.toNat = 0 ∧ v.toNat = 0 ∧ w.toNat = 0 ∧ x.toNat = 0xffff ↔
      Ipv6Addr.number ⟨#v[s, t, u, v, w, x, y, z]⟩ / 2 ^ 32 = 0xffff := by
    rw [Ipv6Addr.number_eq]
    omega
  have htake : [s, t, u, v, w, x] = [0, 0, 0, 0, 0, 0xffff] ↔
      Ipv6Addr.number ⟨#v[s, t, u, v, w, x, y, z]⟩ / 2 ^ 32 = 0xffff := by
    rw [← hhead]
    simp only [List.cons.injEq, ← UInt16.toNat_inj, and_true]
    rfl
  by_cases hmapped : [s, t, u, v, w, x] = [0, 0, 0, 0, 0, 0xffff]
  · refine .inr ⟨_, if_pos hmapped, htake.mp hmapped, ?_⟩
    rw [Ipv6Addr.number_eq]
    simp only [Ipv4Addr.number, UInt16.toNat_toUInt8, UInt16.toNat_shiftRight, UInt16.reduceToNat,
      Nat.reduceMod, Nat.shiftRight_eq_div_pow]
    change _ = y.toNat / 2 ^ 8 % 2 ^ 8 * 2 ^ 24 + y.toNat % 2 ^ 8 * 2 ^ 16 +
      z.toNat / 2 ^ 8 % 2 ^ 8 * 2 ^ 8 + z.toNat % 2 ^ 8
    omega
  · exact .inl ⟨if_neg hmapped, fun h ↦ hmapped (htake.mpr h)⟩

theorem isPrivateIp_iff (address : IpAddr) : isPrivateIp address = true ↔ address.Forbidden := by
  cases address with
  | v4 address => exact isPrivateIpv4_iff address
  | v6 address =>
    have hmapped : address.toIpv4Mapped.any isPrivateIp.isPrivateIpv4 = true ↔
        address.number / 2 ^ 32 = 0xffff ∧ InBlocks forbiddenIpv4 (address.number % 2 ^ 32) := by
      rcases address.toIpv4Mapped_eq with ⟨hnone, hne⟩ | ⟨mapped, hsome, heq, hnumber⟩
      · rw [hnone]
        exact iff_of_false Bool.false_ne_true fun h ↦ hne h.1
      · rw [hsome, hnumber, Option.any_some, isPrivateIpv4_iff, and_iff_right heq]
    obtain ⟨s, t, u, v, w, x, y, z, rfl⟩ := address.exists_segments
    have hmask (mask lead : UInt16) {k n : ℕ} (hk : k ≤ 16) (hbits : mask.toNat = 2 ^ 16 - 2 ^ k)
        (hlead : lead.toNat = n * 2 ^ k) : s &&& mask = lead ↔ s.toNat / 2 ^ k = n := by
      rw [← UInt16.toNat_inj, UInt16.toNat_and, hbits, hlead]
      exact land_leading_eq_iff s.toNat_lt hk
    simp only [isPrivateIp, IpAddr.Forbidden, Bool.or_eq_true, hmapped, forbiddenIpv6, inBlocks_cons,
      inBlocks_nil, contains_ipv6_whole, contains_ipv6_first _ _ (show 8 + 8 = 16 from rfl),
      contains_ipv6_first _ _ (show 7 + 9 = 16 from rfl),
      contains_ipv6_first _ _ (show 10 + 6 = 16 from rfl)]
    simp only [Ipv6Addr.isLoopback, Ipv6Addr.isUnspecified, Ipv6Addr.isMulticast, Ipv6Addr.isUniqueLocal,
      Ipv6Addr.isLinkLocal, decide_eq_true_eq]
    have hfirst : #v[s, t, u, v, w, x, y, z][0] = s := rfl
    have hmulticast : s &&& 0xff00 = 0xff00 ↔ s.toNat / 2 ^ 8 = 0xff :=
      hmask 0xff00 0xff00 (by decide) rfl rfl
    have hlocal : s &&& 0xfe00 = 0xfc00 ↔ s.toNat / 2 ^ 9 = 0x7e :=
      hmask 0xfe00 0xfc00 (by decide) rfl rfl
    have hlink : s &&& 0xffc0 = 0xfe80 ↔ s.toNat / 2 ^ 6 = 0x3fa :=
      hmask 0xffc0 0xfe80 (by decide) rfl rfl
    rw [hfirst, hmulticast, hlocal, hlink]
    simp only [or_assoc, or_false, UInt16.reduceToNat]
    rfl

end Ipv6

/-- The address of a host that is no name. -/
def UrlHost.literal : UrlHost → Option IpAddr
  | ipv4 address => some (.v4 address)
  | ipv6 address => some (.v6 address)
  | domain _ => none

variable {hostObj : UrlHost} {address : IpAddr} {config : WebhookConfig} {bus : Bus} {state : WebhookCalls}

theorem resolveHost_literal (h : hostObj.literal = some address) (env : UrlEnv) (host : String) (port : ℕ)
    (policy : WebhookUrlPolicy) : resolveHost env host port policy hostObj = .ok address := by
  cases hostObj with
  | ipv4 literal | ipv6 literal => rw [← Option.some.inj h]; rfl
  | domain name => cases h

variable {env : UrlEnv} {url : String}

/-- A URL with an address for its host is judged by its scheme and the address. -/
theorem accepted_literal_iff {parsed : ParsedUrl} {host : String} (hparse : env.parse url = .ok parsed)
    (hhost : parsed.host = some hostObj) (hhostStr : parsed.hostStr = some host)
    (hliteral : hostObj.literal = some address) :
    (∃ result, validateWebhookUrlResolved env url .strict = .ok result) ↔
      parsed.scheme = "https" ∧ ¬address.Forbidden := by
  rw [← isPrivateIp_iff]
  simp only [validateWebhookUrlResolved, hparse, Except.mapError, bind, Except.bind, hhost, hhostStr,
    resolveHost_literal hliteral, checkAddressAgainstPolicy]
  by_cases hscheme : parsed.scheme = "https"
  · by_cases hprivate : isPrivateIp address = true
    all_goals simp [hscheme, hprivate]
  · simp [hscheme]

/-- A mapped address is forbidden exactly if the address it maps is. -/
theorem forbidden_mapped {address : Ipv6Addr} {mapped : Ipv4Addr}
    (h : address.toIpv4Mapped = some mapped) :
    (IpAddr.v6 address).Forbidden ↔ (IpAddr.v4 mapped).Forbidden := by
  rcases address.toIpv4Mapped_eq with ⟨hnone, -⟩ | ⟨found, hsome, heq, hnumber⟩
  · rw [hnone] at h
    cases h
  · obtain rfl := Option.some.inj (hsome.symm.trans h)
    have hother : ¬InBlocks forbiddenIpv6 address.number := by
      simp only [forbiddenIpv6, inBlocks_cons, inBlocks_nil, AddressBlock.Contains, ipv6Block,
        Ipv6Addr.number_eq, UInt16.reduceToNat, Nat.reduceSub]
      rintro (h | h | h | h | h | h) <;> omega
    simp only [IpAddr.Forbidden, hnumber, heq, true_and, or_iff_right hother]

/-! ## Pinned deliveries -/

/-- A client is built for what a check of the URL returned, and the request goes out through a client
built for what a check of its own URL returned. -/
def pinning : Protocol WebhookAnswer (List (Sigma WebhookAnswer)) :=
  .ofHistory fun history op ↦
    match op with
    | .buildPinnedClient validated => ∃ url, ⟨.validateWebhookUrlResolved url, .ok validated⟩ ∈ history
    | .send request => ∃ validated,
        ⟨.validateWebhookUrlResolved request.url, .ok validated⟩ ∈ history ∧
          ⟨.buildPinnedClient validated, .ok ()⟩ ∈ history
    | _ => True

theorem pinned_fail (url : String) (error : DeliveryError) (history : List (Sigma WebhookAnswer)) :
    (WebhookChannel.fail url error).Follows pinning (fun _ _ ↦ True) history :=
  ⟨trivial, fun _ ↦ trivial⟩

theorem pinned_deliver (payload : Payload) (subject : String) (channel : ChannelConfig)
    (history : List (Sigma WebhookAnswer)) :
    (WebhookChannel.deliver payload subject channel).Follows pinning (fun _ _ ↦ True) history := by
  cases channel with
  | webhook url =>
    refine ⟨trivial, fun admitted ↦ ?_⟩
    cases admitted with
    | error error => exact trivial
    | ok mode =>
    refine ⟨trivial, fun validated ↦ ?_⟩
    cases validated with
    | error failure => exact pinned_fail ..
    | ok validated =>
    refine ⟨⟨url, List.mem_concat_self⟩, fun built ↦ ?_⟩
    cases built with
    | error reason => exact pinned_fail ..
    | ok _ =>
    refine ⟨⟨validated, ?_, List.mem_concat_self⟩, fun answer ↦ ?_⟩
    · exact List.mem_append_left _ (List.mem_concat_self)
    cases answer with
    | error reason => exact pinned_fail ..
    | ok response =>
      simp only [Program.done_bind]
      split
      · exact ⟨trivial, fun _ ↦ trivial⟩
      · exact pinned_fail ..
  | inProcess | webSocket | custom channelType => exact trivial

theorem pinned_finish (delivery : RetryableDelivery) (outcome : RetryOutcome)
    (history : List (Sigma WebhookAnswer)) :
    (RetryTask.finish delivery outcome).Follows pinning (fun _ _ ↦ True) history := by
  refine ⟨trivial, fun report ↦ ?_⟩
  simp only [Program.done_bind]
  split
  · trivial
  · refine ⟨trivial, fun event ↦ ?_⟩
    cases event with
    | none => trivial
    | some event =>
      simp only [Program.done_bind]
      split
      · trivial
      · exact ⟨trivial, fun _ ↦ trivial⟩

theorem pinned_retryToSubscriber (delivery : RetryableDelivery) (history : List (Sigma WebhookAnswer)) :
    (RetryTask.retryToSubscriber delivery).Follows pinning (fun _ _ ↦ True) history := by
  refine ⟨trivial, fun target ↦ ?_⟩
  cases target with
  | none => trivial
  | some target =>
    simp only [Program.done_bind]
    split
    · exact Program.Follows.map (pinned_deliver ..)
    · exact ⟨trivial, fun _ ↦ trivial⟩

/-- Forwarders and the retry task send through pinned clients alone. -/
theorem pinned_body (config : Config) (call : WebhookCall) :
    (call.body config).Follows pinning (fun _ _ ↦ True) [] := by
  cases call with
  | forward channel event =>
    exact Program.Follows.bind ((pinned_deliver ..).mono fun _ _ _ ↦ trivial)
  | retry delivery =>
    simp only [WebhookCall.body, RetryTask.retryDelivery]
    split
    · exact pinned_finish ..
    · exact Program.Follows.bind
        ((pinned_retryToSubscriber delivery []).mono fun _ _ _ ↦ pinned_finish ..)

/-- A check was answered with an address that is not forbidden. -/
def ChecksWell (event : Performed WebhookAnswer) : Prop :=
  ∀ url validated, (⟨event.op, event.answer⟩ : Sigma WebhookAnswer) =
    ⟨.validateWebhookUrlResolved url, .ok validated⟩ → ¬validated.resolvedIp.Forbidden

/-- A client is built for an address that is not forbidden, and the request of a delivery goes out through
a client that was built for what the check of its own URL returned. -/
def SendsWell (trace : List (Performed WebhookAnswer)) (event : Performed WebhookAnswer) : Prop :=
  (∀ validated, event.op = .buildPinnedClient validated → ¬validated.resolvedIp.Forbidden) ∧
    ∀ request, event.op = .send request → ∃ validated,
      ⟨event.task, .validateWebhookUrlResolved request.url, .ok validated⟩ ∈ trace ∧
      ⟨event.task, .buildPinnedClient validated, .ok ()⟩ ∈ trace ∧ ¬validated.resolvedIp.Forbidden

theorem not_forbidden_of_accepted {result : ValidatedWebhookUrl}
    (h : validateWebhookUrlResolved env url .strict = .ok result) : ¬result.resolvedIp.Forbidden := by
  rw [← isPrivateIp_iff, strict_resolvedIp_public h]
  exact Bool.false_ne_true

section

variable (hstrict : config.policy = .strict)
  (h : Steps.Reach (webhookCalls config) (fun _ _ ↦ True) (.init (.start config bus)) state)
include hstrict h

theorem checksWell_of_reach : ∀ event ∈ state.trace, ChecksWell event := by
  apply h.invariant
  · exact fun _ hmem ↦ absurd hmem List.not_mem_nil
  · intro before label next hbefore _ hstep
    cases label with
    | spawn input =>
      cases hstep
      exact hbefore
    | run i env =>
      obtain ⟨input, op, rest, answer, shared, -, hperform, rfl⟩ := Tasks.step_run hstep
      intro event hmem
      obtain hmem | rfl := mem_of_concat hmem
      · exact hbefore event hmem
      · obtain ⟨hanswer, -⟩ := WebhookState.perform_eq hperform
        intro url validated heq
        cases heq
        simp only [WebhookState.performNow, hstrict] at hanswer
        split at hanswer
        · cases hanswer
        · cases hresult : validateWebhookUrlResolved env.url url .strict with
          | error error =>
            rw [hresult] at hanswer
            cases hanswer
          | ok result =>
            rw [hresult] at hanswer
            cases hanswer
            exact not_forbidden_of_accepted hresult

/-- In every interleaving of deliveries under the strict policy. -/
theorem sendsWell_of_reach : ∀ event ∈ state.trace, SendsWell state.trace event := by
  have hchecks := checksWell_of_reach hstrict h
  have hallowed := Tasks.allowed_throughout (fun input ↦ pinned_body config.bus input) h
  intro event hmem
  obtain ⟨before, after, hsplit⟩ := List.append_of_mem hmem
  have hevent := hallowed before event after hsplit
  rw [pinning, Protocol.replay_ofHistory] at hevent
  -- what the task had done by then is in the trace
  have htrace {op : WebhookOp} {answer : WebhookAnswer op}
      (hdone : ⟨op, answer⟩ ∈ (before.filter fun earlier ↦ earlier.task = event.task).map
        fun earlier ↦ (⟨earlier.op, earlier.answer⟩ : Sigma WebhookAnswer)) :
      ⟨event.task, op, answer⟩ ∈ state.trace := by
    obtain ⟨⟨task, _, _⟩, hin, heq⟩ := List.mem_map.mp hdone
    obtain ⟨hin, htask⟩ := List.mem_filter.mp hin
    cases heq
    obtain rfl : task = event.task := by simpa using htask
    rw [hsplit]
    exact List.mem_append_left _ hin
  obtain ⟨task, op, answer⟩ := event
  constructor
  · rintro validated rfl
    obtain ⟨url, hchecked⟩ := hevent
    exact hchecks _ (htrace hchecked) url validated rfl
  · rintro request rfl
    obtain ⟨validated, hchecked, hbuilt⟩ := hevent
    exact ⟨validated, htrace hchecked, htrace hbuilt,
      hchecks _ (htrace hchecked) request.url validated rfl⟩

end

/-- Under the strict policy an accepted URL is `https` and pinned to an address outside the forbidden
blocks, a mapped literal is judged like the address it maps, and deliveries connect to pinned addresses
alone. -/
theorem strict_webhooks_guarded :
    (∀ (env : UrlEnv) url result, validateWebhookUrlResolved env url .strict = .ok result →
      (∃ parsed, env.parse url = .ok parsed ∧ parsed.scheme = "https") ∧
        ¬result.resolvedIp.Forbidden) ∧
    (∀ (env : UrlEnv) url url' parsed parsed' address mapped host host',
      env.parse url = .ok parsed → env.parse url' = .ok parsed' → parsed.scheme = parsed'.scheme →
      parsed.host = some (.ipv6 address) → parsed.hostStr = some host →
      parsed'.host = some (.ipv4 mapped) → parsed'.hostStr = some host' →
      address.toIpv4Mapped = some mapped →
      ((∃ result, validateWebhookUrlResolved env url .strict = .ok result) ↔
        ∃ result, validateWebhookUrlResolved env url' .strict = .ok result)) ∧
    ∀ config bus state, config.policy = .strict →
      Steps.Reach (webhookCalls config) (fun _ _ ↦ True) (.init (.start config bus)) state →
      ∀ event ∈ state.trace, SendsWell state.trace event := by
  refine ⟨fun env url result h ↦ ⟨?_, not_forbidden_of_accepted h⟩, ?_,
    fun config bus state hstrict h ↦ sendsWell_of_reach hstrict h⟩
  · obtain ⟨parsed, _, hparse, hscheme, _⟩ := accepted_of_validateWebhookUrlResolved h
    exact ⟨parsed, hparse, hscheme rfl⟩
  · intro env url url' parsed parsed' address mapped host host' hparse hparse' hscheme hhost hhostStr
      hhost' hhostStr' hmapped
    rw [accepted_literal_iff hparse hhost hhostStr rfl,
      accepted_literal_iff hparse' hhost' hhostStr' rfl, hscheme, forbidden_mapped hmapped]

end Seidrum.EventBus
