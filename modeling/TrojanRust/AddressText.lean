import TrojanRust.Codec.AddressLaws
import TrojanRust.Config
import TrojanRust.Dialing
import TrojanRust.Net.AddrDisplay

/-!
# Addresses as texts

An address is shown to people, and the configuration shows addresses to the program. What is
shown of a decoded address means the same address: the text that is printed of it is connected to
where the address is, and its host and port are looked up as it is. The configuration accepts such
a text as a fallback unless it has no host, and whatever it accepts can be connected to.
-/

namespace TrojanRust

open TrojanRust.Bytes

namespace Address

/-- `Address::port`. -/
def port : Address → UInt16
  | .ipv4 addr => addr.port
  | .ipv6 addr => addr.port
  | .domain _ port => port

/-- `Address::host`. -/
def host : Address → String
  | .ipv4 addr => addr.ip.display
  | .ipv6 addr => addr.ip.display
  | .domain name _ => name

/-- `Display` of `Address`. -/
def display : Address → String
  | .ipv4 addr => addr.display
  | .ipv6 addr => addr.display
  | .domain name port => name ++ ":" ++ toString port.toNat

/-- The address with another socket address in the place of its own. -/
def mapAddr (change : SocketAddr → SocketAddr) : Address → Address
  | .ipv4 addr => .ipv4 (change addr)
  | .ipv6 addr => .ipv6 (change addr)
  | .domain name port => .domain name port

/-- A displayed address is connected to where the address is, up to its flow information. -/
theorem display_endpoint (address : Address) :
    Endpoint.ofText address.display =
      (address.mapAddr SocketAddr.withoutFlow).connectTarget.endpoint := by
  have literal : ∀ addr : SocketAddr,
      Endpoint.ofText addr.display = .ok (.literal addr.withoutFlow) := by
    intro addr
    rw [Endpoint.ofText, SocketAddr.fromStr_display]
  cases address with
  | ipv4 addr => exact literal addr
  | ipv6 addr => exact literal addr
  | domain name port => rfl

/-- An IP address is parsed as a host before any name is looked up. -/
theorem ofHost_display (ip : IpAddr) (port : UInt16) :
    Endpoint.ofHost (asBytes ip.display) port = .literal (.new ip port) := by
  cases ip with
  | v4 ip =>
    have parsed := ipv4FromStr_display ip
    change ipv4FromStr (asBytes (IpAddr.v4 ip).display) = some ip at parsed
    rw [Endpoint.ofHost, parsed]
  | v6 ip =>
    have parsed := ipv6FromStr_display ip
    change ipv6FromStr (asBytes (IpAddr.v6 ip).display) = some ip at parsed
    rw [Endpoint.ofHost, ipv4FromStr_of_ipv6 parsed, parsed]

/-- Host and port of an address are looked up as the address is, up to flow information and
scope. -/
theorem host_endpoint (address : Address) :
    Endpoint.ofHost (asBytes address.host) address.port =
      (address.mapAddr fun addr => .new addr.ip addr.port).lookupTarget := by
  cases address with
  | ipv4 addr => exact ofHost_display addr.ip addr.port
  | ipv6 addr => exact ofHost_display addr.ip addr.port
  | domain name port => rfl

/-- The grammar spells socket addresses of nothing but an IP address and a port. -/
theorem Spells.mapAddr_eq {address : Address} {wire : List UInt8} (spells : address.Spells wire) :
    address.mapAddr SocketAddr.withoutFlow = address ∧
      (address.mapAddr fun addr => .new addr.ip addr.port) = address := by
  cases spells with
  | ipv4 ip port => exact ⟨rfl, rfl⟩
  | ipv6 ip port => exact ⟨rfl, rfl⟩
  | domain name len port sized => exact ⟨rfl, rfl⟩

end Address

/-- Whatever a decoder accepts is connected to by its display where it is connected to itself,
and looked up by its host and port as it is looked up itself. -/
theorem AddressDecoder.accepts_displayed {decoder : AddressDecoder} {bytes : List UInt8}
    {address : Address} {n : Nat} (accepted : decoder.accepts bytes = some (address, n)) :
    Endpoint.ofText address.display = address.connectTarget.endpoint ∧
      Endpoint.ofHost (asBytes address.host) address.port = address.lookupTarget := by
  have ⟨wire, _, _, _, spells, _⟩ := (accepts_eq_some _ _ _ _).mp accepted
  have ⟨flow, scope⟩ := spells.mapAddr_eq
  have connected := address.display_endpoint
  have lookedUp := address.host_endpoint
  rw [flow] at connected
  rw [scope] at lookedUp
  exact ⟨connected, lookedUp⟩

/-- A mapped address is shown as the IPv4 address it stands for, and is still an IPv6 target. -/
theorem AddressDecoder.accepts_displayed_mapped :
    let address := Address.ipv6 (.v6 (.new 0 0 0 0 0 0xffff 0x7f00 1) 443 0 0)
    address.display = "[::ffff:127.0.0.1]:443" ∧
      Endpoint.ofText address.display = address.connectTarget.endpoint ∧
      Endpoint.ofHost (asBytes address.host) address.port = address.lookupTarget :=
  have accepted : AddressDecoder.readFrom.accepts ([0x04] ++ List.replicate 10 0 ++
      [0xff, 0xff, 127, 0, 0, 1, 0x01, 0xbb]) =
        some (.ipv6 (.v6 (.new 0 0 0 0 0 0xffff 0x7f00 1) 443 0 0), 19) := by decide +kernel
  ⟨by decide +kernel, AddressDecoder.accepts_displayed accepted⟩

/-- An endpoint that is an address, or a name that is not empty. -/
def Endpoint.HasHost : Endpoint → Prop
  | .literal _ => True
  | .name host _ => host ≠ []

/-- A host and port is an endpoint with a host exactly when the host is not empty. -/
theorem Endpoint.ofHost_hasHost (host : List UInt8) (port : UInt16) :
    (ofHost host port).HasHost ↔ host ≠ [] := by
  by_cases empty : host = []
  · have nameless : ofHost [] port = .name [] port := rfl
    simp [empty, nameless, HasHost]
  · refine ⟨fun _ => empty, fun _ => ?_⟩
    unfold ofHost
    split
    · trivial
    · split
      · trivial
      · exact empty

/-- The configuration accepts exactly the texts that can be connected to and have a host. -/
theorem validateHostPort_iff (field value : String) :
    validateHostPort field value = .ok () ↔
      ∃ endpoint, Endpoint.ofText value = .ok endpoint ∧ endpoint.HasHost := by
  unfold validateHostPort Endpoint.ofText
  cases SocketAddr.fromStr value with
  | some addr => exact ⟨fun _ => ⟨.literal addr, rfl, trivial⟩, fun _ => rfl⟩
  | none =>
    rw [if_neg (by decide)]
    cases rsplitOnce 0x3a (asBytes value) with
    | none => simp [err]
    | some split =>
      rcases split with ⟨host, port⟩
      dsimp only
      cases u16FromStr port with
      | none =>
        by_cases empty : host = []
        · simp [err, empty]
        · simp [err, empty]
      | some number =>
        have hasHost := Endpoint.ofHost_hasHost host number
        by_cases empty : host = []
        · simpa [err, empty] using hasHost
        · have nonempty := hasHost.mpr empty
          simp [empty, nonempty, pure, Except.pure]

/-- An address is displayed as a text that the configuration accepts, unless it has no host. -/
theorem Address.validateHostPort_display (address : Address) (field : String) :
    validateHostPort field address.display = .ok () ↔ address.host ≠ "" := by
  have named : ∀ host : String, asBytes host ≠ [] ↔ host ≠ "" :=
    fun host => not_congr (asBytes_eq_nil host)
  have numeric : ∀ addr : SocketAddr, addr.ip.display ≠ "" := by
    intro addr
    have hasHost := (Endpoint.ofHost_hasHost (asBytes addr.ip.display) addr.port).mp
    rw [ofHost_display, named] at hasHost
    exact hasHost trivial
  rw [validateHostPort_iff, address.display_endpoint]
  cases address with
  | ipv4 addr => exact ⟨fun _ => numeric addr, fun _ => ⟨_, rfl, trivial⟩⟩
  | ipv6 addr => exact ⟨fun _ => numeric addr, fun _ => ⟨_, rfl, trivial⟩⟩
  | domain name port =>
    by_cases bracketed : (domain name port).Bracketed
    · have ⟨ip, scope, brackets⟩ := bracketed
      have ⟨rest, opening⟩ := brackets.opening
      have nonempty : asBytes name ≠ [] := by
        rw [opening]
        exact List.cons_ne_nil _ _
      have connected := Endpoint.ofText_brackets brackets port
      exact ⟨fun _ => (named name).mp nonempty, fun _ => ⟨_, connected, trivial⟩⟩
    · have connected := connectTarget_endpoint bracketed
      have hasHost := Endpoint.ofHost_hasHost (asBytes name) port
      show (∃ endpoint, (domain name port).connectTarget.endpoint = _ ∧ _) ↔ name ≠ ""
      rw [connected, ← named, ← hasHost]
      simp [lookupTarget]

end TrojanRust
