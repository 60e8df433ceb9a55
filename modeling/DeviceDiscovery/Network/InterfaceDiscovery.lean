import DeviceDiscovery.Foundation.PrefixMask
import DeviceDiscovery.Platform.Inet
import DeviceDiscovery.Platform.Sockets

/-!
The adapters of this machine (`network/interface_discovery.cpp`).

`GetAdaptersAddresses` and the conversion of wide strings are the platform's: an
adapter is what they deliver. An address is in host byte order throughout.
-/

namespace DeviceDiscovery.Network

open Foundation DeviceDiscovery.Platform

/-- A candidate IPv4 network interface of the local PC. -/
structure NetworkInterface where
  name : Bytes
  ipv4 : Bytes
  netmask : Bytes
  address : Address := 0
  mask : Address := 0
  isLoopback : Bool := false
  isUp : Bool := false
  isRunning : Bool := false
  isPointToPoint : Bool := false
  ifIndex : UInt32 := 0
  mac : Bytes := []
  description : Bytes := []
  deriving DecidableEq, Repr

namespace NetworkInterface

def network (iface : NetworkInterface) : Address := iface.address &&& iface.mask

def broadcast (iface : NetworkInterface) : Address := iface.network ||| ~~~iface.mask

/-- The loop of `prefix_length`, with `i` bits still to be looked at. -/
def prefixBits (mask : Address) : ℕ → ℕ → ℕ
  | 0, bits => bits
  | i + 1, bits => if mask >>> i &&& 1 ≠ 0 then prefixBits mask i (bits + 1) else bits

def prefixLength (iface : NetworkInterface) : ℕ := prefixBits iface.mask 32 0

def usableHostCount (iface : NetworkInterface) : ℕ :=
  let pre := iface.prefixLength
  if pre ≥ 31 then if pre = 32 then 1 else 2 else 2 ^ (32 - pre) - 2

end NetworkInterface

/-- One interface as reported by the operating system. -/
structure InterfaceSnapshot where
  name : Bytes := []
  ipv4 : Bytes := []
  netmask : Bytes := []
  isLoopback : Bool := false
  isUp : Bool := false
  isRunning : Bool := false
  isPointToPoint : Bool := false
  hasIpv4 : Bool := false
  ifIndex : UInt32 := 0
  mac : Bytes := []
  description : Bytes := []
  deriving DecidableEq, Repr

def netmaskFromPrefix (prefixLength : UInt8) : Bytes :=
  if prefixLength > 32 then []
  else
    let mask : Address :=
      if prefixLength = 0 then 0 else 0xFFFFFFFF#32 <<< (32 - prefixLength.toNat)
    inetNtop mask

/-- `"%02x"`. -/
def hexByte (b : UInt8) : Bytes :=
  let digit (d : UInt8) : UInt8 := if d < 10 then 48 + d else 87 + d
  [digit (b / 16), digit (b % 16)]

def formatMac (address : Bytes) : Bytes := [(':' : UInt8)].intercalate (address.map hexByte)

def parseIpv4 (text : Bytes) : Option Address := if text = [] then none else inetPton text

/-! ### Enumeration -/

/-- One unicast address of an adapter; `address` is `none` for a family other
than `AF_INET`. -/
structure UnicastAddress where
  address : Option Address
  onLinkPrefixLength : UInt8
  deriving DecidableEq, Repr

def ifTypePpp : ℕ := 23
def ifTypeSoftwareLoopback : ℕ := 24
def ifTypeTunnel : ℕ := 131

/-- One entry of `GetAdaptersAddresses`, its wide strings as UTF-8. -/
structure Adapter where
  friendlyName : Bytes
  adapterName : Option Bytes
  description : Bytes
  ifIndex : UInt32
  physicalAddress : Bytes
  ifType : ℕ
  operStatusUp : Bool
  unicastAddresses : List UnicastAddress
  deriving DecidableEq, Repr

/-- The loop over the unicast addresses of an adapter. -/
def firstUnicast (snapshot : InterfaceSnapshot) : List UnicastAddress → InterfaceSnapshot
  | [] => snapshot
  | unicast :: rest =>
      match unicast.address with
      | none => firstUnicast snapshot rest
      | some address =>
          let ipv4 := inetNtop address
          if ipv4 = [] ∨ ipv4 = bytes "0.0.0.0" then firstUnicast snapshot rest
          else
            let netmask := netmaskFromPrefix unicast.onLinkPrefixLength
            { snapshot with ipv4 := ipv4, netmask := netmask, hasIpv4 := !netmask.isEmpty }

def snapshotOfAdapter (adapter : Adapter) : InterfaceSnapshot :=
  let name := if adapter.friendlyName = [] then adapter.adapterName.getD []
    else adapter.friendlyName
  let snapshot : InterfaceSnapshot := {
    name := name
    description := adapter.description
    ifIndex := adapter.ifIndex
    mac := formatMac adapter.physicalAddress
    isLoopback := adapter.ifType == ifTypeSoftwareLoopback
    isUp := adapter.operStatusUp
    isRunning := adapter.operStatusUp
    isPointToPoint := adapter.ifType == ifTypePpp || adapter.ifType == ifTypeTunnel }
  firstUnicast snapshot adapter.unicastAddresses

/-- What one call of `GetAdaptersAddresses` answers. -/
inductive AdapterQuery where
  | success (adapters : List Adapter)
  | bufferOverflow
  | failed (rc : ℤ)
  deriving DecidableEq, Repr

/-- `query_adapter_addresses`: the attempts still allowed, and the answers to
them. The error is the text of the exception. -/
def queryAdapterAddresses (formatMessage : ℤ → Option Bytes) (answer : ℕ → AdapterQuery) :
    ℕ → ℕ → Except Bytes (List Adapter)
  | 0, _ => .error "GetAdaptersAddresses() kept reporting ERROR_BUFFER_OVERFLOW"
  | left + 1, attempt =>
      match answer attempt with
      | .success adapters => .ok adapters
      | .bufferOverflow => queryAdapterAddresses formatMessage answer left (attempt + 1)
      | .failed rc =>
          .error (bytes "GetAdaptersAddresses() failed: " ++ socketErrorText formatMessage rc)

def enumerateInterfaces (formatMessage : ℤ → Option Bytes) (answer : ℕ → AdapterQuery) :
    Except Bytes (List InterfaceSnapshot) :=
  (queryAdapterAddresses formatMessage answer 4 0).map (List.map snapshotOfAdapter)

/-! ### Selection -/

def kVirtualMarkers : List Bytes := [
  "vethernet", "hyper-v", "vmware", "vmnet", "virtualbox", "vbox",
  "loopback", "openvpn", "tap-windows", "wintun", "wireguard", "zerotier",
  "tailscale", "bluetooth", "wan miniport", "teredo", "isatap", "npcap",
  "pseudo-interface", "docker", "veth", "br-", "virbr", "tun",
  "tap", "vpn", "vswitch", "vlan", "tunnel"]

def isVirtualInterfaceName (name : Bytes) : Bool :=
  let lowered := name.map toLower
  kVirtualMarkers.any fun marker => contains lowered marker

/-- One turn of the loop of `filter_candidate_interfaces`. -/
def candidateOfSnapshot (snapshot : InterfaceSnapshot) : Option NetworkInterface :=
  if snapshot.isLoopback ∨ !snapshot.isUp ∨ !snapshot.isRunning then none
  else if !snapshot.hasIpv4 then none
  else if isVirtualInterfaceName snapshot.name ∨ isVirtualInterfaceName snapshot.description then
    none
  else
    match parseIpv4 snapshot.ipv4, parseIpv4 snapshot.netmask with
    | some address, some mask => some {
        name := snapshot.name
        ipv4 := snapshot.ipv4
        netmask := snapshot.netmask
        address := address
        mask := mask
        isLoopback := snapshot.isLoopback
        isUp := snapshot.isUp
        isRunning := snapshot.isRunning
        isPointToPoint := snapshot.isPointToPoint
        ifIndex := snapshot.ifIndex
        mac := snapshot.mac
        description := snapshot.description }
    | _, _ => none

def filterCandidateInterfaces (snapshots : List InterfaceSnapshot) : List NetworkInterface :=
  snapshots.filterMap candidateOfSnapshot

def discoverCandidateInterfaces (formatMessage : ℤ → Option Bytes) (answer : ℕ → AdapterQuery) :
    Except Bytes (List NetworkInterface) :=
  (enumerateInterfaces formatMessage answer).map filterCandidateInterfaces

/-! ### Masks -/

theorem and_one_ne_zero_iff (x : Address) : x &&& 1 ≠ 0 ↔ x.getLsbD 0 = true := by
  have hone : x &&& 1 = BitVec.setWidth 32 (BitVec.ofBool (x.getLsbD 0)) :=
    BitVec.and_one_eq_setWidth_ofBool_getLsbD
  rw [hone]
  cases x.getLsbD 0 <;> simp

theorem NetworkInterface.prefixBits_eq (mask : Address) (i bits : ℕ) :
    prefixBits mask i bits = bits + leadingOnes mask i := by
  induction i generalizing bits with
  | zero => rfl
  | succ i ih =>
      have hbit : mask >>> i &&& 1 ≠ 0 ↔ mask.getLsbD i = true := by
        rw [and_one_ne_zero_iff, BitVec.getLsbD_ushiftRight, Nat.add_zero]
      rw [prefixBits, leadingOnes]
      by_cases h : mask.getLsbD i = true
      · rw [if_pos (hbit.mpr h), if_pos h, ih]
        omega
      · rw [if_neg (mt hbit.mp h), if_neg h]
        rfl

/-- The prefix length of the mask with `k` clear low bits. -/
theorem NetworkInterface.prefixLength_of_mask {iface : NetworkInterface} {k : ℕ}
    (h : iface.mask = blockMask 32 k) : iface.prefixLength = 32 - k := by
  rw [prefixLength, prefixBits_eq, h, leadingOnes_blockMask k 32 (Nat.le_refl 32), Nat.zero_add]

theorem netmaskFromPrefix_eq {p : UInt8} (hp : p ≤ 32) :
    netmaskFromPrefix p = inetNtop (blockMask 32 (32 - p.toNat)) := by
  have hnot : ¬p > 32 := by simpa using hp
  rw [netmaskFromPrefix, if_neg hnot]
  by_cases hzero : p = 0
  · subst hzero
    rfl
  · rw [if_neg hzero]
    rfl

end DeviceDiscovery.Network
