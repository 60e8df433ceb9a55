import DeviceDiscovery.Main.Selection
import DeviceDiscovery.Network.LinkLayerHosts
import DeviceDiscovery.Scanner.HostEnumeration

/-!
Which addresses the two stages hand to the sweep.

Stage A hands over a subnet of the first address of the adapter, stage B the
addresses that the neighbour cache and the captured packets show. Neither list
is compared with the stations of the link or with the other addresses of the
adapter, so whether the first stay in and the second stay out is up to the link.
-/

namespace DeviceDiscovery.Main

open Foundation DeviceDiscovery.Platform DeviceDiscovery.Network DeviceDiscovery.Scanner
  DeviceDiscovery.Ssh

section Stages

variable (options : Options) (world : World) (iface : NetworkInterface)

/-- A usable row of one of the cache reads is about `x`. -/
def InCache (x : Address) : Prop :=
  ∃ row ∈ world.link.firstTable.getD [] ++ world.link.secondTable.getD [],
    IsUsable iface.ifIndex row ∧ row.address = x

/-- A packet that the capture receives has the source `x`. -/
def InTraffic (x : Address) : Prop :=
  ∃ packet ∈ world.link.capture.packets iface options.layer2Window, ipv4Source packet = some x

theorem mem_linkHosts_iff (x : Address) : inetNtop x ∈ linkHosts options world iface ↔
    IsWanted iface x ∧ (InCache world iface x ∨ InTraffic options world iface x) :=
  mem_ips_iff world.link iface options.layer2Window world.env.formatMessage x

/-! ### The stations of the link -/

/-- Stage B probes only stations, which are told by their addresses. -/
def ProbesOnlyStations (IsStation : Address → Prop) : Prop :=
  ∀ ip ∈ linkHosts options world iface, ∃ x, IsStation x ∧ ip = inetNtop x

/-- Stage B keeps to the stations of the link exactly when the usable rows of the
neighbour cache and the captured packets, as far as they show an address that may
be another host's, show addresses of stations only. -/
theorem probesOnlyStations_iff (IsStation : Address → Prop) :
    ProbesOnlyStations options world iface IsStation ↔
      (∀ x, InCache world iface x → IsWanted iface x → IsStation x) ∧
      ∀ packet ∈ world.link.capture.packets iface options.layer2Window, ∀ x,
        ipv4Source packet = some x → IsWanted iface x → IsStation x := by
  constructor
  · intro h
    have hstation (x : Address) (hmem : inetNtop x ∈ linkHosts options world iface) :
        IsStation x := by
      obtain ⟨y, hy, htext⟩ := h _ hmem
      exact inetNtop_injective htext ▸ hy
    refine ⟨fun x hcache hwanted => ?_, fun packet hpacket x hsource hwanted => ?_⟩
    · exact hstation x ((mem_linkHosts_iff options world iface x).mpr ⟨hwanted, .inl hcache⟩)
    · exact hstation x ((mem_linkHosts_iff options world iface x).mpr
        ⟨hwanted, .inr ⟨packet, hpacket, hsource⟩⟩)
  · rintro ⟨hcache, htraffic⟩ ip hip
    obtain ⟨x, rfl⟩ := exists_of_mem_ips world.link iface options.layer2Window
      world.env.formatMessage hip
    obtain ⟨hwanted, hrow | ⟨packet, hpacket, hsource⟩⟩ :=
      (mem_linkHosts_iff options world iface x).mp hip
    · exact ⟨x, hcache x hrow hwanted, rfl⟩
    · exact ⟨x, htraffic packet hpacket x hsource hwanted, rfl⟩

/-! ### The addresses of the adapter -/

/-- Neither stage hands an address of the adapter to the sweep. -/
def SparesItself (adapter : Adapter) : Prop :=
  ∀ unicast ∈ adapter.unicastAddresses, ∀ x, unicast.address = some x →
    inetNtop x ∉ subnetHosts iface ∧ inetNtop x ∉ linkHosts options world iface

/-- A host address of the subnet of stage A, unless the subnet is too large. -/
def InSubnet (x : Address) : Prop :=
  kMinimumScanPrefix ≤ iface.prefixLength ∧
    SharesPrefix iface.prefixLength x iface.address ∧ IsHostAddress iface.prefixLength x

theorem mem_subnetHosts_iff {adapter : Adapter} {iface : NetworkInterface}
    (h : candidateOfSnapshot (snapshotOfAdapter adapter) = some iface) (x : Address) :
    inetNtop x ∈ subnetHosts iface ↔ InSubnet iface x ∧ x ≠ iface.address := by
  obtain ⟨-, hlength, hmask⟩ := interface_of_adapter h
  rw [subnetHosts, mem_enumerateSubnetHosts_iff hmask (by decide) hlength, InSubnet, and_assoc,
    and_assoc]

/-- The adapter is spared exactly when none of its addresses but the first is a
host of the swept subnet, a row of the neighbour cache or the source of a captured
packet. -/
theorem sparesItself_iff (options : Options) (world : World) {adapter : Adapter}
    {iface : NetworkInterface} (h : candidateOfSnapshot (snapshotOfAdapter adapter) = some iface) :
    SparesItself options world iface adapter ↔
      ∀ unicast ∈ adapter.unicastAddresses, ∀ x, unicast.address = some x → x ≠ iface.address →
        ¬InSubnet iface x ∧ (IsWanted iface x →
          ¬InCache world iface x ∧ ¬InTraffic options world iface x) := by
  obtain ⟨hipv4, -, -⟩ := interface_of_adapter h
  refine forall₂_congr fun unicast _ => forall₂_congr fun x _ => ?_
  rw [mem_subnetHosts_iff h, mem_linkHosts_iff]
  have hwanted (h : IsWanted iface x) : x ≠ iface.address := fun hown => h.1 (hown ▸ hipv4.symm)
  tauto

end Stages

/-! ### A routed packet, and a second address -/

/-- An IPv4 header with the given source. -/
def packetFrom (source : Bytes) : Bytes :=
  [0x45, 0, 0, 20, 0, 0, 0, 0, 64, 6, 0, 0] ++ source ++ [10, 0, 0, 0]

/-- The adapter of the interface, with further addresses. -/
def wiredAdapter (others : List UnicastAddress) : Adapter where
  friendlyName := "Ethernet"
  adapterName := none
  description := "wired"
  ifIndex := 3
  physicalAddress := [2, 0, 0, 0, 0, 1]
  ifType := 6
  operStatusUp := true
  unicastAddresses := ⟨some (ofOctets 10 0 0 0), 31⟩ :: others

theorem wiredAdapter_selected (others : List UnicastAddress) :
    candidateOfSnapshot (snapshotOfAdapter (wiredAdapter others)) = some wiredInterface := rfl

/-- A first stage that reaches nobody, and then this link. -/
def linkWorld (link : LinkAnswers) (linkProbes : ℕ → Except Bytes ProbeAnswers) : World where
  winsockReady := true
  env := ⟨fun _ => some "secret", fun _ => none⟩
  readFile _ := none
  adapters _ := .success [wiredAdapter []]
  subnetProbes _ := .error "no route"
  elevated := true
  link := link
  linkProbes := linkProbes
  auth := ⟨0, sampleConnect, 0, 0, 1, 0, ⟨0, []⟩, none, nullptr, 0, 0⟩
  execute _ := ⟨2, ⟨0, []⟩, 0, ⟨0, []⟩, noOutput, noOutput, 0⟩

/-- The capture of one packet. Who is probed answers as an SSH server. -/
def capturingWorld (source : Bytes) : World :=
  linkWorld
    ⟨none, ⟨true, 9, 0, true, 0, 0, false, 0, 0, [⟨0, 1, .packet (packetFrom source)⟩]⟩, none⟩
    fun _ => .ok ⟨sampleConnect, ⟨0, [⟨0, 1, bytes "SSH-2.0-dropbear\r\n"⟩]⟩⟩

/-- The only station of the link is the router 10.0.0.1, which forwards a packet
of the remote host 8.8.8.8. Stage B probes that host, and the run sends it the
password. -/
theorem forwarded_source_probed :
    let world := capturingWorld [8, 8, 8, 8]
    let outcome := tryRun {} world
    ¬ProbesOnlyStations {} world wiredInterface (· = ofOctets 10 0 0 1) ∧
      (∀ x, ¬InCache world wiredInterface x) ∧
      outcome.connected.map SshConfig.host = [bytes "8.8.8.8"] ∧
      outcome.calls.countP SshCall.offersPassword = 1 := by
  refine ⟨fun h => ?_, ?_, by decide, by decide⟩
  · have hmem : inetNtop (ofOctets 8 8 8 8) ∈
        linkHosts {} (capturingWorld [8, 8, 8, 8]) wiredInterface := by
      decide
    obtain ⟨x, hx, htext⟩ := h _ hmem
    have hsame : ofOctets 8 8 8 8 = ofOctets 10 0 0 1 := (inetNtop_injective htext).trans hx
    exact absurd hsame (by decide)
  · rintro x ⟨row, hrow, -⟩
    cases hrow

theorem sparesItself_iff_sample :
    SparesItself {} (capturingWorld [8, 8, 8, 8]) wiredInterface (wiredAdapter []) := by
  refine (sparesItself_iff {} (capturingWorld [8, 8, 8, 8]) (wiredAdapter_selected [])).mpr ?_
  intro unicast hunicast x hx hne
  obtain rfl := List.mem_singleton.mp hunicast
  exact absurd (Option.some.inj hx).symm hne

/-- A second address on the peer's subnet, as the program itself advises, and a
second address beside the first one: a packet of the PC is captured, and a host of
the subnet is the PC. -/
theorem second_address_probed :
    (∀ others, candidateOfSnapshot (snapshotOfAdapter (wiredAdapter others)) =
        some wiredInterface) ∧
      ¬SparesItself {} (capturingWorld [10, 20, 30, 5]) wiredInterface
        (wiredAdapter [⟨some (ofOctets 10 20 30 5), 24⟩]) ∧
      ¬SparesItself {} (capturingWorld []) wiredInterface
        (wiredAdapter [⟨some (ofOctets 10 0 0 1), 31⟩]) := by
  refine ⟨wiredAdapter_selected, ?_, ?_⟩
  · intro h
    have hspared := h ⟨some (ofOctets 10 20 30 5), 24⟩ (by decide) (ofOctets 10 20 30 5) rfl
    exact absurd hspared.2 (by decide)
  · intro h
    have hspared := h ⟨some (ofOctets 10 0 0 1), 31⟩ (by decide) (ofOctets 10 0 0 1) rfl
    exact absurd hspared.1 (by decide)

end DeviceDiscovery.Main
