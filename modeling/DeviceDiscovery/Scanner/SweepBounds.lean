import DeviceDiscovery.Scanner.HostEnumeration

/-!
The enumeration under any mask.

`filter_candidate_interfaces` takes any dotted quad for a netmask, so the mask
may have holes. `prefix_length` counts its leading ones only; the loop runs up to
the network address plus the complement of the whole mask. The leading ones bound
the complement from above, so the loop is no longer than the prefix length
allows, and the first clear bit bounds it from below, so the network address has
a successor and nothing wraps around.
-/

namespace DeviceDiscovery.Scanner

open Foundation DeviceDiscovery.Platform DeviceDiscovery.Network

variable (iface : NetworkInterface)

theorem prefixLength_eq : iface.prefixLength = leadingOnes iface.mask 32 := by
  rw [NetworkInterface.prefixLength, NetworkInterface.prefixBits_eq, Nat.zero_add]

theorem prefixLength_le : iface.prefixLength ≤ 32 := by
  rw [prefixLength_eq]
  exact leadingOnes_le iface.mask 32

theorem broadcast_eq :
    iface.broadcast.toNat = iface.network.toNat + (~~~iface.mask).toNat :=
  toNat_or_not iface.address iface.mask

/-- The block ends no further than the prefix length says. -/
theorem toNat_not_mask_lt : (~~~iface.mask).toNat < 2 ^ (32 - iface.prefixLength) := by
  rw [prefixLength_eq]
  exact toNat_not_lt iface.mask

/-- A prefix length of 31 or 32 leaves no room for a hole. -/
theorem mask_eq_blockMask {p : ℕ} (h : iface.prefixLength = p) (hp : 31 ≤ p) :
    iface.mask = blockMask 32 (32 - p) := by
  have hle := prefixLength_le iface
  have hlow := toNat_not_mask_lt iface
  have hnot : (~~~iface.mask).toNat = (~~~blockMask 32 (32 - p)).toNat := by
    rw [toNat_not_blockMask (Nat.sub_le 32 p)]
    obtain rfl | rfl : p = 31 ∨ p = 32 := by omega
    · have hend := le_toNat_not iface.mask (by rw [← prefixLength_eq]; omega)
      rw [← prefixLength_eq, h] at hend
      rw [h] at hlow
      omega
    · rw [h] at hlow
      omega
  exact BitVec.not_inj.mp (BitVec.eq_of_toNat_eq hnot)

theorem toNat_network_add_one (h : iface.prefixLength ≤ 31) :
    (iface.network + 1).toNat = iface.network.toNat + 1 := by
  have hpos : 0 < (~~~iface.mask).toNat := by
    rw [prefixLength_eq] at h
    calc 0 < 2 ^ (32 - 1 - leadingOnes iface.mask 32) := Nat.two_pow_pos _
      _ ≤ (~~~iface.mask).toNat := le_toNat_not iface.mask (by omega)
  apply toNat_succ_of_lt (y := iface.broadcast)
  show iface.network.toNat < iface.broadcast.toNat
  rw [broadcast_eq]
  omega

theorem enumerateSubnetHosts_long {m : ℕ} (hm : m ≤ iface.prefixLength) (hpos : 1 ≤ m)
    (h : iface.prefixLength ≤ 30) : enumerateSubnetHosts iface m =
      (hostsFrom iface.address iface.broadcast (iface.network + 1)).map inetNtop := by
  have hne : iface.mask ≠ 0 := by
    intro hzero
    have hnone : iface.prefixLength = 0 := by
      rw [NetworkInterface.prefixLength, hzero]
      rfl
    omega
  simp only [enumerateSubnetHosts]
  rw [if_neg (by simp only [hne, or_false]; omega), if_neg (by omega)]

/-- The hosts of a subnet that has a network and a broadcast address. -/
theorem hosts_long {m : ℕ} (hm : m ≤ iface.prefixLength) (h : iface.prefixLength ≤ 30) :
    let hosts := hostsFrom iface.address iface.broadcast (iface.network + 1)
    iface.network ∉ hosts ∧ iface.broadcast ∉ hosts ∧ hosts.length ≤ 2 ^ (32 - m) - 2 := by
  have hsucc := toNat_network_add_one iface (by omega)
  refine ⟨fun hmem => ?_, fun hmem => ?_, ?_⟩
  · obtain ⟨hfrom, -, -⟩ := mem_hostsFrom.mp hmem
    omega
  · obtain ⟨-, hbelow, -⟩ := mem_hostsFrom.mp hmem
    omega
  · have hspan := broadcast_eq iface
    have hlow := toNat_not_mask_lt iface
    have hpow : 2 ^ (32 - iface.prefixLength) ≤ 2 ^ (32 - m) :=
      Nat.pow_le_pow_right (by omega) (by omega)
    calc (hostsFrom iface.address iface.broadcast (iface.network + 1)).length
        ≤ iface.broadcast.toNat - (iface.network + 1).toNat := by
          rw [length_hostsFrom]
          omega
      _ = (~~~iface.mask).toNat - 1 := by omega
      _ ≤ 2 ^ (32 - m) - 2 := by omega

/-- The enumeration for any mask. The sums and the difference it forms stay
within 32 bits, it lists ascending addresses that are neither the adapter's own
nor, up to prefix length 30, an end of the subnet, and there are no more of them
than the smallest prefix length allows. -/
theorem enumerateSubnetHosts_of_any_mask (m : ℕ) (hpos : 1 ≤ m) (hm : m ≤ 30) :
    (iface.prefixLength ≤ 31 → (iface.network + 1).toNat = iface.network.toNat + 1) ∧
      (∀ address, address < iface.broadcast → (address + 1).toNat = address.toNat + 1) ∧
      iface.network ≤ iface.broadcast ∧
      (iface.broadcast - iface.network).toNat =
        iface.broadcast.toNat - iface.network.toNat ∧
      ∃ hosts : List Address, enumerateSubnetHosts iface m = hosts.map inetNtop ∧
        hosts.Pairwise (· < ·) ∧ iface.address ∉ hosts ∧
        (iface.prefixLength ≤ 30 → iface.network ∉ hosts ∧ iface.broadcast ∉ hosts) ∧
        hosts.length ≤ 2 ^ (32 - m) - 2 := by
  have hspan : iface.network ≤ iface.broadcast := by
    show iface.network.toNat ≤ iface.broadcast.toNat
    rw [broadcast_eq]
    omega
  refine ⟨toNat_network_add_one iface, fun address => toNat_succ_of_lt, hspan,
    BitVec.toNat_sub_of_le hspan, ?_⟩
  have hfour : 2 ^ 2 ≤ 2 ^ (32 - m) := Nat.pow_le_pow_right (by omega) (by omega)
  have hle := prefixLength_le iface
  by_cases hrefused : iface.prefixLength < m
  · refine ⟨[], ?_, .nil, List.not_mem_nil, fun _ => ⟨List.not_mem_nil, List.not_mem_nil⟩,
      Nat.zero_le _⟩
    simp only [enumerateSubnetHosts]
    rw [if_pos (.inl hrefused)]
    rfl
  obtain hlong | hpair | hsingle :
      iface.prefixLength ≤ 30 ∨ iface.prefixLength = 31 ∨ iface.prefixLength = 32 := by omega
  · obtain ⟨hnetwork, hbroadcast, hlength⟩ := hosts_long iface (m := m) (by omega) hlong
    refine ⟨_, enumerateSubnetHosts_long iface (by omega) hpos hlong, pairwise_hostsFrom _ _ _,
      fun hmem => ?_, fun _ => ⟨hnetwork, hbroadcast⟩, hlength⟩
    exact (mem_hostsFrom.mp hmem).2.2 rfl
  · have hmask := mask_eq_blockMask iface hpair (by omega)
    obtain ⟨peer, hlist, hne, -⟩ := enumerateSubnetHosts_pair hmask (m := m) (by omega)
    refine ⟨[peer], hlist, List.pairwise_singleton _ _, ?_, fun h => by omega, ?_⟩
    · rw [List.mem_singleton]
      exact Ne.symm hne
    · rw [List.length_singleton]
      omega
  · have hmask := mask_eq_blockMask iface hsingle (by omega)
    exact ⟨[], enumerateSubnetHosts_single hmask (by omega), .nil, List.not_mem_nil,
      fun h => by omega, Nat.zero_le _⟩

/-- A mask with a hole, at the end of the address space: `255.255.255.249`. -/
def holedInterface : NetworkInterface where
  name := "Ethernet 2"
  ipv4 := "255.255.255.255"
  netmask := "255.255.255.249"
  address := ofOctets 255 255 255 255
  mask := ofOctets 255 255 255 249

theorem enumerateSubnetHosts_of_any_mask_holed :
    (holedInterface.network + 1).toNat = holedInterface.network.toNat + 1 ∧
      (enumerateSubnetHosts holedInterface 29).length ≤ 6 := by
  obtain ⟨hsucc, -, -, -, hosts, hlist, -, -, -, hlength⟩ :=
    enumerateSubnetHosts_of_any_mask holedInterface 29 (by decide) (by decide)
  refine ⟨hsucc (by decide), ?_⟩
  rw [hlist, List.length_map]
  exact hlength

end DeviceDiscovery.Scanner
