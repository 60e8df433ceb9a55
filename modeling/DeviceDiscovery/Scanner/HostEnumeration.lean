import DeviceDiscovery.Scanner.SubnetSweep

/-!
The hosts of the directly connected subnet (`enumerate_subnet_hosts`).

From the adapter's address and on-link prefix length to the list of texts that
the first stage sweeps. The mask goes through text and back, so the interface
carries `blockMask`, and with it the network and broadcast addresses are the
ends of the block of addresses that share the prefix.
-/

namespace DeviceDiscovery.Scanner

open Foundation DeviceDiscovery.Platform DeviceDiscovery.Network

/-! ### The subnet of an address -/

/-- The two addresses agree on their first `p` bits. -/
def SharesPrefix (p : ℕ) (x a : Address) : Prop := x >>> (32 - p) = a >>> (32 - p)

/-- All bits after the first `p` are clear. -/
def IsNetworkAddress (p : ℕ) (x : Address) : Prop := x.toNat % 2 ^ (32 - p) = 0

/-- All bits after the first `p` are set. -/
def IsBroadcastAddress (p : ℕ) (x : Address) : Prop :=
  x.toNat % 2 ^ (32 - p) = 2 ^ (32 - p) - 1

/-- The addresses `usable_host_count` counts: all of a subnet of one or two
addresses, and otherwise those between the network and the broadcast address. -/
def IsHostAddress (p : ℕ) (x : Address) : Prop :=
  p ≤ 30 → ¬IsNetworkAddress p x ∧ ¬IsBroadcastAddress p x

instance (p : ℕ) (x : Address) : Decidable (IsHostAddress p x) :=
  inferInstanceAs (Decidable (p ≤ 30 →
    ¬x.toNat % 2 ^ (32 - p) = 0 ∧ ¬x.toNat % 2 ^ (32 - p) = 2 ^ (32 - p) - 1))

theorem sharesPrefix_iff {p : ℕ} {x a : Address} :
    SharesPrefix p x a ↔ x.toNat / 2 ^ (32 - p) = a.toNat / 2 ^ (32 - p) := by
  rw [SharesPrefix, ← BitVec.toNat_inj, BitVec.toNat_ushiftRight, BitVec.toNat_ushiftRight,
    Nat.shiftRight_eq_div_pow, Nat.shiftRight_eq_div_pow]

/-! ### The loop -/

theorem toNat_succ_of_lt {x y : Address} (h : x < y) : (x + 1).toNat = x.toNat + 1 := by
  have hlt : x.toNat < y.toNat := h
  have hy := y.isLt
  rw [BitVec.toNat_add, Nat.mod_eq_of_lt]
  · rfl
  · show x.toNat + 1 < 2 ^ 32
    omega

theorem hostsFrom_own {own broadcast : Address} (h : own < broadcast) :
    hostsFrom own broadcast own = hostsFrom own broadcast (own + 1) := by
  rw [hostsFrom, if_pos h, if_pos rfl]

theorem hostsFrom_other {own broadcast address : Address} (h : address < broadcast)
    (hne : address ≠ own) : hostsFrom own broadcast address =
      address :: hostsFrom own broadcast (address + 1) := by
  rw [hostsFrom, if_pos h, if_neg hne]

theorem hostsFrom_end {own broadcast address : Address} (h : ¬address < broadcast) :
    hostsFrom own broadcast address = [] := by
  rw [hostsFrom, if_neg h]

/-- The loop visits the addresses below the broadcast address, but its own. -/
theorem mem_hostsFrom {own broadcast address x : Address} :
    x ∈ hostsFrom own broadcast address ↔
      address.toNat ≤ x.toNat ∧ x.toNat < broadcast.toNat ∧ x ≠ own := by
  induction address using hostsFrom.induct own broadcast with
  | case1 hlt ih =>
      rw [hostsFrom_own hlt, ih, toNat_succ_of_lt hlt]
      constructor
      · rintro ⟨hle, hbelow, hne⟩
        exact ⟨by omega, hbelow, hne⟩
      · rintro ⟨hle, hbelow, hne⟩
        have hval : own.toNat ≠ x.toNat := fun heq => hne (BitVec.eq_of_toNat_eq heq.symm)
        exact ⟨by omega, hbelow, hne⟩
  | case2 address hlt hne ih =>
      have hbelow : address.toNat < broadcast.toNat := hlt
      rw [hostsFrom_other hlt hne, List.mem_cons, ih, toNat_succ_of_lt hlt]
      constructor
      · rintro (rfl | ⟨hle, hx, hown⟩)
        · exact ⟨Nat.le_refl _, hbelow, hne⟩
        · exact ⟨by omega, hx, hown⟩
      · rintro ⟨hle, hx, hown⟩
        by_cases heq : x = address
        · exact .inl heq
        · have hval : x.toNat ≠ address.toNat := fun h => heq (BitVec.eq_of_toNat_eq h)
          exact .inr ⟨by omega, hx, hown⟩
  | case3 address hge =>
      have hle : broadcast.toNat ≤ address.toNat := Nat.le_of_not_lt hge
      rw [hostsFrom_end hge]
      constructor
      · intro hmem
        cases hmem
      · rintro ⟨hfrom, hbelow, -⟩
        omega

theorem pairwise_hostsFrom (own broadcast address : Address) :
    (hostsFrom own broadcast address).Pairwise (· < ·) := by
  induction address using hostsFrom.induct own broadcast with
  | case1 hlt ih =>
      rw [hostsFrom_own hlt]
      exact ih
  | case2 address hlt hne ih =>
      rw [hostsFrom_other hlt hne, List.pairwise_cons]
      refine ⟨fun x hx => ?_, ih⟩
      have hfrom := (mem_hostsFrom.mp hx).1
      rw [toNat_succ_of_lt hlt] at hfrom
      exact hfrom
  | case3 address hge =>
      rw [hostsFrom_end hge]
      exact List.Pairwise.nil

/-- The length of the loop's result, with one address less when it passes its
own. -/
theorem length_hostsFrom (own broadcast address : Address) :
    (hostsFrom own broadcast address).length =
      broadcast.toNat - address.toNat -
        if address.toNat ≤ own.toNat ∧ own.toNat < broadcast.toNat then 1 else 0 := by
  induction address using hostsFrom.induct own broadcast with
  | case1 hlt ih =>
      have hbelow : own.toNat < broadcast.toNat := hlt
      rw [hostsFrom_own hlt, ih, toNat_succ_of_lt hlt, if_neg (by omega), if_pos (by omega)]
      omega
  | case2 address hlt hne ih =>
      have hbelow : address.toNat < broadcast.toNat := hlt
      have hval : address.toNat ≠ own.toNat := fun h => hne (BitVec.eq_of_toNat_eq h)
      rw [hostsFrom_other hlt hne, List.length_cons, ih, toNat_succ_of_lt hlt]
      by_cases hown : address.toNat ≤ own.toNat ∧ own.toNat < broadcast.toNat
      · rw [if_pos (by omega), if_pos hown]
        omega
      · rw [if_neg (by omega), if_neg hown]
        omega
  | case3 address hge =>
      have hle : broadcast.toNat ≤ address.toNat := Nat.le_of_not_lt hge
      rw [hostsFrom_end hge, List.length_nil]
      omega

/-! ### An interface with a prefix mask -/

section Interface

variable {iface : NetworkInterface} {p : ℕ}

theorem toNat_network (hmask : iface.mask = blockMask 32 (32 - p)) :
    iface.network.toNat = iface.address.toNat / 2 ^ (32 - p) * 2 ^ (32 - p) := by
  rw [NetworkInterface.network, hmask, toNat_and_blockMask]

theorem toNat_broadcast (hmask : iface.mask = blockMask 32 (32 - p)) :
    iface.broadcast.toNat =
      iface.address.toNat / 2 ^ (32 - p) * 2 ^ (32 - p) + (2 ^ (32 - p) - 1) := by
  rw [NetworkInterface.broadcast, NetworkInterface.network, hmask,
    toNat_or_not_blockMask _ (Nat.sub_le 32 p)]

/-- Between the network and the broadcast address are the hosts of the subnet. -/
theorem between_iff (x a K : ℕ) (hK : 0 < K) :
    (a / K * K + 1 ≤ x ∧ x < a / K * K + (K - 1)) ↔
      x / K = a / K ∧ x % K ≠ 0 ∧ x % K ≠ K - 1 := by
  have hsplit := Nat.div_add_mod x K
  have hmod := Nat.mod_lt x hK
  constructor
  · rintro ⟨hlo, hhi⟩
    have hdiv : x / K = a / K := by
      apply Nat.div_eq_of_lt_le
      · omega
      · rw [Nat.add_mul, Nat.one_mul]
        omega
    rw [hdiv, Nat.mul_comm] at hsplit
    refine ⟨hdiv, ?_, ?_⟩ <;> omega
  · rintro ⟨hdiv, hlo, hhi⟩
    rw [hdiv, Nat.mul_comm] at hsplit
    constructor <;> omega

theorem mask_ne_zero (hmask : iface.mask = blockMask 32 (32 - p)) (hp : p ≤ 32) (hpos : 0 < p) :
    iface.mask ≠ 0 := by
  intro hzero
  have hlength := NetworkInterface.prefixLength_of_mask hmask
  have hnone : iface.prefixLength = 0 := by
    rw [NetworkInterface.prefixLength, hzero]
    rfl
  omega

/-- The hosts of a subnet with a network and a broadcast address. -/
theorem enumerateSubnetHosts_of_le (hmask : iface.mask = blockMask 32 (32 - p)) {m : ℕ}
    (hm : 1 ≤ m) (hmp : m ≤ p) (hp : p ≤ 30) :
    enumerateSubnetHosts iface m =
      (hostsFrom iface.address iface.broadcast (iface.network + 1)).map inetNtop := by
  have hlength : iface.prefixLength = p := by
    rw [NetworkInterface.prefixLength_of_mask hmask]
    omega
  have hne := mask_ne_zero hmask (by omega) (by omega)
  simp only [enumerateSubnetHosts, hlength]
  rw [if_neg (by simp only [hne, or_false]; omega), if_neg (by omega)]

theorem toNat_network_succ (hmask : iface.mask = blockMask 32 (32 - p)) (hp : p ≤ 30) :
    (iface.network + 1).toNat =
      iface.address.toNat / 2 ^ (32 - p) * 2 ^ (32 - p) + 1 := by
  have hbroadcast := iface.broadcast.isLt
  rw [toNat_broadcast hmask] at hbroadcast
  have hfour : 2 ^ 2 ≤ 2 ^ (32 - p) := Nat.pow_le_pow_right (by omega) (by omega)
  rw [toNat_succ_of_lt (y := iface.broadcast), toNat_network hmask]
  show iface.network.toNat < iface.broadcast.toNat
  rw [toNat_network hmask, toNat_broadcast hmask]
  omega

theorem mem_hosts_iff (hmask : iface.mask = blockMask 32 (32 - p)) (hp : p ≤ 30) (x : Address) :
    x ∈ hostsFrom iface.address iface.broadcast (iface.network + 1) ↔
      SharesPrefix p x iface.address ∧ ¬IsNetworkAddress p x ∧ ¬IsBroadcastAddress p x ∧
        x ≠ iface.address := by
  rw [mem_hostsFrom, toNat_network_succ hmask hp, toNat_broadcast hmask, ← and_assoc,
    between_iff _ _ _ (Nat.two_pow_pos _), sharesPrefix_iff, and_assoc, and_assoc]
  rfl

theorem length_hosts (hmask : iface.mask = blockMask 32 (32 - p)) (hp : p ≤ 30) :
    (hostsFrom iface.address iface.broadcast (iface.network + 1)).length =
      2 ^ (32 - p) - 2 - if IsHostAddress p iface.address then 1 else 0 := by
  have hown := between_iff iface.address.toNat iface.address.toNat _ (Nat.two_pow_pos (32 - p))
  have hcounted : IsHostAddress p iface.address ↔
      iface.address.toNat % 2 ^ (32 - p) ≠ 0 ∧
        iface.address.toNat % 2 ^ (32 - p) ≠ 2 ^ (32 - p) - 1 :=
    ⟨fun h => h hp, fun h _ => h⟩
  simp only [true_and, ← hcounted] at hown
  rw [length_hostsFrom, toNat_network_succ hmask hp, toNat_broadcast hmask]
  simp only [hown]
  omega

/-- A subnet of two addresses: the other one. -/
theorem enumerateSubnetHosts_pair (hmask : iface.mask = blockMask 32 (32 - 31)) {m : ℕ}
    (hm : m ≤ 31) : ∃ peer, enumerateSubnetHosts iface m = [inetNtop peer] ∧
      peer ≠ iface.address ∧ SharesPrefix 31 peer iface.address := by
  have hlength : iface.prefixLength = 31 := NetworkInterface.prefixLength_of_mask hmask
  have hne := mask_ne_zero hmask (by omega) (by omega)
  have hlist : enumerateSubnetHosts iface m =
      ([iface.network, iface.network + 1].filter fun x => x ≠ iface.address).map inetNtop := by
    have hzero : iface.network + BitVec.ofNat 32 0 = iface.network := BitVec.add_zero _
    simp only [enumerateSubnetHosts, hlength]
    rw [if_neg (by simp only [hne, or_false]; omega), if_pos (by omega), if_neg (by omega)]
    simp only [List.range_succ, List.range_zero, List.nil_append, List.cons_append, List.map_cons,
      List.map_nil, hzero]
    rfl
  have hnetwork := toNat_network hmask
  have hlt := iface.address.isLt
  have hsucc : (iface.network + 1).toNat = iface.network.toNat + 1 := by
    rw [BitVec.toNat_add, Nat.mod_eq_of_lt]
    · rfl
    · show iface.network.toNat + 1 < 2 ^ 32
      omega
  rw [hlist]
  by_cases heven : iface.address.toNat % 2 = 0
  · have hfirst : iface.network = iface.address := by
      apply BitVec.eq_of_toNat_eq
      omega
    have hsecond : iface.network + 1 ≠ iface.address := by
      intro heq
      rw [heq, hfirst] at hsucc
      omega
    refine ⟨iface.network + 1, ?_, hsecond, ?_⟩
    · rw [List.filter_cons_of_neg (by simpa using hfirst),
        List.filter_cons_of_pos (by simpa using hsecond)]
      rfl
    · rw [sharesPrefix_iff, hsucc]
      omega
  · have hfirst : iface.network ≠ iface.address := by
      intro heq
      rw [heq] at hnetwork
      omega
    have hsecond : iface.network + 1 = iface.address := by
      apply BitVec.eq_of_toNat_eq
      omega
    refine ⟨iface.network, ?_, hfirst, ?_⟩
    · rw [List.filter_cons_of_pos (by simpa using hfirst),
        List.filter_cons_of_neg (by simpa using hsecond)]
      rfl
    · rw [sharesPrefix_iff]
      omega

/-- A subnet of one address has no other. -/
theorem enumerateSubnetHosts_single (hmask : iface.mask = blockMask 32 (32 - 32)) {m : ℕ}
    (hm : m ≤ 32) : enumerateSubnetHosts iface m = [] := by
  have hlength : iface.prefixLength = 32 := NetworkInterface.prefixLength_of_mask hmask
  have hne := mask_ne_zero hmask (by omega) (by omega)
  have hnetwork : iface.network = iface.address := by
    apply BitVec.eq_of_toNat_eq
    rw [toNat_network hmask]
    omega
  have hzero : iface.address + BitVec.ofNat 32 0 = iface.address := BitVec.add_zero _
  simp only [enumerateSubnetHosts, hlength, hnetwork]
  rw [if_neg (by simp only [hne, or_false]; omega), if_pos (by omega)]
  simp only [if_true, List.range_succ, List.range_zero, List.nil_append, List.map_cons,
    List.map_nil, hzero]
  rw [List.filter_cons_of_neg (by simp)]
  rfl

theorem enumerateSubnetHosts_refused (hmask : iface.mask = blockMask 32 (32 - p)) {m : ℕ}
    (hp : p ≤ 32) (hm : p < m) : enumerateSubnetHosts iface m = [] := by
  have hlength : iface.prefixLength = p := by
    rw [NetworkInterface.prefixLength_of_mask hmask]
    omega
  simp only [enumerateSubnetHosts, hlength]
  rw [if_pos (.inl hm)]

/-- The hosts, for every prefix length. -/
theorem mem_enumerateSubnetHosts_iff (hmask : iface.mask = blockMask 32 (32 - p)) {m : ℕ}
    (hm : 1 ≤ m) (hp : p ≤ 32) (x : Address) :
    inetNtop x ∈ enumerateSubnetHosts iface m ↔
      m ≤ p ∧ SharesPrefix p x iface.address ∧ IsHostAddress p x ∧ x ≠ iface.address := by
  by_cases hmp : m ≤ p
  · rcases Nat.lt_trichotomy p 31 with hlt | rfl | hgt
    · have h30 : p ≤ 30 := by omega
      rw [enumerateSubnetHosts_of_le hmask hm hmp h30, List.mem_map_of_injective inetNtop_injective,
        mem_hosts_iff hmask h30]
      simp only [hmp, true_and, IsHostAddress, h30, forall_const, and_assoc]
    · obtain ⟨peer, hlist, hne, hshares⟩ := enumerateSubnetHosts_pair hmask hmp
      rw [hlist, List.mem_singleton, inetNtop_injective.eq_iff]
      rw [sharesPrefix_iff] at hshares
      constructor
      · rintro rfl
        exact ⟨hmp, sharesPrefix_iff.mpr hshares, fun h => by omega, hne⟩
      · rintro ⟨-, hx, -, hother⟩
        rw [sharesPrefix_iff] at hx
        -- Two addresses share the prefix, so what is not the one is the other.
        have hpeer : peer.toNat ≠ iface.address.toNat := fun h => hne (BitVec.eq_of_toNat_eq h)
        have hval : x.toNat ≠ iface.address.toNat := fun h => hother (BitVec.eq_of_toNat_eq h)
        apply BitVec.eq_of_toNat_eq
        omega
    · obtain rfl : p = 32 := by omega
      rw [enumerateSubnetHosts_single hmask hmp]
      refine iff_of_false (List.not_mem_nil) ?_
      rintro ⟨-, hx, -, hother⟩
      rw [sharesPrefix_iff] at hx
      refine hother (BitVec.eq_of_toNat_eq ?_)
      omega
  · rw [enumerateSubnetHosts_refused hmask hp (Nat.lt_of_not_le hmp)]
    exact iff_of_false (List.not_mem_nil) fun h => hmp h.1

theorem usableHostCount_eq (hmask : iface.mask = blockMask 32 (32 - p)) (hp : p ≤ 32) :
    iface.usableHostCount =
      if p ≥ 31 then if p = 32 then 1 else 2 else 2 ^ (32 - p) - 2 := by
  have hlength : iface.prefixLength = p := by
    rw [NetworkInterface.prefixLength_of_mask hmask]
    omega
  simp only [NetworkInterface.usableHostCount, hlength]

end Interface

/-! ### From the adapter -/

theorem inetNtop_zero : inetNtop 0 = bytes "0.0.0.0" := by decide

/-- Unicast addresses of another family, and the unset address, are passed over. -/
theorem firstUnicast_append (snapshot : InterfaceSnapshot) {skipped : List UnicastAddress}
    (hskipped : ∀ u ∈ skipped, u.address = none ∨ u.address = some 0)
    (rest : List UnicastAddress) :
    firstUnicast snapshot (skipped ++ rest) = firstUnicast snapshot rest := by
  induction skipped with
  | nil => rfl
  | cons u skipped ih =>
      have hrest := ih fun v hv => hskipped v (List.mem_cons_of_mem _ hv)
      rw [List.cons_append, firstUnicast]
      rcases hskipped u (by simp) with hnone | hzero
      · rw [hnone]
        exact hrest
      · simp only [hzero, inetNtop_zero, or_true, if_true]
        exact hrest

theorem firstUnicast_address (snapshot : InterfaceSnapshot) {a : Address} (ha : a ≠ 0)
    {p : UInt8} (hp : p ≤ 32) (rest : List UnicastAddress) :
    firstUnicast snapshot (⟨some a, p⟩ :: rest) =
      { snapshot with ipv4 := inetNtop a,
                      netmask := inetNtop (blockMask 32 (32 - p.toNat)), hasIpv4 := true } := by
  have hne : ¬(inetNtop a = [] ∨ inetNtop a = bytes "0.0.0.0") := by
    rw [← inetNtop_zero]
    rintro (hnil | hzero)
    · exact inetNtop_ne_nil a hnil
    · exact ha (inetNtop_injective hzero)
  have hmask := inetNtop_ne_nil (blockMask 32 (32 - p.toNat))
  simp only [firstUnicast, if_neg hne, netmaskFromPrefix_eq hp, InterfaceSnapshot.mk.injEq,
    true_and]
  cases h : inetNtop (blockMask 32 (32 - p.toNat)) with
  | nil => exact absurd h hmask
  | cons c text => simp

theorem parseIpv4_inetNtop (x : Address) : parseIpv4 (inetNtop x) = some x := by
  rw [parseIpv4, if_neg (inetNtop_ne_nil x), inetPton_inetNtop]

/-- A candidate has an address, and carries what its texts denote. -/
theorem candidateOfSnapshot_some {snapshot : InterfaceSnapshot} {iface : NetworkInterface}
    (h : candidateOfSnapshot snapshot = some iface) :
    snapshot.hasIpv4 = true ∧ iface.ipv4 = snapshot.ipv4 ∧
      parseIpv4 snapshot.ipv4 = some iface.address ∧
      parseIpv4 snapshot.netmask = some iface.mask := by
  simp only [candidateOfSnapshot] at h
  split at h
  · cases h
  split at h
  · cases h
  split at h
  · cases h
  split at h
  · rename_i hhas _ _ _ address mask haddress hmask
    cases h
    exact ⟨by simpa using hhas, rfl, haddress, hmask⟩
  · cases h

/-- The candidate made of an adapter whose first usable address is `a` with
prefix length `p`. -/
theorem candidate_of_adapter {adapter : Adapter} {skipped rest : List UnicastAddress}
    {a : Address} {p : UInt8}
    (hunicast : adapter.unicastAddresses = skipped ++ ⟨some a, p⟩ :: rest)
    (hskipped : ∀ u ∈ skipped, u.address = none ∨ u.address = some 0) (ha : a ≠ 0) (hp : p ≤ 32)
    {iface : NetworkInterface}
    (hiface : iface ∈ filterCandidateInterfaces [snapshotOfAdapter adapter]) :
    iface.address = a ∧ iface.mask = blockMask 32 (32 - p.toNat) := by
  have hcandidate : candidateOfSnapshot (snapshotOfAdapter adapter) = some iface := by
    simpa [filterCandidateInterfaces] using hiface
  obtain ⟨-, -, haddress, hmask⟩ := candidateOfSnapshot_some hcandidate
  simp only [snapshotOfAdapter, hunicast, firstUnicast_append _ hskipped,
    firstUnicast_address _ ha hp, parseIpv4_inetNtop, Option.some.injEq] at haddress hmask
  exact ⟨haddress.symm, hmask.symm⟩

/-- An adapter that makes a candidate has a first usable address. -/
theorem unicast_of_candidate {adapter : Adapter} {iface : NetworkInterface}
    (h : candidateOfSnapshot (snapshotOfAdapter adapter) = some iface) :
    ∃ skipped a p rest, adapter.unicastAddresses = skipped ++ ⟨some a, p⟩ :: rest ∧
      (∀ u ∈ skipped, u.address = none ∨ u.address = some 0) ∧ a ≠ 0 ∧ p ≤ 32 := by
  have hfound (snapshot : InterfaceSnapshot) (hnone : snapshot.hasIpv4 = false)
      (unicast : List UnicastAddress) (hsome : (firstUnicast snapshot unicast).hasIpv4 = true) :
      ∃ skipped a p rest, unicast = skipped ++ ⟨some a, p⟩ :: rest ∧
        (∀ u ∈ skipped, u.address = none ∨ u.address = some 0) ∧ a ≠ 0 ∧ p ≤ 32 := by
    induction unicast with
    | nil => simp [firstUnicast, hnone] at hsome
    | cons u unicast ih =>
        obtain ⟨address, p⟩ := u
        by_cases hskip : address = none ∨ address = some 0
        · rw [show (⟨address, p⟩ : UnicastAddress) :: unicast = [⟨address, p⟩] ++ unicast from rfl,
            firstUnicast_append snapshot (by simpa using hskip)] at hsome
          obtain ⟨skipped, a, q, rest, rfl, hskipped, ha, hq⟩ := ih hsome
          exact ⟨⟨address, p⟩ :: skipped, a, q, rest, rfl,
            List.forall_mem_cons.mpr ⟨hskip, hskipped⟩, ha, hq⟩
        · obtain ⟨hsome', hzero⟩ := not_or.mp hskip
          obtain ⟨a, rfl⟩ := Option.ne_none_iff_exists'.mp hsome'
          have ha : a ≠ 0 := fun hzero' => hzero (congrArg some hzero')
          refine ⟨[], a, p, unicast, rfl, by simp, ha, ?_⟩
          by_contra hlarge
          have hmask : netmaskFromPrefix p = [] := by
            rw [netmaskFromPrefix, if_pos (UInt8.not_le.mp hlarge)]
          have hne : ¬(inetNtop a = [] ∨ inetNtop a = bytes "0.0.0.0") := by
            rw [← inetNtop_zero]
            exact not_or.mpr ⟨inetNtop_ne_nil a, fun h => ha (inetNtop_injective h)⟩
          simp [firstUnicast, if_neg hne, hmask] at hsome
  exact hfound _ rfl _ (candidateOfSnapshot_some h).1

/-- The interface made of an adapter, whichever addresses the adapter has. -/
theorem interface_of_adapter {adapter : Adapter} {iface : NetworkInterface}
    (h : candidateOfSnapshot (snapshotOfAdapter adapter) = some iface) :
    iface.ipv4 = inetNtop iface.address ∧ iface.prefixLength ≤ 32 ∧
      iface.mask = blockMask 32 (32 - iface.prefixLength) := by
  obtain ⟨skipped, a, p, rest, hunicast, hskipped, ha, hp⟩ := unicast_of_candidate h
  have hp' : p.toNat ≤ 32 := hp
  have hmem : iface ∈ filterCandidateInterfaces [snapshotOfAdapter adapter] := by
    simp [filterCandidateInterfaces, h]
  obtain ⟨haddress, hmask⟩ := candidate_of_adapter hunicast hskipped ha hp hmem
  have hlength : iface.prefixLength = p.toNat := by
    rw [NetworkInterface.prefixLength_of_mask hmask]
    omega
  refine ⟨?_, hlength ▸ hp', hlength ▸ hmask⟩
  rw [(candidateOfSnapshot_some h).2.1, haddress]
  simp only [snapshotOfAdapter, hunicast, firstUnicast_append _ hskipped,
    firstUnicast_address _ ha hp]

/-- The first stage's hosts, for every address, every on-link prefix length and
every minimal prefix: none below the minimum; otherwise, in ascending order, the
addresses that share the prefix and are neither the network nor the broadcast
address nor the adapter's own; the other address of a pair; nothing for a single
address. Their number is `usable_host_count`, less the adapter itself. -/
theorem enumerateSubnetHosts_of_adapter (adapter : Adapter) (skipped rest : List UnicastAddress)
    (a : Address) (p : UInt8) (m : ℕ)
    (hunicast : adapter.unicastAddresses = skipped ++ ⟨some a, p⟩ :: rest)
    (hskipped : ∀ u ∈ skipped, u.address = none ∨ u.address = some 0) (ha : a ≠ 0) (hp : p ≤ 32)
    (hm : 1 ≤ m) (iface : NetworkInterface)
    (hiface : iface ∈ filterCandidateInterfaces [snapshotOfAdapter adapter]) :
    iface.address = a ∧ iface.prefixLength = p.toNat ∧
      (p.toNat < m → enumerateSubnetHosts iface m = []) ∧
      (m ≤ p.toNat → p.toNat ≤ 30 →
        ∃ hosts : List Address, enumerateSubnetHosts iface m = hosts.map inetNtop ∧
          hosts.Pairwise (· < ·) ∧
          ∀ x, x ∈ hosts ↔ SharesPrefix p.toNat x a ∧ ¬IsNetworkAddress p.toNat x ∧
            ¬IsBroadcastAddress p.toNat x ∧ x ≠ a) ∧
      (m ≤ p.toNat → p = 31 → ∃ peer, enumerateSubnetHosts iface m = [inetNtop peer] ∧
        peer ≠ a ∧ SharesPrefix 31 peer a) ∧
      (m ≤ p.toNat → p = 32 → enumerateSubnetHosts iface m = []) ∧
      (m ≤ p.toNat → (enumerateSubnetHosts iface m).length =
        if IsHostAddress p.toNat a then iface.usableHostCount - 1 else iface.usableHostCount) := by
  obtain ⟨haddress, hmask⟩ := candidate_of_adapter hunicast hskipped ha hp hiface
  have hp' : p.toNat ≤ 32 := hp
  have hlength : iface.prefixLength = p.toNat := by
    rw [NetworkInterface.prefixLength_of_mask hmask]
    omega
  have hpair (h31 : p = 31) : iface.mask = blockMask 32 (32 - 31) := by rw [hmask, h31]; rfl
  have hsingle (h32 : p = 32) : iface.mask = blockMask 32 (32 - 32) := by rw [hmask, h32]; rfl
  refine ⟨haddress, hlength, enumerateSubnetHosts_refused hmask hp', ?_, ?_, ?_, ?_⟩
  · intro hmp h30
    refine ⟨_, enumerateSubnetHosts_of_le hmask hm hmp h30, pairwise_hostsFrom _ _ _, ?_⟩
    intro x
    rw [mem_hosts_iff hmask h30, haddress]
  · intro hmp h31
    have h := enumerateSubnetHosts_pair (hpair h31) (m := m) (by simpa [h31] using hmp)
    rwa [haddress] at h
  · intro hmp h32
    exact enumerateSubnetHosts_single (hsingle h32) (by simpa [h32] using hmp)
  · intro hmp
    rw [usableHostCount_eq hmask hp']
    rcases Nat.lt_trichotomy p.toNat 31 with hlt | h31 | hgt
    · have h30 : p.toNat ≤ 30 := by omega
      have husable : (if p.toNat ≥ 31 then if p.toNat = 32 then 1 else 2
          else 2 ^ (32 - p.toNat) - 2) = 2 ^ (32 - p.toNat) - 2 := if_neg (by omega)
      rw [enumerateSubnetHosts_of_le hmask hm hmp h30, List.length_map, length_hosts hmask h30,
        haddress, husable]
      split <;> rfl
    · have hp31 : p = 31 := UInt8.toNat_inj.mp h31
      obtain ⟨peer, hpeer, -, -⟩ := enumerateSubnetHosts_pair (hpair hp31) (m := m)
        (by rwa [← h31])
      have hhost : IsHostAddress p.toNat a := fun h => by omega
      rw [hpeer, if_pos hhost, if_pos (by omega), if_neg (by omega)]
      rfl
    · have hp32 : p = 32 := UInt8.toNat_inj.mp (Nat.le_antisymm hp' hgt)
      have hhost : IsHostAddress p.toNat a := fun h => by omega
      rw [enumerateSubnetHosts_single (hsingle hp32) (Nat.le_trans hmp hp'), if_pos hhost,
        if_pos (by omega), if_pos (Nat.le_antisymm hp' hgt)]
      rfl

/-- An adapter with an unset address and then `10.0.0.1/30`. -/
def sampleAdapter : Adapter where
  friendlyName := "Ethernet 2"
  adapterName := none
  description := "USB LAN"
  ifIndex := 7
  physicalAddress := [0, 1, 2, 3, 4, 5]
  ifType := 6
  operStatusUp := true
  unicastAddresses := [⟨some 0, 8⟩, ⟨some (ofOctets 10 0 0 1), 30⟩]

def sampleInterface : NetworkInterface where
  name := "Ethernet 2"
  ipv4 := "10.0.0.1"
  netmask := "255.255.255.252"
  address := ofOctets 10 0 0 1
  mask := blockMask 32 2
  isUp := true
  isRunning := true
  ifIndex := 7
  mac := "00:01:02:03:04:05"
  description := "USB LAN"

theorem enumerateSubnetHosts_of_adapter_sample :
    sampleInterface ∈ filterCandidateInterfaces [snapshotOfAdapter sampleAdapter] ∧
      sampleInterface.prefixLength = 30 ∧ (enumerateSubnetHosts sampleInterface 22).length = 1 :=
  have hmem : sampleInterface ∈ filterCandidateInterfaces [snapshotOfAdapter sampleAdapter] := by
    decide
  have h := enumerateSubnetHosts_of_adapter sampleAdapter [⟨some 0, 8⟩] [] (ofOctets 10 0 0 1) 30 22
    rfl (by decide) (by decide) (by decide) (by decide) sampleInterface hmem
  ⟨hmem, h.2.1, by rw [h.2.2.2.2.2.2 (by decide)]; decide⟩

end DeviceDiscovery.Scanner
