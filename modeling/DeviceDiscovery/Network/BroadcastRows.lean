import DeviceDiscovery.Network.LinkLayerHosts

/-!
Broadcast rows of the neighbour cache.

`select_neighbour_entries` keeps the first usable row of each address. A row is
passed over for its address when that is the limited broadcast address or a
multicast address; the broadcast address of the interface's own subnet is not
known here, and the hardware address is only compared with zero. Windows keeps a
permanent row for the subnet broadcast address on every adapter, so such rows are
kept (`selectNeighbourEntries_unicast_iff` says exactly when).
-/

namespace DeviceDiscovery.Network

open Foundation DeviceDiscovery.Platform

def broadcastMac : Bytes := "ff:ff:ff:ff:ff:ff"

/-- An entry for one station: its address is neither the limited broadcast
address, nor that of the interface's subnet, nor in 224.0.0.0/4, and its hardware
address is not the broadcast one. The subnet's broadcast address is what `broadcast()`
makes of every mask, `network ||| ~~~mask`: with a mask of 31 bits that is the upper of
the two addresses of the link, the station's or the interface's own, and with one of
32 bits it is the address of the interface. -/
structure IsUnicast (iface : NetworkInterface) (o : L2Observation) : Prop where
  limited : inetPton o.ip ≠ some 0xFFFFFFFF#32
  directed : inetPton o.ip ≠ some iface.broadcast
  multicast : ∀ x, inetPton o.ip = some x → x.toNat / 2 ^ 28 ≠ 14
  mac : o.mac ≠ broadcastMac

/-! ### What is kept -/

namespace NeighbourEntry

variable (ifIndex : UInt32)

/-- The rows that the loop feeds to `add_observation` and that it takes. -/
def IsUsable (e : NeighbourEntry) : Prop :=
  e.ifIndex = ifIndex ∧ e.reachable = true ∧ isZeroMac e.mac = false ∧
    isUninterestingAddress e.ip = false

instance : DecidablePred (IsUsable ifIndex) := fun e =>
  inferInstanceAs (Decidable (e.ifIndex = ifIndex ∧ e.reachable = true ∧
    isZeroMac e.mac = false ∧ isUninterestingAddress e.ip = false))

/-- The first usable row of its address. -/
def IsFirst (entries : List NeighbourEntry) (e : NeighbourEntry) : Prop :=
  entries.find? (fun d => decide (d.IsUsable ifIndex ∧ d.ip = e.ip)) = some e

def observation (e : NeighbourEntry) : L2Observation := ⟨e.ip, e.mac, .neighbourCache⟩

theorem IsFirst.mem {entries : List NeighbourEntry} {e : NeighbourEntry}
    (h : IsFirst ifIndex entries e) : e ∈ entries := List.mem_of_find?_eq_some h

theorem IsFirst.isUsable {entries : List NeighbourEntry} {e : NeighbourEntry}
    (h : IsFirst ifIndex entries e) : e.IsUsable ifIndex := by
  have hfound := List.find?_some h
  exact (of_decide_eq_true hfound).1

/-- An address with a usable row has a first one. -/
theorem exists_isFirst {entries : List NeighbourEntry} {e : NeighbourEntry} (he : e ∈ entries)
    (husable : e.IsUsable ifIndex) : ∃ d, IsFirst ifIndex entries d ∧ d.ip = e.ip := by
  have hsome : (entries.find? fun d => decide (d.IsUsable ifIndex ∧ d.ip = e.ip)).isSome = true :=
    List.find?_isSome.mpr ⟨e, he, decide_eq_true ⟨husable, rfl⟩⟩
  obtain ⟨d, hd⟩ := Option.isSome_iff_exists.mp hsome
  have hfound := List.find?_some hd
  have hip : d.ip = e.ip := (of_decide_eq_true hfound).2
  exact ⟨d, by rw [IsFirst, hip]; exact hd, hip⟩

theorem isFirst_append_iff (entries : List NeighbourEntry) (e x : NeighbourEntry) :
    IsFirst ifIndex (entries ++ [e]) x ↔ IsFirst ifIndex entries x ∨
      (∀ d ∈ entries, d.IsUsable ifIndex → d.ip ≠ e.ip) ∧ e.IsUsable ifIndex ∧ x = e := by
  rw [IsFirst, List.find?_append, IsFirst]
  cases hfind : entries.find? fun d => decide (d.IsUsable ifIndex ∧ d.ip = x.ip) with
  | some d =>
      rw [Option.some_or]
      constructor
      · exact .inl
      · rintro (hold | ⟨hnone, -, rfl⟩)
        · exact hold
        · have hfound := List.find?_some hfind
          obtain ⟨husable, hip⟩ := of_decide_eq_true hfound
          exact absurd hip (hnone d (List.mem_of_find?_eq_some hfind) husable)
  | none =>
      rw [Option.none_or, List.find?_singleton]
      have hnone : ∀ d ∈ entries, d.IsUsable ifIndex → d.ip ≠ x.ip := by
        intro d hd husable hip
        have := List.find?_eq_none.mp hfind d hd
        simp [husable, hip] at this
      constructor
      · intro h
        split at h
        · rename_i hlast
          obtain rfl := Option.some.inj h
          exact .inr ⟨hnone, (of_decide_eq_true hlast).1, rfl⟩
        · cases h
      · rintro (hold | ⟨-, husable, rfl⟩)
        · cases hold
        · rw [if_pos (decide_eq_true ⟨husable, rfl⟩)]

end NeighbourEntry

open NeighbourEntry

theorem isKnown_of_mem {ip : Bytes} {observations : List L2Observation}
    (hmac : ∀ o ∈ observations, isZeroMac o.mac = false)
    (hmem : ip ∈ observations.map L2Observation.ip) : isKnown ip observations = true := by
  induction observations with
  | nil => cases hmem
  | cons o observations ih =>
      rw [isKnown]
      by_cases hip : o.ip = ip
      · rw [if_pos hip, hmac o (by simp)]
        rfl
      · rw [if_neg hip]
        apply ih fun p hp => hmac p (by simp [hp])
        simpa [Ne.symm hip] using hmem

theorem selectNeighbourEntries_append (entries : List NeighbourEntry) (e : NeighbourEntry)
    (ifIndex : UInt32) : selectNeighbourEntries (entries ++ [e]) ifIndex =
      if e.IsUsable ifIndex then
        upsert L2Observation.ip fillMac e.observation (selectNeighbourEntries entries ifIndex)
      else selectNeighbourEntries entries ifIndex := by
  rw [selectNeighbourEntries, List.foldl_append, List.foldl_cons, List.foldl_nil,
    ← selectNeighbourEntries, addObservation]
  unfold NeighbourEntry.IsUsable observation
  by_cases hindex : e.ifIndex = ifIndex <;> by_cases hreachable : e.reachable = true <;>
    by_cases hmac : isZeroMac e.mac = true <;>
      by_cases hip : isUninterestingAddress e.ip = true <;> simp [hindex, hreachable, hmac, hip]

/-- The observations are those of the first usable rows. -/
theorem mem_selectNeighbourEntries_iff (entries : List NeighbourEntry) (ifIndex : UInt32)
    (o : L2Observation) : o ∈ selectNeighbourEntries entries ifIndex ↔
      ∃ e, IsFirst ifIndex entries e ∧ o = e.observation := by
  induction entries using List.reverseRecOn generalizing o with
  | nil => simp [selectNeighbourEntries, IsFirst]
  | append_singleton entries e ih =>
      simp only [selectNeighbourEntries_append, isFirst_append_iff]
      by_cases husable : e.IsUsable ifIndex
      · rw [if_pos husable]
        by_cases hold : ∃ d ∈ entries, d.IsUsable ifIndex ∧ d.ip = e.ip
        · -- The address has been kept with a hardware address.
          obtain ⟨d, hd, hdusable, hip⟩ := hold
          have hmac : ∀ p ∈ selectNeighbourEntries entries ifIndex, isZeroMac p.mac = false := by
            intro p hp
            obtain ⟨first, hfirst, rfl⟩ := (ih p).mp hp
            exact hfirst.isUsable.2.2.1
          have hkept : e.ip ∈ (selectNeighbourEntries entries ifIndex).map L2Observation.ip := by
            obtain ⟨first, hfirst, hsame⟩ := exists_isFirst ifIndex hd hdusable
            exact List.mem_map.mpr ⟨first.observation, (ih _).mpr ⟨first, hfirst, rfl⟩,
              hsame.trans hip⟩
          rw [upsert_of_isKnown (isKnown_of_mem hmac hkept), ih]
          constructor
          · rintro ⟨first, hfirst, rfl⟩
            exact ⟨first, .inl hfirst, rfl⟩
          · rintro ⟨first, hfirst | ⟨hnone, -, -⟩, rfl⟩
            · exact ⟨first, hfirst, rfl⟩
            · exact absurd hip (hnone d hd hdusable)
        · have hnew : ∀ d ∈ entries, d.IsUsable ifIndex → d.ip ≠ e.ip :=
            fun d hd hdusable hip => hold ⟨d, hd, hdusable, hip⟩
          have hmem : e.ip ∉ (selectNeighbourEntries entries ifIndex).map L2Observation.ip := by
            intro hmem
            obtain ⟨p, hp, hpip⟩ := List.mem_map.mp hmem
            obtain ⟨first, hfirst, rfl⟩ := (ih p).mp hp
            exact hnew first hfirst.mem hfirst.isUsable hpip
          rw [upsert_of_notMem hmem, List.mem_append, List.mem_singleton, ih]
          constructor
          · rintro (⟨first, hfirst, rfl⟩ | rfl)
            · exact ⟨first, .inl hfirst, rfl⟩
            · exact ⟨e, .inr ⟨hnew, husable, rfl⟩, rfl⟩
          · rintro ⟨first, hfirst | ⟨-, -, rfl⟩, rfl⟩
            · exact .inl ⟨first, hfirst, rfl⟩
            · exact .inr rfl
      · rw [if_neg husable, ih]
        constructor
        · rintro ⟨first, hfirst, rfl⟩
          exact ⟨first, .inl hfirst, rfl⟩
        · rintro ⟨first, hfirst | ⟨-, huse, -⟩, rfl⟩
          · exact ⟨first, hfirst, rfl⟩
          · exact absurd huse husable

/-! ### Broadcast rows -/

/-- The addresses that are of interest are below the multicast ones. -/
theorem exists_of_isUninterestingAddress {ip : Bytes} (h : isUninterestingAddress ip = false) :
    ∃ x, inetPton ip = some x ∧ x.toNat < 0xE0000000 := by
  rw [isUninterestingAddress] at h
  split at h
  · cases h
  cases hx : inetPton ip with
  | none => simp [hx] at h
  | some x =>
      simp only [hx, decide_eq_false_iff_not] at h
      have hblock : (x &&& 0xF0000000#32).toNat = x.toNat / 2 ^ 28 * 2 ^ 28 :=
        toNat_and_blockMask x 28
      have hbelow : (x &&& 0xF0000000#32).toNat < 0xE0000000 := Nat.lt_of_not_le h
      exact ⟨x, rfl, by omega⟩

variable (iface : NetworkInterface)

/-- No row that would be taken has the broadcast address of the interface's
subnet, and none that is the first of its address has the broadcast hardware
address. -/
structure NoBroadcastRow (taken : Bytes → Prop) (entries : List NeighbourEntry) : Prop where
  address : ∀ e ∈ entries, e.IsUsable iface.ifIndex → taken e.ip →
    inetPton e.ip ≠ some iface.broadcast
  mac : ∀ e, IsFirst iface.ifIndex entries e → taken e.ip → e.mac ≠ broadcastMac

theorem unicast_iff (taken : Bytes → Prop) (entries : List NeighbourEntry) :
    (∀ o ∈ selectNeighbourEntries entries iface.ifIndex, taken o.ip → IsUnicast iface o) ↔
      NoBroadcastRow iface taken entries := by
  constructor
  · intro h
    have hfirst (e : NeighbourEntry) (he : IsFirst iface.ifIndex entries e) (htaken : taken e.ip) :
        IsUnicast iface e.observation :=
      h _ ((mem_selectNeighbourEntries_iff _ _ _).mpr ⟨e, he, rfl⟩) htaken
    refine ⟨fun e he husable htaken => ?_, fun e he htaken => (hfirst e he htaken).mac⟩
    obtain ⟨d, hd, hip⟩ := exists_isFirst iface.ifIndex he husable
    have hdirected := (hfirst d hd (hip ▸ htaken)).directed
    rwa [observation, hip] at hdirected
  · rintro ⟨haddress, hmac⟩ o ho htaken
    obtain ⟨e, he, rfl⟩ := (mem_selectNeighbourEntries_iff _ _ _).mp ho
    obtain ⟨x, hx, hbelow⟩ := exists_of_isUninterestingAddress he.isUsable.2.2.2
    refine ⟨?_, haddress e he.mem he.isUsable htaken, ?_, hmac e he htaken⟩
    · show inetPton e.ip ≠ _
      rw [hx]
      intro hones
      rw [Option.some.inj hones] at hbelow
      exact absurd hbelow (by decide)
    · intro y hy
      rw [Option.some.inj (hx.symm.trans hy)] at hbelow
      omega

/-- What the loops over a cache read feed to `add_observation`. -/
def takenFromCache (table : Option (List IpNetRow)) : List L2Observation :=
  (readNeighbourCache table iface.ifIndex).filter fun o => o.ip ≠ iface.ipv4

theorem addNeighbours_eq (observations : List L2Observation) (table : Option (List IpNetRow)) :
    addNeighbours iface observations (readNeighbourCache table iface.ifIndex) =
      (takenFromCache iface table).foldl addObservation observations := by
  rw [takenFromCache, List.foldl_filter, addNeighbours]
  simp only [decide_eq_true_eq]

theorem readNeighbourCache_eq_select (table : Option (List IpNetRow)) (ifIndex : UInt32) :
    readNeighbourCache table ifIndex =
      selectNeighbourEntries ((table.getD []).map entryOfRow) ifIndex := by
  cases table <;> rfl

/-- A table gives entries for stations only exactly when it has no broadcast row
of the interface, and a discovery takes no others from the cache exactly when
there is none but for the interface's own address. -/
theorem selectNeighbourEntries_unicast_iff (entries : List NeighbourEntry)
    (table : Option (List IpNetRow)) :
    ((∀ o ∈ selectNeighbourEntries entries iface.ifIndex, IsUnicast iface o) ↔
        NoBroadcastRow iface (fun _ => True) entries) ∧
      ((∀ o ∈ takenFromCache iface table, IsUnicast iface o) ↔
        NoBroadcastRow iface (· ≠ iface.ipv4) ((table.getD []).map entryOfRow)) := by
  constructor
  · rw [← unicast_iff]
    simp only [true_implies]
  · rw [← unicast_iff, ← readNeighbourCache_eq_select, takenFromCache]
    simp only [List.mem_filter, decide_eq_true_eq, and_imp]

/-- `192.168.10.1/24`. -/
def linkInterface : NetworkInterface where
  name := "Ethernet 2"
  ipv4 := "192.168.10.1"
  netmask := "255.255.255.0"
  address := ofOctets 192 168 10 1
  mask := blockMask 32 8
  ifIndex := 11

/-- The permanent row that Windows keeps for the subnet broadcast address. -/
def broadcastRow : IpNetRow :=
  ⟨11, ofOctets 192 168 10 255, List.replicate 6 0xFF, .permanent⟩

theorem not_unicast_broadcastRow :
    (¬∀ o ∈ selectNeighbourEntries [entryOfRow broadcastRow] 11, IsUnicast linkInterface o) ∧
      ¬∀ o ∈ takenFromCache linkInterface (some [broadcastRow]), IsUnicast linkInterface o := by
  have hentry : selectNeighbourEntries [entryOfRow broadcastRow] 11 =
      [⟨"192.168.10.255", "ff:ff:ff:ff:ff:ff", .neighbourCache⟩] := by decide
  have hbad : ¬IsUnicast linkInterface
      ⟨"192.168.10.255", "ff:ff:ff:ff:ff:ff", .neighbourCache⟩ := fun h => h.mac rfl
  have htaken : takenFromCache linkInterface (some [broadcastRow]) =
      [⟨"192.168.10.255", "ff:ff:ff:ff:ff:ff", .neighbourCache⟩] := by decide
  rw [hentry, htaken]
  exact ⟨fun h => hbad (h _ (by simp)), fun h => hbad (h _ (by simp))⟩

end DeviceDiscovery.Network
