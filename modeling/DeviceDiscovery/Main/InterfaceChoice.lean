import DeviceDiscovery.Foundation.FilterMap
import DeviceDiscovery.Main.RunEnds
import DeviceDiscovery.Scanner.HostEnumeration

/-!
The interface of a run (`select_interface` and `network/interface_discovery.cpp`).

Windows is asked for the adapters up to four times. An adapter is eligible when it
is connected, is no loopback device, carries an IPv4 address and no virtual name,
and has the name that `--interface` asks for. A run goes on with the interface of
an adapter exactly when no other is eligible (`interface_choice`).
-/

namespace DeviceDiscovery.Main

open Foundation DeviceDiscovery.Platform DeviceDiscovery.Network DeviceDiscovery.Scanner
  DeviceDiscovery.Ssh DeviceDiscovery.Parser DeviceDiscovery.Output

/-! ### The adapters -/

/-- The first of some answers that does not say that the buffer was too small, if there
is one. -/
def settledAnswer (answers : List AdapterQuery) : AdapterQuery :=
  (answers.find? (· ≠ .bufferOverflow)).getD .bufferOverflow

/-- What `query_adapter_addresses` makes of an answer. -/
def adaptersOf (formatMessage : ℤ → Option Bytes) : AdapterQuery → Except Bytes (List Adapter)
  | .success adapters => .ok adapters
  | .bufferOverflow => .error "GetAdaptersAddresses() kept reporting ERROR_BUFFER_OVERFLOW"
  | .failed rc =>
      .error (bytes "GetAdaptersAddresses() failed: " ++ socketErrorText formatMessage rc)

theorem queryAdapterAddresses_eq (formatMessage : ℤ → Option Bytes) (answer : ℕ → AdapterQuery)
    (left attempt : ℕ) : queryAdapterAddresses formatMessage answer left attempt =
      adaptersOf formatMessage (settledAnswer ((List.range' attempt left).map answer)) := by
  induction left generalizing attempt with
  | zero => rfl
  | succ left ih =>
      rw [queryAdapterAddresses, List.range'_succ, List.map_cons, settledAnswer, List.find?_cons]
      cases answer attempt with
      | success adapters => rfl
      | bufferOverflow => exact ih (attempt + 1)
      | failed rc => rfl

/-- An adapter with a name that no virtual adapter has. -/
def PlainName (name : Bytes) : Prop :=
  ∀ piece, piece <:+: name → piece.map toLower ∉ kVirtualMarkers

theorem isVirtualInterfaceName_eq_false_iff (name : Bytes) :
    isVirtualInterfaceName name = false ↔ PlainName name := by
  simp only [isVirtualInterfaceName, List.any_eq_false, contains_iff, List.infix_map_iff]
  constructor
  · intro h piece hpiece hmarker
    exact h _ hmarker ⟨piece, hpiece, rfl⟩
  · rintro h marker hmarker ⟨piece, hpiece, rfl⟩
    exact h piece hpiece hmarker

/-- The name of an adapter in the program. -/
def adapterName (adapter : Adapter) : Bytes :=
  if adapter.friendlyName = [] then adapter.adapterName.getD [] else adapter.friendlyName

/-- A unicast address that is an IPv4 address and not the unset one. -/
def IsSet (unicast : UnicastAddress) : Bool :=
  unicast.address != none && unicast.address != some 0

/-- An adapter on a physical link, with its first address and prefix length. -/
structure OnWire (adapter : Adapter) (address : Address) (prefixLength : UInt8) : Prop where
  connected : adapter.operStatusUp = true
  physical : adapter.ifType ≠ ifTypeSoftwareLoopback
  plainName : PlainName (adapterName adapter)
  plainDescription : PlainName adapter.description
  first : adapter.unicastAddresses.find? IsSet = some ⟨some address, prefixLength⟩
  short : prefixLength ≤ 32

/-- The interface that the program makes of an adapter. -/
def interfaceOf (adapter : Adapter) (address : Address) (prefixLength : UInt8) :
    NetworkInterface where
  name := adapterName adapter
  ipv4 := inetNtop address
  netmask := inetNtop (blockMask 32 (32 - prefixLength.toNat))
  address := address
  mask := blockMask 32 (32 - prefixLength.toNat)
  isLoopback := false
  isUp := true
  isRunning := true
  isPointToPoint := adapter.ifType == ifTypePpp || adapter.ifType == ifTypeTunnel
  ifIndex := adapter.ifIndex
  mac := formatMac adapter.physicalAddress
  description := adapter.description

/-- The loop takes the first address that is set, with its prefix length, good or bad. -/
theorem firstUnicast_eq (snapshot : InterfaceSnapshot) (unicast : List UnicastAddress) :
    firstUnicast snapshot unicast =
      match unicast.find? IsSet with
      | some ⟨some address, prefixLength⟩ => { snapshot with
          ipv4 := inetNtop address
          netmask := netmaskFromPrefix prefixLength
          hasIpv4 := !(netmaskFromPrefix prefixLength).isEmpty }
      | _ => snapshot := by
  induction unicast with
  | nil => rfl
  | cons first rest ih =>
      obtain ⟨address, prefixLength⟩ := first
      rw [firstUnicast, List.find?_cons]
      cases address with
      | none => exact ih
      | some address =>
          have hset : (inetNtop address = [] ∨ inetNtop address = bytes "0.0.0.0") ↔
              address = 0 := by
            rw [← inetNtop_zero, inetNtop_injective.eq_iff]
            exact or_iff_right (inetNtop_ne_nil address)
          dsimp only
          by_cases hzero : address = 0
          · rw [if_pos (hset.mpr hzero), hzero]
            exact ih
          · have hfirst : IsSet ⟨some address, prefixLength⟩ = true := by
              simpa [IsSet] using hzero
            rw [if_neg (mt hset.mp hzero), hfirst]

/-- The text of the netmask is missing when the prefix length is none of an IPv4
address. -/
theorem netmaskFromPrefix_eq_nil_iff (prefixLength : UInt8) :
    netmaskFromPrefix prefixLength = [] ↔ ¬prefixLength ≤ 32 := by
  constructor
  · intro hnil hshort
    rw [netmaskFromPrefix_eq hshort] at hnil
    exact inetNtop_ne_nil _ hnil
  · intro hlong
    rw [netmaskFromPrefix, if_pos (UInt8.not_le.mp hlong)]

theorem snapshotOfAdapter_of_first {adapter : Adapter} {address : Address} {prefixLength : UInt8}
    (hfirst : adapter.unicastAddresses.find? IsSet = some ⟨some address, prefixLength⟩)
    (hshort : prefixLength ≤ 32) : snapshotOfAdapter adapter = {
      name := adapterName adapter
      ipv4 := inetNtop address
      netmask := inetNtop (blockMask 32 (32 - prefixLength.toNat))
      isLoopback := adapter.ifType == ifTypeSoftwareLoopback
      isUp := adapter.operStatusUp
      isRunning := adapter.operStatusUp
      isPointToPoint := adapter.ifType == ifTypePpp || adapter.ifType == ifTypeTunnel
      hasIpv4 := true
      ifIndex := adapter.ifIndex
      mac := formatMac adapter.physicalAddress
      description := adapter.description } := by
  have hsome : (inetNtop (blockMask 32 (32 - prefixLength.toNat))).isEmpty = false := by
    rw [List.isEmpty_eq_false_iff]
    exact inetNtop_ne_nil _
  rw [snapshotOfAdapter, firstUnicast_eq, hfirst]
  dsimp only
  rw [netmaskFromPrefix_eq hshort, hsome]
  rfl

/-- The candidates are the interfaces of the adapters on a physical link. -/
theorem candidateOfSnapshot_eq_some_iff (adapter : Adapter) (iface : NetworkInterface) :
    candidateOfSnapshot (snapshotOfAdapter adapter) = some iface ↔
      ∃ address prefixLength, OnWire adapter address prefixLength ∧
        iface = interfaceOf adapter address prefixLength := by
  have hnone {adapter : Adapter} (h : (snapshotOfAdapter adapter).hasIpv4 = false) :
      candidateOfSnapshot (snapshotOfAdapter adapter) = none := by
    simp [candidateOfSnapshot, h]
  cases hfirst : adapter.unicastAddresses.find? IsSet with
  | none =>
      have hmissing : (snapshotOfAdapter adapter).hasIpv4 = false := by
        simp [snapshotOfAdapter, firstUnicast_eq, hfirst]
      rw [hnone hmissing]
      refine iff_of_false (Option.some_ne_none iface).symm ?_
      rintro ⟨address, prefixLength, honwire, -⟩
      cases hfirst.symm.trans honwire.first
  | some unicast =>
      obtain ⟨address, prefixLength⟩ := unicast
      obtain ⟨address, rfl⟩ : ∃ a, address = some a := by
        have hset := List.find?_some hfirst
        apply Option.ne_none_iff_exists'.mp
        rintro rfl
        exact absurd hset (by simp [IsSet])
      by_cases hshort : prefixLength ≤ 32
      · rw [snapshotOfAdapter_of_first hfirst hshort]
        simp only [candidateOfSnapshot, parseIpv4_inetNtop, Option.ite_none_left_eq_some,
          Option.some.injEq, not_or, Bool.not_eq_true, Bool.not_eq_false, beq_eq_false_iff_ne,
          isVirtualInterfaceName_eq_false_iff, Bool.not_true, Bool.false_eq_true, not_false_eq_true,
          true_and, Bool.not_eq_eq_eq_not]
        constructor
        · rintro ⟨⟨hphysical, hup, -⟩, ⟨hname, hdescription⟩, rfl⟩
          refine ⟨address, prefixLength, ⟨hup, hphysical, hname, hdescription, hfirst, hshort⟩, ?_⟩
          have hloopback : (adapter.ifType == ifTypeSoftwareLoopback) = false := by
            simpa using hphysical
          rw [hup, hloopback, interfaceOf]
        · rintro ⟨a, p, honwire, rfl⟩
          cases hfirst.symm.trans honwire.first
          have hloopback : (adapter.ifType == ifTypeSoftwareLoopback) = false := by
            simpa using honwire.physical
          refine ⟨⟨honwire.physical, honwire.connected, honwire.connected⟩,
            ⟨honwire.plainName, honwire.plainDescription⟩, ?_⟩
          rw [honwire.connected, hloopback, interfaceOf]
      · have hmissing : (snapshotOfAdapter adapter).hasIpv4 = false := by
          simp [snapshotOfAdapter, firstUnicast_eq, hfirst,
            (netmaskFromPrefix_eq_nil_iff prefixLength).mpr hshort]
        rw [hnone hmissing]
        refine iff_of_false (Option.some_ne_none iface).symm ?_
        rintro ⟨a, p, honwire, -⟩
        cases hfirst.symm.trans honwire.first
        exact hshort honwire.short

/-! ### The choice -/

section Choice

variable (options : Options)

/-- The adapter makes the interface `iface`, and it has the name that is asked for, if
any is. -/
def Eligible (adapter : Adapter) (iface : NetworkInterface) : Prop :=
  (∃ address prefixLength, OnWire adapter address prefixLength ∧
    iface = interfaceOf adapter address prefixLength) ∧
    (options.interfaceHint = [] ∨ iface.name = options.interfaceHint)

def eligibleInterface (adapter : Adapter) : Option NetworkInterface :=
  (candidateOfSnapshot (snapshotOfAdapter adapter)).filter fun iface =>
    options.interfaceHint = [] ∨ iface.name = options.interfaceHint

theorem eligibleInterface_eq_some_iff (adapter : Adapter) (iface : NetworkInterface) :
    eligibleInterface options adapter = some iface ↔ Eligible options adapter iface := by
  rw [eligibleInterface, Option.filter_eq_some_iff, candidateOfSnapshot_eq_some_iff,
    decide_eq_true_eq]
  rfl

theorem eligibleInterface_eq_none_iff (adapter : Adapter) :
    eligibleInterface options adapter = none ↔ ∀ iface, ¬Eligible options adapter iface := by
  simp only [← eligibleInterface_eq_some_iff, Option.eq_none_iff_forall_ne_some]

theorem hintedCandidates_eq (adapters : List Adapter) :
    hintedCandidates options (filterCandidateInterfaces (adapters.map snapshotOfAdapter)) =
      adapters.filterMap (eligibleInterface options) := by
  rw [filterCandidateInterfaces, List.filterMap_map, hintedCandidates]
  split
  · rename_i hnone
    apply List.filterMap_congr
    intro adapter _
    show candidateOfSnapshot (snapshotOfAdapter adapter) = eligibleInterface options adapter
    rw [eligibleInterface]
    cases candidateOfSnapshot (snapshotOfAdapter adapter) with
    | none => rfl
    | some iface => exact (Option.filter_some_pos (by simp [hnone])).symm
  · rename_i hsome
    rw [List.filter_filterMap]
    apply List.filterMap_congr
    intro adapter _
    simp [eligibleInterface, hsome]

variable (world : World)

/-- The answer that the program goes by. -/
def adapterAnswer : AdapterQuery := settledAnswer ((List.range 4).map world.adapters)

theorem discoverCandidateInterfaces_eq (formatMessage : ℤ → Option Bytes) :
    discoverCandidateInterfaces formatMessage world.adapters =
      (adaptersOf formatMessage (adapterAnswer world)).map fun adapters =>
        filterCandidateInterfaces (adapters.map snapshotOfAdapter) := by
  rw [discoverCandidateInterfaces, enumerateInterfaces, queryAdapterAddresses_eq, adapterAnswer,
    List.range_eq_range']
  cases adaptersOf formatMessage (settledAnswer ((List.range' 0 4).map world.adapters)) with
  | error what => rfl
  | ok adapters => rfl

variable {options world}

/-- A list of candidates is what `--interface` leaves of those of the answer. -/
theorem exists_candidates_iff (p : List NetworkInterface → Prop) :
    (∃ candidates, discoverCandidateInterfaces world.env.formatMessage world.adapters =
        .ok candidates ∧ p (hintedCandidates options candidates)) ↔
      ∃ adapters, adapterAnswer world = .success adapters ∧
        p (adapters.filterMap (eligibleInterface options)) := by
  rw [discoverCandidateInterfaces_eq]
  constructor
  · rintro ⟨candidates, hcandidates, hp⟩
    cases hanswer : adapterAnswer world with
    | success adapters =>
        rw [hanswer] at hcandidates
        obtain rfl := Except.ok.inj hcandidates
        exact ⟨adapters, rfl, hintedCandidates_eq options adapters ▸ hp⟩
    | bufferOverflow =>
        rw [hanswer] at hcandidates
        cases hcandidates
    | failed rc =>
        rw [hanswer] at hcandidates
        cases hcandidates
  · rintro ⟨adapters, hanswer, hp⟩
    rw [hanswer]
    exact ⟨_, rfl, (hintedCandidates_eq options adapters).symm ▸ hp⟩

theorem candidates_failed_iff :
    (∃ what, discoverCandidateInterfaces world.env.formatMessage world.adapters = .error what) ↔
      ∀ adapters, adapterAnswer world ≠ .success adapters := by
  rw [discoverCandidateInterfaces_eq]
  cases hanswer : adapterAnswer world with
  | success adapters =>
      refine iff_of_false ?_ fun h => h adapters rfl
      rintro ⟨what, hwhat⟩
      cases hwhat
  | bufferOverflow => exact iff_of_true ⟨_, rfl⟩ fun _ h => by cases h
  | failed rc => exact iff_of_true ⟨_, rfl⟩ fun _ h => by cases h

end Choice

section Ends

variable {options : Options} {world : World}

theorem selects_iff {password : Bytes} {iface : NetworkInterface} :
    Selects options world password iface ↔
      configuredPassword options world = .ok password ∧ ∃ candidates,
        discoverCandidateInterfaces world.env.formatMessage world.adapters = .ok candidates ∧
          hintedCandidates options candidates = [iface] :=
  ⟨fun h => ⟨h.password, h.iface⟩, fun h => ⟨h.1, h.2⟩⟩

theorem endsIn_noInterface_iff : EndsIn options world .noInterface ↔
    (∃ password, configuredPassword options world = .ok password) ∧ ∃ candidates,
      discoverCandidateInterfaces world.env.formatMessage world.adapters = .ok candidates ∧
        hintedCandidates options candidates = [] := by
  constructor
  · intro h
    cases h with
    | noInterface hpassword hcandidates hnone => exact ⟨⟨_, hpassword⟩, _, hcandidates, hnone⟩
  · rintro ⟨⟨password, hpassword⟩, candidates, hcandidates, hnone⟩
    exact .noInterface hpassword hcandidates hnone

theorem endsIn_multipleInterfaces_iff : EndsIn options world .multipleInterfaces ↔
    (∃ password, configuredPassword options world = .ok password) ∧ ∃ candidates,
      discoverCandidateInterfaces world.env.formatMessage world.adapters = .ok candidates ∧
        2 ≤ (hintedCandidates options candidates).length := by
  constructor
  · intro h
    cases h with
    | multipleInterfaces hpassword hcandidates hmany =>
        exact ⟨⟨_, hpassword⟩, _, hcandidates, hmany⟩
  · rintro ⟨⟨password, hpassword⟩, candidates, hcandidates, hmany⟩
    exact .multipleInterfaces hpassword hcandidates hmany

theorem endsIn_adaptersUnread_iff : EndsIn options world .adaptersUnread ↔
    (∃ password, configuredPassword options world = .ok password) ∧ ∃ what,
      discoverCandidateInterfaces world.env.formatMessage world.adapters = .error what := by
  constructor
  · intro h
    cases h with
    | adaptersUnread hpassword hfailed => exact ⟨⟨_, hpassword⟩, _, hfailed⟩
  · rintro ⟨⟨password, hpassword⟩, what, hfailed⟩
    exact .adaptersUnread hpassword hfailed

end Ends

/-- Which interface a run goes on with, for all answers of Windows: that of the one
adapter that is eligible. With none, with several and without a list of adapters the
run ends in its own way. -/
theorem interface_choice (options : Options) (world : World) :
    (∀ password iface, Selects options world password iface ↔
      configuredPassword options world = .ok password ∧ ∃ before adapter after,
        adapterAnswer world = .success (before ++ adapter :: after) ∧
          Eligible options adapter iface ∧
          ∀ other ∈ before ++ after, ∀ iface', ¬Eligible options other iface') ∧
    (EndsIn options world .noInterface ↔
      (∃ password, configuredPassword options world = .ok password) ∧ ∃ adapters,
        adapterAnswer world = .success adapters ∧
          ∀ adapter ∈ adapters, ∀ iface, ¬Eligible options adapter iface) ∧
    (EndsIn options world .multipleInterfaces ↔
      (∃ password, configuredPassword options world = .ok password) ∧
        ∃ before adapter between other after, adapterAnswer world =
            .success (before ++ adapter :: (between ++ other :: after)) ∧
          (∃ iface, Eligible options adapter iface) ∧ ∃ iface, Eligible options other iface) ∧
    (EndsIn options world .adaptersUnread ↔
      (∃ password, configuredPassword options world = .ok password) ∧
        ∀ adapters, adapterAnswer world ≠ .success adapters) := by
  refine ⟨fun password iface => ?_, ?_, ?_, ?_⟩
  · rw [selects_iff, exists_candidates_iff (· = [iface])]
    simp only [filterMap_eq_singleton_iff, eligibleInterface_eq_some_iff,
      eligibleInterface_eq_none_iff]
    apply and_congr_right
    intro _
    constructor
    · rintro ⟨adapters, hanswer, before, adapter, after, rfl, h⟩
      exact ⟨before, adapter, after, hanswer, h⟩
    · rintro ⟨before, adapter, after, hanswer, h⟩
      exact ⟨_, hanswer, before, adapter, after, rfl, h⟩
  · rw [endsIn_noInterface_iff, exists_candidates_iff (· = [])]
    simp only [List.filterMap_eq_nil_iff, eligibleInterface_eq_none_iff]
  · have hsome (adapter : Adapter) : eligibleInterface options adapter ≠ none ↔
        ∃ iface, Eligible options adapter iface := by
      rw [ne_eq, eligibleInterface_eq_none_iff]
      exact not_forall_not
    rw [endsIn_multipleInterfaces_iff, exists_candidates_iff (fun list => 2 ≤ list.length)]
    simp only [two_le_length_filterMap_iff, hsome]
    apply and_congr_right
    intro _
    constructor
    · rintro ⟨adapters, hanswer, before, adapter, between, other, after, rfl, h⟩
      exact ⟨before, adapter, between, other, after, hanswer, h⟩
    · rintro ⟨before, adapter, between, other, after, hanswer, h⟩
      exact ⟨_, hanswer, before, adapter, between, other, after, rfl, h⟩
  · rw [endsIn_adaptersUnread_iff, candidates_failed_iff]

end DeviceDiscovery.Main
