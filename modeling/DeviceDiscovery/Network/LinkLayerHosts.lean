import DeviceDiscovery.Network.ArpDiscovery

/-!
The result of layer-2 discovery, declaratively (`discover_link_layer_hosts`).

A station of the link is sighted by a usable row of the first cache read, by the
source field of a captured packet, or by a usable row of the second read. The
observations are the first sightings of the addresses, in order; the hardware
address of one is that of its first usable row in either table.

The three passes are one fold over the sightings. A cache read arrives already
merged, which changes nothing (`addNeighbours_select`): once an address has a
hardware address, further rows of it are no news.
-/

namespace DeviceDiscovery.Network

open Foundation DeviceDiscovery.Platform

/-! ### The specification -/

/-- A row with a resolved hardware address on the interface. -/
def IsUsable (ifIndex : UInt32) (row : IpNetRow) : Prop :=
  row.interfaceIndex = ifIndex ∧ row.state ≠ .unreachable ∧ row.state ≠ .incomplete ∧
    row.physicalAddress ≠ [] ∧ row.physicalAddress ≠ List.replicate 6 0

instance (ifIndex : UInt32) : DecidablePred (IsUsable ifIndex) := fun row =>
  inferInstanceAs (Decidable (row.interfaceIndex = ifIndex ∧ row.state ≠ .unreachable ∧
    row.state ≠ .incomplete ∧ row.physicalAddress ≠ [] ∧
      row.physicalAddress ≠ List.replicate 6 0))

/-- A buffer that starts with an IPv4 header: 20 bytes at least, version 4, and a
header length the buffer has. -/
def IsIpv4Header (packet : Bytes) : Prop :=
  20 ≤ packet.length ∧ (packet.getD 0 0).toNat / 16 = 4 ∧
    20 ≤ 4 * ((packet.getD 0 0).toNat % 16) ∧ 4 * ((packet.getD 0 0).toNat % 16) ≤ packet.length

instance : DecidablePred IsIpv4Header := fun packet =>
  inferInstanceAs (Decidable (20 ≤ packet.length ∧ (packet.getD 0 0).toNat / 16 = 4 ∧
    20 ≤ 4 * ((packet.getD 0 0).toNat % 16) ∧
      4 * ((packet.getD 0 0).toNat % 16) ≤ packet.length))

/-- The source field of a well-formed header. -/
def ipv4Source (packet : Bytes) : Option Address :=
  if IsIpv4Header packet then
    some (ofOctets (packet.getD 12 0) (packet.getD 13 0) (packet.getD 14 0) (packet.getD 15 0))
  else none

/-- The addresses that can identify a station other than the interface itself. -/
def IsWanted (iface : NetworkInterface) (x : Address) : Prop :=
  inetNtop x ≠ iface.ipv4 ∧ x ≠ 0 ∧ x.toNat < 0xE0000000

instance (iface : NetworkInterface) : DecidablePred (IsWanted iface) := fun x =>
  inferInstanceAs (Decidable (inetNtop x ≠ iface.ipv4 ∧ x ≠ 0 ∧ x.toNat < 0xE0000000))

/-- The packets the capture receives whole before its loop ends. -/
def receivedPackets (deadline : ℤ) : List CaptureTurn → List Bytes
  | [] => []
  | turn :: turns =>
      if turn.now ≥ deadline ∨ turn.pollRc < 0 then []
      else if turn.pollRc = 0 then receivedPackets deadline turns
      else
        match turn.read with
        | .packet buffer => buffer :: receivedPackets deadline turns
        | .zero => receivedPackets deadline turns
        | .error code _ => if code = wsaeMsgSize then receivedPackets deadline turns else []

/-- The capture gets as far as its loop. -/
def CaptureAnswers.IsOpen (os : CaptureAnswers) (iface : NetworkInterface) : Prop :=
  os.winsockReady = true ∧ os.socket ≠ kInvalidSocket ∧ inetPton iface.ipv4 ≠ none ∧
    os.bindRc = 0 ∧ os.ioctlFailed = false

instance (os : CaptureAnswers) (iface : NetworkInterface) : Decidable (os.IsOpen iface) :=
  inferInstanceAs (Decidable (os.winsockReady = true ∧ os.socket ≠ kInvalidSocket ∧
    inetPton iface.ipv4 ≠ none ∧ os.bindRc = 0 ∧ os.ioctlFailed = false))

def CaptureAnswers.packets (os : CaptureAnswers) (iface : NetworkInterface) (listenWindow : ℤ) :
    List Bytes :=
  if os.IsOpen iface then receivedPackets (deadlineOf os.start listenWindow) os.turns else []

/-- The usable rows of a table that could not be read are none. -/
def usableRows (ifIndex : UInt32) (table : Option (List IpNetRow)) : List IpNetRow :=
  (table.getD []).filter fun row => IsUsable ifIndex row

/-- One sighting of an address, with the hardware address a row brings along. -/
structure Sighting where
  address : Address
  mac : Bytes
  source : L2ObservationSource
  deriving DecidableEq, Repr

def cached (ifIndex : UInt32) (table : Option (List IpNetRow)) : List Sighting :=
  (usableRows ifIndex table).map fun row =>
    ⟨row.address, formatMac row.physicalAddress, .neighbourCache⟩

def captured (packets : List Bytes) : List Sighting :=
  (packets.filterMap ipv4Source).map fun x => ⟨x, [], .ipv4Traffic⟩

/-- The sightings of wanted addresses, in order. -/
def sightings (os : LinkAnswers) (iface : NetworkInterface) (listenWindow : ℤ) : List Sighting :=
  (cached iface.ifIndex os.firstTable ++ captured (os.capture.packets iface listenWindow) ++
    cached iface.ifIndex os.secondTable).filter fun s => IsWanted iface s.address

/-- The hardware address of the first usable row, over the first and then the
second table. -/
def macOf (os : LinkAnswers) (iface : NetworkInterface) (x : Address) : Bytes :=
  match (usableRows iface.ifIndex os.firstTable ++ usableRows iface.ifIndex os.secondTable).find?
    fun row => row.address = x with
  | none => []
  | some row => formatMac row.physicalAddress

/-- How an address was first sighted. -/
def sourceOf (seen : List Sighting) (x : Address) : L2ObservationSource :=
  match seen.find? fun s => s.address = x with
  | none => .arpTraffic
  | some s => s.source

/-! ### Addresses and hardware addresses as text -/

theorem parseIpv4SourceAddress_eq (packet : Bytes) :
    parseIpv4SourceAddress packet = ((ipv4Source packet).map inetNtop).getD [] := by
  have hversion : packet.getD 0 0 >>> 4 ≠ 4 ↔ (packet.getD 0 0).toNat / 16 ≠ 4 := by
    have hfour : (4 : UInt8).toNat = 4 := rfl
    have hexp : 2 ^ (4 % 8) = 16 := rfl
    simp only [ne_eq, ← UInt8.toNat_inj, UInt8.toNat_shiftRight, Nat.shiftRight_eq_div_pow, hfour,
      hexp]
  have hlength : (packet.getD 0 0 &&& 0x0F).toNat = (packet.getD 0 0).toNat % 16 := by
    have hmask : (0x0F : UInt8).toNat = 2 ^ 4 - 1 := rfl
    rw [UInt8.toNat_and, hmask, Nat.and_two_pow_sub_one_eq_mod]
  have hmalformed (h : ¬IsIpv4Header packet) : ((ipv4Source packet).map inetNtop).getD [] = [] := by
    rw [ipv4Source, if_neg h]
    rfl
  simp only [parseIpv4SourceAddress, hversion, hlength, kIpv4HeaderMinimum, kIpv4SourceOffset]
  split
  · rename_i hshort
    exact (hmalformed fun h => Nat.not_lt.mpr h.1 hshort).symm
  split
  · rename_i hother
    exact (hmalformed fun h => hother h.2.1).symm
  split
  · rename_i hheader
    refine (hmalformed fun h => ?_).symm
    obtain ⟨-, -, hlo, hhi⟩ := h
    omega
  · rename_i hlong hfour hheader
    have h : IsIpv4Header packet :=
      ⟨Nat.le_of_not_lt hlong, Decidable.not_not.mp hfour, by omega, by omega⟩
    rw [ipv4Source, if_pos h, Option.map_some, Option.getD_some]

theorem isUninterestingAddress_inetNtop (x : Address) :
    isUninterestingAddress (inetNtop x) = false ↔ x ≠ 0 ∧ x.toNat < 0xE0000000 := by
  have hzero : inetNtop x = bytes "0.0.0.0" ↔ x = 0 := by
    rw [show bytes "0.0.0.0" = inetNtop 0 by decide]
    exact inetNtop_injective.eq_iff
  have hones : inetNtop x = bytes "255.255.255.255" ↔ x = 0xFFFFFFFF#32 := by
    rw [show bytes "255.255.255.255" = inetNtop 0xFFFFFFFF#32 by decide]
    exact inetNtop_injective.eq_iff
  have hclass : x &&& 0xF0000000#32 ≥ 0xE0000000#32 ↔ 0xE0000000 ≤ x.toNat := by
    have hblock : (x &&& 0xF0000000#32).toNat = x.toNat / 2 ^ 28 * 2 ^ 28 :=
      toNat_and_blockMask x 28
    show 0xE0000000 ≤ (x &&& 0xF0000000#32).toNat ↔ _
    rw [hblock]
    omega
  simp only [isUninterestingAddress, inetNtop_ne_nil, false_or, hzero, hones, inetPton_inetNtop,
    hclass]
  by_cases hx : x = 0 ∨ x = 0xFFFFFFFF#32
  · rcases hx with rfl | rfl <;> simp
  · obtain ⟨hne, hne'⟩ := not_or.mp hx
    rw [if_neg hx]
    simp only [decide_eq_false_iff_not, Nat.not_le]
    exact ⟨fun hlt => ⟨hne, hlt⟩, fun h => h.2⟩

/-- A hexadecimal numeral of a byte determines the byte and has no colon. -/
theorem hexByte_spec : ∀ n < 256, (hexByte (UInt8.ofNat n) = bytes "00" → n = 0) ∧
    (':' : UInt8) ∉ hexByte (UInt8.ofNat n) := by
  decide +kernel

theorem hexByte_eq_zero {b : UInt8} (h : hexByte b = bytes "00") : b = 0 := by
  have hb := (hexByte_spec b.toNat b.toNat_lt).1
  rw [UInt8.ofNat_toNat] at hb
  exact UInt8.toNat_inj.mp (hb h)

theorem colon_notMem_hexByte (b : UInt8) : (':' : UInt8) ∉ hexByte b := by
  have hb := (hexByte_spec b.toNat b.toNat_lt).2
  rwa [UInt8.ofNat_toNat] at hb

theorem splitOn_formatMac {address : Bytes} (h : address ≠ []) :
    (formatMac address).splitOn (':' : UInt8) = address.map hexByte := by
  apply List.splitOn_intercalate
  · intro part hpart hcolon
    obtain ⟨b, -, rfl⟩ := List.mem_map.mp hpart
    exact absurd hcolon (colon_notMem_hexByte b)
  · simpa using h

theorem length_of_map_hexByte {address text : Bytes} (h : [text] = address.map hexByte) :
    text.length = 2 := by
  match address with
  | [] => cases h
  | [b] =>
      rw [List.head_eq_of_cons_eq h]
      rfl
  | a :: b :: rest => cases h

/-- The hardware addresses `is_zero_mac` refuses: none at all, and six zeros. -/
theorem isZeroMac_formatMac (address : Bytes) :
    isZeroMac (formatMac address) = true ↔ address = [] ∨ address = List.replicate 6 0 := by
  constructor
  · intro h
    by_cases hnil : address = []
    · exact .inl hnil
    · right
      have hsplit := splitOn_formatMac hnil
      simp only [isZeroMac, Bool.or_eq_true, List.isEmpty_iff, beq_iff_eq] at h
      rcases h with (hempty | hcolons) | hdashes
      · rw [hempty] at hsplit
        have hlength := length_of_map_hexByte hsplit
        cases hlength
      · rw [hcolons] at hsplit
        have hparts : List.replicate 6 (bytes "00") = address.map hexByte := hsplit
        have hlength : address.length = 6 := by
          have h := congrArg List.length hparts
          simpa using h.symm
        rw [List.eq_replicate_iff]
        refine ⟨hlength, fun b hb => hexByte_eq_zero ?_⟩
        have hmem : hexByte b ∈ List.replicate 6 (bytes "00") := by
          rw [hparts]
          exact List.mem_map_of_mem hb
        exact List.eq_of_mem_replicate hmem
      · rw [hdashes] at hsplit
        have hparts : [bytes "00-00-00-00-00-00"] = address.map hexByte := hsplit
        have hlength := length_of_map_hexByte hparts
        cases hlength
  · rintro (rfl | rfl) <;> decide

/-! ### One fold for the three passes -/

/-- One turn of any of the three loops: an observation other than that of the
interface's own address. -/
def collect (own : Bytes) (acc : List L2Observation) (c : L2Observation) : List L2Observation :=
  if c.ip ≠ own then addObservation acc c else acc

def Sighting.observation (s : Sighting) : L2Observation := ⟨inetNtop s.address, s.mac, s.source⟩

theorem recordPacket_eq (iface : NetworkInterface) (acc : List L2Observation) (packet : Bytes) :
    recordPacket iface acc packet = match ipv4Source packet with
      | none => acc
      | some x => collect iface.ipv4 acc (Sighting.observation ⟨x, [], .ipv4Traffic⟩) := by
  simp only [recordPacket, parseIpv4SourceAddress_eq]
  cases ipv4Source packet with
  | none => simp
  | some x =>
      simp only [Option.map_some, Option.getD_some, inetNtop_ne_nil, false_or, collect,
        Sighting.observation]
      by_cases hown : inetNtop x = iface.ipv4 <;> simp [hown]

theorem foldl_recordPacket (iface : NetworkInterface) (packets : List Bytes)
    (acc : List L2Observation) :
    packets.foldl (recordPacket iface) acc =
      ((captured packets).map Sighting.observation).foldl (collect iface.ipv4) acc := by
  induction packets generalizing acc with
  | nil => rfl
  | cons packet packets ih =>
      rw [List.foldl_cons, ih, recordPacket_eq]
      cases h : ipv4Source packet with
      | none => simp only [captured, List.filterMap_cons, h]
      | some x => simp only [captured, List.filterMap_cons, h, List.map_cons, List.foldl_cons]

theorem receivedPackets_cons (deadline : ℤ) (turn : CaptureTurn) (turns : List CaptureTurn) :
    receivedPackets deadline (turn :: turns) =
      if turn.Ends deadline then []
      else turn.packet.toList ++ receivedPackets deadline turns := by
  by_cases hover : turn.now ≥ deadline ∨ turn.pollRc < 0
  · have hends : turn.Ends deadline := or_assoc.mp (.inl hover)
    rw [receivedPackets, if_pos hover, if_pos hends]
  obtain ⟨hlate, hfailed⟩ := not_or.mp hover
  rw [receivedPackets, if_neg hover]
  by_cases hquiet : turn.pollRc = 0
  · simp [CaptureTurn.Ends, CaptureTurn.packet, hlate, hquiet]
  cases hread : turn.read with
  | packet buffer =>
      simp [CaptureTurn.Ends, CaptureRead.IsHardError, CaptureTurn.packet, hlate, hfailed, hquiet,
        hread]
  | zero =>
      simp [CaptureTurn.Ends, CaptureRead.IsHardError, CaptureTurn.packet, hlate, hfailed, hquiet,
        hread]
  | error code copy =>
      simp [CaptureTurn.Ends, CaptureRead.IsHardError, CaptureTurn.packet, hlate, hfailed, hquiet,
        hread]

/-- The loop records the packets it receives whole. -/
theorem captureLoop_observations (iface : NetworkInterface) (handle : Socket) (deadline : ℤ)
    (turns : List CaptureTurn) (acc : List L2Observation) :
    (captureLoop iface handle deadline acc turns).1 =
      (receivedPackets deadline turns).foldl (recordPacket iface) acc := by
  induction turns generalizing acc with
  | nil => rfl
  | cons turn turns ih =>
      rw [captureLoop_cons, receivedPackets_cons]
      by_cases hends : turn.Ends deadline
      · rw [if_pos hends, if_pos hends]
        rfl
      · rw [if_neg hends, if_neg hends, List.foldl_append]
        exact ih _

/-- What the capture adds, and that a refused capture says why. -/
theorem captureLinkTraffic_observations (formatMessage : ℤ → Option Bytes) (os : CaptureAnswers)
    (iface : NetworkInterface) (listenWindow : ℤ) (result : L2DiscoveryResult) :
    (captureLinkTraffic formatMessage os iface listenWindow result).1.observations =
      ((captured (os.packets iface listenWindow)).map Sighting.observation).foldl
        (collect iface.ipv4) result.observations := by
  by_cases hopen : os.IsOpen iface
  · obtain ⟨hready, hsocket, haddress, hbind, hioctl⟩ := id hopen
    rw [CaptureAnswers.packets, if_pos hopen, ← foldl_recordPacket]
    simp only [captureLinkTraffic, hready, hsocket, haddress, hbind, hioctl, Bool.not_true,
      Bool.false_eq_true, if_false, ne_eq, not_true, captureLoop_observations]
  · rw [CaptureAnswers.packets, if_neg hopen]
    simp only [CaptureAnswers.IsOpen, not_and] at hopen
    simp only [captureLinkTraffic, captured, List.filterMap_nil, List.map_nil, List.foldl_nil]
    split
    · rfl
    split
    · rfl
    split
    · rfl
    split
    · rfl
    split
    · rfl
    · rename_i h1 h2 h3 h4 h5
      refine absurd ?_ (hopen ?_ ?_ ?_ ?_)
      all_goals simp_all

/-! ### A cache read that is already merged -/

/-- The address is observed with a hardware address. -/
def isKnown (ip : Bytes) : List L2Observation → Bool
  | [] => false
  | o :: rest => if o.ip = ip then !isZeroMac o.mac else isKnown ip rest

/-- Nothing is news about a known address. -/
theorem upsert_of_isKnown {c : L2Observation} {acc : List L2Observation}
    (h : isKnown c.ip acc = true) : upsert L2Observation.ip fillMac c acc = acc := by
  induction acc with
  | nil => cases h
  | cons o acc ih =>
      rw [isKnown] at h
      rw [upsert]
      by_cases ho : o.ip = c.ip
      · rw [if_pos ho] at h ⊢
        have hmac : isZeroMac o.mac = false := by simpa using h
        simp [fillMac, hmac]
      · rw [if_neg ho] at h ⊢
        rw [ih h]

theorem isKnown_upsert {c : L2Observation} (hc : isZeroMac c.mac = false)
    (acc : List L2Observation) : isKnown c.ip (upsert L2Observation.ip fillMac c acc) = true := by
  induction acc with
  | nil => simp [upsert, isKnown, hc]
  | cons o acc ih =>
      rw [upsert]
      by_cases ho : o.ip = c.ip
      · rw [if_pos ho]
        by_cases hmac : isZeroMac o.mac = true
        · simp [isKnown, fillMac, hmac, ho, hc]
        · simp [isKnown, fillMac, hmac, ho]
      · rw [if_neg ho, isKnown, if_neg ho]
        exact ih

theorem isKnown_of_isKnown {ip : Bytes} {acc : List L2Observation} (h : isKnown ip acc = true)
    (c : L2Observation) : isKnown ip (upsert L2Observation.ip fillMac c acc) = true := by
  induction acc with
  | nil => cases h
  | cons o acc ih =>
      rw [isKnown] at h
      rw [upsert]
      by_cases ho : o.ip = c.ip
      · rw [if_pos ho]
        by_cases hip : o.ip = ip
        · rw [if_pos hip] at h
          have hmac : isZeroMac o.mac = false := by simpa using h
          simp [isKnown, fillMac, hmac, hip]
        · rw [if_neg hip] at h
          have hfilled : (fillMac o c).ip = o.ip := by
            rw [fillMac]
            split <;> rfl
          rw [isKnown, hfilled, if_neg hip]
          exact h
      · rw [if_neg ho, isKnown]
        by_cases hip : o.ip = ip
        · rw [if_pos hip] at h ⊢
          exact h
        · rw [if_neg hip] at h ⊢
          exact ih h

theorem collect_cases (own : Bytes) (acc : List L2Observation) (c : L2Observation) :
    (collect own acc c = acc ∧ (c.ip = own ∨ isUninterestingAddress c.ip = true)) ∨
      (collect own acc c = upsert L2Observation.ip fillMac c acc ∧ c.ip ≠ own ∧
        isUninterestingAddress c.ip = false) := by
  by_cases hown : c.ip = own
  · exact .inl ⟨by simp [collect, hown], .inl hown⟩
  · by_cases hdull : isUninterestingAddress c.ip = true
    · exact .inl ⟨by simp [collect, addObservation, hdull], .inr hdull⟩
    · refine .inr ⟨?_, hown, by simpa using hdull⟩
      simp [collect, addObservation, hown, hdull]

/-- After a loop over observations with hardware addresses, the wanted addresses
among them are known. -/
theorem isKnown_foldl_collect {own : Bytes} {cs : List L2Observation}
    (hcs : ∀ c ∈ cs, isZeroMac c.mac = false) (acc : List L2Observation) {ip : Bytes}
    (hmem : ip ∈ cs.map L2Observation.ip) (hown : ip ≠ own)
    (hdull : isUninterestingAddress ip = false) :
    isKnown ip (cs.foldl (collect own) acc) = true := by
  induction cs using List.reverseRecOn with
  | nil => cases hmem
  | append_singleton cs c ih =>
      rw [List.foldl_append, List.foldl_cons, List.foldl_nil]
      rcases collect_cases own (cs.foldl (collect own) acc) c with
        ⟨hkept, hreason⟩ | ⟨hnew, -, -⟩
      · have hne : c.ip ≠ ip := by
          rintro rfl
          rcases hreason with hsame | htrue
          · exact hown hsame
          · simp [hdull] at htrue
        have hold : ip ∈ cs.map L2Observation.ip := by
          simpa [Ne.symm hne] using hmem
        rw [hkept]
        exact ih (fun d hd => hcs d (by simp [hd])) hold
      · rw [hnew]
        by_cases hc : c.ip = ip
        · exact hc ▸ isKnown_upsert (hcs c (by simp)) _
        · have hold : ip ∈ cs.map L2Observation.ip := by
            simpa [Ne.symm hc] using hmem
          exact isKnown_of_isKnown (ih (fun d hd => hcs d (by simp [hd])) hold) c

theorem map_ip_upsert (c : L2Observation) (acc : List L2Observation) :
    (upsert L2Observation.ip fillMac c acc).map L2Observation.ip =
      insertNew (acc.map L2Observation.ip) c.ip := by
  induction acc with
  | nil => simp [upsert, insertNew]
  | cons o acc ih =>
      have hfilled : (fillMac o c).ip = o.ip := by
        rw [fillMac]
        split <;> rfl
      rw [upsert]
      by_cases ho : o.ip = c.ip
      · simp [insertNew, ho, hfilled]
      · rw [if_neg ho, List.map_cons, ih]
        by_cases hmem : c.ip ∈ acc.map L2Observation.ip
        · simp only [insertNew, hmem, if_true, List.map_cons, List.mem_cons, or_true]
        · simp only [insertNew, hmem, if_false, List.map_cons, List.mem_cons, or_false,
            Ne.symm ho, List.cons_append]

theorem upsert_of_notMem {c : L2Observation} {acc : List L2Observation}
    (h : c.ip ∉ acc.map L2Observation.ip) :
    upsert L2Observation.ip fillMac c acc = acc ++ [c] := by
  induction acc with
  | nil => rfl
  | cons o acc ih =>
      simp only [List.map_cons, List.mem_cons, not_or] at h
      rw [upsert, if_neg (Ne.symm h.1), ih h.2]
      rfl

/-- The addresses after one turn. -/
theorem mem_collect {own ip : Bytes} {acc : List L2Observation} {c : L2Observation} :
    ip ∈ (collect own acc c).map L2Observation.ip ↔
      ip ∈ acc.map L2Observation.ip ∨
        ip = c.ip ∧ ip ≠ own ∧ isUninterestingAddress ip = false := by
  rcases collect_cases own acc c with ⟨hkept, hreason⟩ | ⟨hnew, hown, hdull⟩
  · rw [hkept]
    refine ⟨.inl, ?_⟩
    rintro (hold | ⟨rfl, hother, hlive⟩)
    · exact hold
    · rcases hreason with hsame | htrue
      · exact absurd hsame hother
      · simp [hlive] at htrue
  · rw [hnew, map_ip_upsert, mem_insertNew]
    apply or_congr_right
    constructor
    · rintro rfl
      exact ⟨rfl, hown, hdull⟩
    · exact fun h => h.1

/-- The addresses after a loop. -/
theorem mem_foldl_collect {own ip : Bytes} {cs acc : List L2Observation} :
    ip ∈ (cs.foldl (collect own) acc).map L2Observation.ip ↔
      ip ∈ acc.map L2Observation.ip ∨
        ip ∈ cs.map L2Observation.ip ∧ ip ≠ own ∧ isUninterestingAddress ip = false := by
  induction cs generalizing acc with
  | nil => simp
  | cons c cs ih =>
      rw [List.foldl_cons, ih, mem_collect, List.map_cons, List.mem_cons, or_assoc, ← or_and_right]

/-- The empty text is no address, so without an own address nothing is left out. -/
theorem collect_nil : collect [] = addObservation := by
  funext acc c
  by_cases hc : c.ip = []
  · simp [collect, addObservation, hc, isUninterestingAddress]
  · simp [collect, hc]

/-- Feeding a merged cache read to a loop does what feeding its rows does. -/
theorem foldl_collect_merged (own : Bytes) {cs : List L2Observation}
    (hcs : ∀ c ∈ cs, isZeroMac c.mac = false) (acc : List L2Observation) :
    (cs.foldl (collect []) []).foldl (collect own) acc = cs.foldl (collect own) acc := by
  induction cs using List.reverseRecOn with
  | nil => rfl
  | append_singleton cs c ih =>
      have hcs' : ∀ d ∈ cs, isZeroMac d.mac = false := fun d hd => hcs d (by simp [hd])
      rw [List.foldl_append, List.foldl_append, List.foldl_cons, List.foldl_nil, List.foldl_cons,
        List.foldl_nil]
      rcases collect_cases [] (cs.foldl (collect []) []) c with
        ⟨hkept, hreason⟩ | ⟨hnew, hne, hdull⟩
      · -- Not an address of a station: no loop takes it.
        have hdull : isUninterestingAddress c.ip = true := by
          rcases hreason with hnil | hdull
          · rw [hnil]
            rfl
          · exact hdull
        rw [hkept, ih hcs']
        simp [collect, addObservation, hdull]
      rw [hnew]
      by_cases hmem : c.ip ∈ cs.map L2Observation.ip
      · -- A further row of a known address: both loops keep what they have.
        rw [upsert_of_isKnown (isKnown_foldl_collect hcs' [] hmem hne hdull), ih hcs']
        rcases collect_cases own (cs.foldl (collect own) acc) c with ⟨hkept', -⟩ | ⟨hnew', hown, -⟩
        · exact hkept'.symm
        · rw [hnew', upsert_of_isKnown (isKnown_foldl_collect hcs' acc hmem hown hdull)]
      · -- The first row of an address.
        have hfresh : c.ip ∉ (cs.foldl (collect []) []).map L2Observation.ip :=
          fun h => hmem (by simpa using (mem_foldl_collect.mp h).imp_right And.left)
        rw [upsert_of_notMem hfresh, List.foldl_append, ih hcs', List.foldl_cons, List.foldl_nil]

/-- The rows `select_neighbour_entries` keeps. -/
theorem isUsable_iff {ifIndex : UInt32} {row : IpNetRow} :
    IsUsable ifIndex row ↔ (entryOfRow row).ifIndex = ifIndex ∧ (entryOfRow row).reachable = true ∧
      isZeroMac (entryOfRow row).mac = false := by
  have hmac : isZeroMac (formatMac row.physicalAddress) = false ↔
      row.physicalAddress ≠ [] ∧ row.physicalAddress ≠ List.replicate 6 0 := by
    rw [← not_or, ← isZeroMac_formatMac, Bool.not_eq_true]
  simp only [IsUsable, entryOfRow, decide_eq_true_eq, hmac, and_assoc]

theorem cached_mac {ifIndex : UInt32} {table : Option (List IpNetRow)} :
    ∀ c ∈ (cached ifIndex table).map Sighting.observation, isZeroMac c.mac = false := by
  intro c hc
  simp only [cached, usableRows, List.map_map, List.mem_map, List.mem_filter, decide_eq_true_eq,
    Function.comp] at hc
  obtain ⟨row, ⟨-, husable⟩, rfl⟩ := hc
  exact (isUsable_iff.mp husable).2.2

/-- A cache read is the merge of its usable rows. -/
theorem readNeighbourCache_eq (table : Option (List IpNetRow)) (ifIndex : UInt32) :
    readNeighbourCache table ifIndex =
      ((cached ifIndex table).map Sighting.observation).foldl (collect []) [] := by
  rw [collect_nil]
  cases table with
  | none => rfl
  | some rows =>
      simp only [readNeighbourCache, selectNeighbourEntries, cached, usableRows, Option.getD_some]
      generalize ([] : List L2Observation) = acc
      induction rows generalizing acc with
      | nil => rfl
      | cons row rows ih =>
          rw [List.map_cons, List.foldl_cons, ih]
          by_cases husable : IsUsable ifIndex row
          · obtain ⟨hindex, hreachable, hmac⟩ := isUsable_iff.mp husable
            rw [List.filter_cons_of_pos (by simpa using husable), if_neg (by
              simp [hindex, hreachable, hmac])]
            rfl
          · rw [List.filter_cons_of_neg (by simpa using husable), if_pos]
            by_contra hkeep
            simp only [not_or, ne_eq, not_not, Bool.not_eq_true, Bool.not_eq_false'] at hkeep
            exact husable (isUsable_iff.mpr hkeep)

/-- The three passes are one fold over all sightings. -/
theorem discover_observations (formatMessage : ℤ → Option Bytes) (os : LinkAnswers)
    (iface : NetworkInterface) (listenWindow : ℤ) :
    (discoverLinkLayerHosts formatMessage os iface listenWindow).observations =
      ((cached iface.ifIndex os.firstTable ++ captured (os.capture.packets iface listenWindow) ++
        cached iface.ifIndex os.secondTable).map Sighting.observation).foldl
          (collect iface.ipv4) [] := by
  have hpass (table : Option (List IpNetRow)) (acc : List L2Observation) :
      addNeighbours iface acc (readNeighbourCache table iface.ifIndex) =
        ((cached iface.ifIndex table).map Sighting.observation).foldl (collect iface.ipv4) acc := by
    rw [readNeighbourCache_eq]
    exact foldl_collect_merged iface.ipv4 cached_mac acc
  simp only [discoverLinkLayerHosts, hpass, captureLinkTraffic_observations, List.map_append,
    List.foldl_append]

/-! ### The result of the fold -/

/-- What the fold knows of an address after it has met the observations `cs`. -/
def recordOf (cs : List L2Observation) (ip : Bytes) : L2Observation where
  ip := ip
  mac :=
    match (cs.filter fun c => !isZeroMac c.mac).find? fun c => c.ip = ip with
    | none => []
    | some c => c.mac
  source :=
    match cs.find? fun c => c.ip = ip with
    | none => .arpTraffic
    | some c => c.source

theorem recordOf_append_of_ne (cs : List L2Observation) {c : L2Observation} {ip : Bytes}
    (hip : ip ≠ c.ip) : recordOf (cs ++ [c]) ip = recordOf cs ip := by
  have hnone : ([c].filter fun c => !isZeroMac c.mac).find? (fun c => c.ip = ip) = none := by
    rw [List.find?_eq_none]
    intro d hd
    have hdc : d = c := List.mem_singleton.mp (List.mem_of_mem_filter hd)
    simpa [hdc] using Ne.symm hip
  simp [recordOf, List.filter_append, List.find?_append, hnone, Ne.symm hip]

theorem recordOf_append_of_mem (cs : List L2Observation) {c : L2Observation}
    (hc : isZeroMac c.mac = true → c.mac = []) (hmem : c.ip ∈ cs.map L2Observation.ip) :
    recordOf (cs ++ [c]) c.ip = fillMac (recordOf cs c.ip) c := by
  obtain ⟨d, hd, hip⟩ := List.mem_map.mp hmem
  have hfound : ∃ e, cs.find? (fun e => e.ip = c.ip) = some e := by
    rw [← Option.isSome_iff_exists, List.find?_isSome]
    exact ⟨d, hd, by simpa using hip⟩
  obtain ⟨e, he⟩ := hfound
  cases hmac : (cs.filter fun c => !isZeroMac c.mac).find? fun d => d.ip = c.ip with
  | none =>
      have hnil : isZeroMac [] = true := rfl
      by_cases hzero : isZeroMac c.mac = true
      · simp [recordOf, fillMac, List.filter_append, List.find?_append, he, hmac, hc hzero, hnil]
      · simp [recordOf, fillMac, List.filter_append, List.find?_append, he, hmac, hzero, hnil]
  | some g =>
      have hg : isZeroMac g.mac = false := by
        have hmem := List.mem_of_find?_eq_some hmac
        simpa using (List.mem_filter.mp hmem).2
      simp [recordOf, fillMac, List.filter_append, List.find?_append, he, hmac, hg]

theorem recordOf_append_of_notMem (cs : List L2Observation) {c : L2Observation}
    (hc : isZeroMac c.mac = true → c.mac = []) (hmem : c.ip ∉ cs.map L2Observation.ip) :
    recordOf (cs ++ [c]) c.ip = c := by
  have hfirst : cs.find? (fun d => d.ip = c.ip) = none := by
    rw [List.find?_eq_none]
    intro d hd hip
    exact hmem (List.mem_map.mpr ⟨d, hd, by simpa using hip⟩)
  have hmac : (cs.filter fun c => !isZeroMac c.mac).find? (fun d => d.ip = c.ip) = none := by
    rw [List.find?_eq_none] at hfirst ⊢
    exact fun d hd => hfirst d (List.mem_of_mem_filter hd)
  by_cases hzero : isZeroMac c.mac = true
  · simp [recordOf, List.filter_append, List.find?_append, hfirst, hmac, hzero, ← hc hzero]
  · simp [recordOf, List.filter_append, List.find?_append, hfirst, hmac, hzero]

/-- The fold keeps one record for each wanted address, in order of appearance. -/
theorem foldl_collect_eq (own : Bytes) (cs : List L2Observation)
    (hcs : ∀ c ∈ cs, isZeroMac c.mac = true → c.mac = []) :
    cs.foldl (collect own) [] =
      let wanted := cs.filter fun c => c.ip ≠ own ∧ isUninterestingAddress c.ip = false
      (wanted.map L2Observation.ip).eraseDups.map (recordOf wanted) := by
  have hfilter : cs.foldl (collect own) [] =
      (cs.filter fun c => c.ip ≠ own ∧ isUninterestingAddress c.ip = false).foldl
        (fun acc c => upsert L2Observation.ip fillMac c acc) [] := by
    rw [List.foldl_filter]
    congr 1
    funext acc c
    rcases collect_cases own acc c with ⟨hkept, hreason⟩ | ⟨hnew, hown, hdull⟩
    · rw [hkept, if_neg]
      rcases hreason with hown | hdull
      · simp [hown]
      · simp [hdull]
    · rw [hnew, if_pos]
      simp [hown, hdull]
  rw [hfilter]
  dsimp only
  apply foldl_upsert L2Observation.ip fillMac recordOf (fun _ _ => rfl)
  · exact fun pre c k hk => recordOf_append_of_ne pre hk
  · exact fun pre c hc hmem => recordOf_append_of_mem pre (hcs c (List.mem_of_mem_filter hc)) hmem
  · exact fun pre c hc hmem =>
      recordOf_append_of_notMem pre (hcs c (List.mem_of_mem_filter hc)) hmem

/-! ### The observations -/

section Spec

variable (os : LinkAnswers) (iface : NetworkInterface) (listenWindow : ℤ)

theorem filter_observations (seen : List Sighting) :
    ((seen.map Sighting.observation).filter fun c =>
        c.ip ≠ iface.ipv4 ∧ isUninterestingAddress c.ip = false) =
      (seen.filter fun s => IsWanted iface s.address).map Sighting.observation := by
  rw [List.filter_map]
  congr 2
  funext s
  have hiff : s.observation.ip ≠ iface.ipv4 ∧ isUninterestingAddress s.observation.ip = false ↔
      IsWanted iface s.address := by
    rw [Sighting.observation, isUninterestingAddress_inetNtop]
    rfl
  exact decide_eq_decide.mpr hiff

theorem find?_observations (seen : List Sighting) (x : Address) :
    (seen.map Sighting.observation).find? (fun c => c.ip = inetNtop x) =
      (seen.find? fun s => s.address = x).map Sighting.observation := by
  rw [List.find?_map]
  congr 2
  funext s
  simp only [Function.comp, Sighting.observation, inetNtop_injective.eq_iff]

/-- Looking for a wanted address among the wanted sightings only. -/
theorem find?_wanted (seen : List Sighting) {x : Address} (hx : IsWanted iface x) :
    (seen.filter fun s => IsWanted iface s.address).find? (fun s => s.address = x) =
      seen.find? fun s => s.address = x := by
  rw [List.find?_filter]
  congr 1
  funext s
  by_cases hs : s.address = x
  · simp [hs, hx]
  · simp [hs]

/-- The sightings that bring a hardware address along are those of the tables. -/
theorem filter_mac_sightings :
    (sightings os iface listenWindow).filter (fun s => !isZeroMac s.mac) =
      (cached iface.ifIndex os.firstTable ++ cached iface.ifIndex os.secondTable).filter
        fun s => IsWanted iface s.address := by
  have hcached (table : Option (List IpNetRow)) :
      (cached iface.ifIndex table).filter (fun s => !isZeroMac s.mac) =
        cached iface.ifIndex table := by
    rw [List.filter_eq_self]
    intro s hs
    have hmac : isZeroMac s.mac = false := cached_mac _ (List.mem_map_of_mem hs)
    simpa using hmac
  have hcaptured (packets : List Bytes) :
      (captured packets).filter (fun s => !isZeroMac s.mac) = [] := by
    rw [List.filter_eq_nil_iff]
    intro s hs
    obtain ⟨x, -, rfl⟩ := List.mem_map.mp hs
    simp [isZeroMac]
  rw [sightings, List.filter_comm]
  simp only [List.filter_append, hcached, hcaptured, List.append_nil]

theorem recordOf_sightings {x : Address} (hx : IsWanted iface x) :
    recordOf ((sightings os iface listenWindow).map Sighting.observation) (inetNtop x) =
      ⟨inetNtop x, macOf os iface x, sourceOf (sightings os iface listenWindow) x⟩ := by
  have hrows : ((sightings os iface listenWindow).filter fun s => !isZeroMac s.mac).find?
      (fun s => s.address = x) =
      ((usableRows iface.ifIndex os.firstTable ++ usableRows iface.ifIndex os.secondTable).find?
        fun row => row.address = x).map
          fun row => ⟨row.address, formatMac row.physicalAddress, .neighbourCache⟩ := by
    rw [filter_mac_sightings, find?_wanted iface _ hx, cached, cached, ← List.map_append,
      List.find?_map]
    rfl
  have hmac : ((sightings os iface listenWindow).map Sighting.observation).filter
      (fun c => !isZeroMac c.mac) =
        ((sightings os iface listenWindow).filter fun s => !isZeroMac s.mac).map
          Sighting.observation := by
    rw [List.filter_map]
    rfl
  simp only [recordOf, hmac, find?_observations, hrows, macOf, sourceOf, L2Observation.mk.injEq,
    true_and]
  refine ⟨?_, ?_⟩
  · cases (usableRows iface.ifIndex os.firstTable ++
      usableRows iface.ifIndex os.secondTable).find? fun row => row.address = x <;> rfl
  · cases (sightings os iface listenWindow).find? fun s => s.address = x <;> rfl

theorem observations_eq (formatMessage : ℤ → Option Bytes) :
    (discoverLinkLayerHosts formatMessage os iface listenWindow).observations =
      ((sightings os iface listenWindow).map Sighting.address).eraseDups.map fun x =>
        ⟨inetNtop x, macOf os iface x, sourceOf (sightings os iface listenWindow) x⟩ := by
  have hmacs : ∀ c ∈ (cached iface.ifIndex os.firstTable ++
      captured (os.capture.packets iface listenWindow) ++
        cached iface.ifIndex os.secondTable).map Sighting.observation,
      isZeroMac c.mac = true → c.mac = [] := by
    intro c hc hzero
    rw [List.map_append, List.map_append, List.mem_append, List.mem_append] at hc
    rcases hc with (hc | hc) | hc
    · simp [cached_mac c hc] at hzero
    · simp only [captured, List.map_map, List.mem_map, Function.comp] at hc
      obtain ⟨x, -, rfl⟩ := hc
      rfl
    · simp [cached_mac c hc] at hzero
  have hips : ((sightings os iface listenWindow).map Sighting.observation).map L2Observation.ip =
      ((sightings os iface listenWindow).map Sighting.address).map inetNtop := by
    rw [List.map_map, List.map_map]
    rfl
  rw [discover_observations, foldl_collect_eq _ _ hmacs]
  simp only [filter_observations]
  rw [← sightings, hips, eraseDups_map_of_injective inetNtop_injective, List.map_map]
  apply List.map_congr_left
  intro x hx
  obtain ⟨s, hs, rfl⟩ := List.mem_map.mp (List.mem_eraseDups.mp hx)
  have hwanted : IsWanted iface s.address := by simpa using (List.mem_filter.mp hs).2
  exact recordOf_sightings os iface listenWindow hwanted

/-- The addresses sighted. -/
theorem mem_sightings_iff (x : Address) :
    x ∈ (sightings os iface listenWindow).map Sighting.address ↔
      IsWanted iface x ∧
        ((∃ row ∈ os.firstTable.getD [] ++ os.secondTable.getD [],
            IsUsable iface.ifIndex row ∧ row.address = x) ∨
          ∃ packet ∈ os.capture.packets iface listenWindow, ipv4Source packet = some x) := by
  simp only [sightings, cached, captured, usableRows, List.mem_map, List.mem_filter,
    List.mem_append, List.mem_filterMap, decide_eq_true_eq]
  constructor
  · rintro ⟨s, ⟨(⟨row, ⟨hrow, husable⟩, rfl⟩ | ⟨y, ⟨packet, hpacket, hy⟩, rfl⟩) |
      ⟨row, ⟨hrow, husable⟩, rfl⟩, hwanted⟩, rfl⟩
    · exact ⟨hwanted, .inl ⟨row, .inl hrow, husable, rfl⟩⟩
    · exact ⟨hwanted, .inr ⟨packet, hpacket, hy⟩⟩
    · exact ⟨hwanted, .inl ⟨row, .inr hrow, husable, rfl⟩⟩
  · rintro ⟨hwanted, ⟨row, hrow | hrow, husable, rfl⟩ | ⟨packet, hpacket, hx⟩⟩
    · exact ⟨_, ⟨.inl (.inl ⟨row, ⟨hrow, husable⟩, rfl⟩), hwanted⟩, rfl⟩
    · exact ⟨_, ⟨.inr ⟨row, ⟨hrow, husable⟩, rfl⟩, hwanted⟩, rfl⟩
    · exact ⟨_, ⟨.inl (.inr ⟨x, ⟨packet, hpacket, hx⟩, rfl⟩), hwanted⟩, rfl⟩

/-- The first sighting in a list all of whose sightings are of one kind. -/
theorem find?_source {seen : List Sighting} {source : L2ObservationSource}
    (h : ∀ s ∈ seen, s.source = source) (x : Address) :
    (seen.find? fun s => s.address = x).map Sighting.source =
      if x ∈ seen.map Sighting.address then some source else none := by
  cases hfind : seen.find? fun s => s.address = x with
  | none =>
      rw [List.find?_eq_none] at hfind
      rw [if_neg]
      · rfl
      · intro hmem
        obtain ⟨s, hs, hx⟩ := List.mem_map.mp hmem
        exact hfind s hs (by simpa using hx)
  | some s =>
      have hs := List.mem_of_find?_eq_some hfind
      have hx : s.address = x := by simpa using List.find?_some hfind
      rw [if_pos (hx ▸ List.mem_map_of_mem hs), Option.map_some, h s hs]

/-- The first table comes before the packets, and these before the second table. -/
theorem sourceOf_sightings {x : Address} (hx : IsWanted iface x) :
    sourceOf (sightings os iface listenWindow) x =
      if x ∈ (cached iface.ifIndex os.firstTable).map Sighting.address then .neighbourCache
      else if x ∈ (captured (os.capture.packets iface listenWindow)).map Sighting.address then
        .ipv4Traffic
      else if x ∈ (cached iface.ifIndex os.secondTable).map Sighting.address then .neighbourCache
      else .arpTraffic := by
  have hcached (table : Option (List IpNetRow)) :
      ∀ s ∈ cached iface.ifIndex table, s.source = .neighbourCache := by
    intro s hs
    obtain ⟨row, -, rfl⟩ := List.mem_map.mp hs
    rfl
  have hcaptured (packets : List Bytes) : ∀ s ∈ captured packets, s.source = .ipv4Traffic := by
    intro s hs
    obtain ⟨y, -, rfl⟩ := List.mem_map.mp hs
    rfl
  have hsource : sourceOf (sightings os iface listenWindow) x =
      (((sightings os iface listenWindow).find? fun s => s.address = x).map
        Sighting.source).getD .arpTraffic := by
    rw [sourceOf]
    cases (sightings os iface listenWindow).find? fun s => s.address = x <;> rfl
  rw [hsource, sightings, find?_wanted iface _ hx, List.find?_append, List.find?_append,
    Option.map_or, Option.map_or, find?_source (hcached _), find?_source (hcaptured _),
    find?_source (hcached _)]
  split
  · rfl
  split
  · rfl
  split
  · rfl
  · rfl

theorem ips_eq (formatMessage : ℤ → Option Bytes) :
    (discoverLinkLayerHosts formatMessage os iface listenWindow).observations.map
        L2Observation.ip =
      ((sightings os iface listenWindow).map Sighting.address).eraseDups.map inetNtop := by
  rw [observations_eq, List.map_map]
  rfl

/-- The addresses observed. -/
theorem mem_ips_iff (formatMessage : ℤ → Option Bytes) (x : Address) :
    inetNtop x ∈ (discoverLinkLayerHosts formatMessage os iface listenWindow).observations.map
        L2Observation.ip ↔
      IsWanted iface x ∧
        ((∃ row ∈ os.firstTable.getD [] ++ os.secondTable.getD [],
            IsUsable iface.ifIndex row ∧ row.address = x) ∨
          ∃ packet ∈ os.capture.packets iface listenWindow, ipv4Source packet = some x) := by
  rw [ips_eq, List.mem_map_of_injective inetNtop_injective, List.mem_eraseDups,
    mem_sightings_iff]

/-- Every text observed is the text of an address. -/
theorem exists_of_mem_ips (formatMessage : ℤ → Option Bytes) {ip : Bytes}
    (h : ip ∈ (discoverLinkLayerHosts formatMessage os iface listenWindow).observations.map
      L2Observation.ip) : ∃ x, ip = inetNtop x := by
  rw [ips_eq] at h
  obtain ⟨x, -, rfl⟩ := List.mem_map.mp h
  exact ⟨x, rfl⟩

end Spec

/-- A discovery that returns nothing says why, and only then. -/
theorem error_eq_nil_iff (formatMessage : ℤ → Option Bytes) (os : LinkAnswers)
    (iface : NetworkInterface) (listenWindow : ℤ) :
    (discoverLinkLayerHosts formatMessage os iface listenWindow).error = [] ↔
      (discoverLinkLayerHosts formatMessage os iface listenWindow).observations ≠ [] := by
  have htext : bytes "no station announced an IPv4 address on " ≠ [] := by decide
  simp only [discoverLinkLayerHosts]
  split
  · rename_i hfound
    simp [hfound]
  split
  · rename_i hempty hsilent
    simp [hempty, htext]
  · rename_i hempty herror
    simp [hempty, herror]

/-- Layer-2 discovery for every pair of cache reads, every capture and every
interface. Each wanted address that a usable row of either table or a received
packet shows appears once, in the order of its first sighting, with the hardware
address of its first usable row and the source of its first sighting; the error
is empty exactly when something was found; and of the packets only the set
matters. -/
theorem discoverLinkLayerHosts_spec (formatMessage : ℤ → Option Bytes) (os : LinkAnswers)
    (iface : NetworkInterface) (listenWindow : ℤ) :
    let result := discoverLinkLayerHosts formatMessage os iface listenWindow
    let seen := sightings os iface listenWindow
    result.observations = ((seen.map Sighting.address).eraseDups.map fun x =>
        ⟨inetNtop x, macOf os iface x, sourceOf seen x⟩) ∧
      (result.observations.map L2Observation.ip).Nodup ∧
      (∀ x, inetNtop x ∈ result.observations.map L2Observation.ip ↔
        IsWanted iface x ∧
          ((∃ row ∈ os.firstTable.getD [] ++ os.secondTable.getD [],
              IsUsable iface.ifIndex row ∧ row.address = x) ∨
            ∃ packet ∈ os.capture.packets iface listenWindow, ipv4Source packet = some x)) ∧
      (result.error = [] ↔ result.observations ≠ []) ∧
      ∀ other : CaptureAnswers,
        (∀ packet, packet ∈ other.packets iface listenWindow ↔
          packet ∈ os.capture.packets iface listenWindow) →
        ∀ o, o ∈ (discoverLinkLayerHosts formatMessage { os with capture := other } iface
          listenWindow).observations ↔ o ∈ result.observations := by
  intro result seen
  have hobservations := observations_eq os iface listenWindow formatMessage
  refine ⟨hobservations, ?_, fun x => mem_ips_iff os iface listenWindow formatMessage x,
    error_eq_nil_iff _ _ _ _, ?_⟩
  · rw [ips_eq]
    exact (nodup_eraseDups _).map inetNtop_injective
  · intro other hsame o
    have hseen (x : Address) :
        x ∈ (sightings { os with capture := other } iface listenWindow).map Sighting.address ↔
          x ∈ seen.map Sighting.address := by
      rw [mem_sightings_iff, mem_sightings_iff]
      simp only [hsame]
    have hcaptured (x : Address) :
        x ∈ (captured (other.packets iface listenWindow)).map Sighting.address ↔
          x ∈ (captured (os.capture.packets iface listenWindow)).map Sighting.address := by
      simp only [captured, List.mem_map, List.mem_filterMap, hsame]
    have hrecord (x : Address) (hx : IsWanted iface x) :
        sourceOf (sightings { os with capture := other } iface listenWindow) x =
          sourceOf seen x := by
      rw [sourceOf_sightings _ _ _ hx, sourceOf_sightings _ _ _ hx]
      simp only [hcaptured]
    rw [hobservations, observations_eq, List.mem_map, List.mem_map]
    constructor
    · rintro ⟨x, hx, rfl⟩
      have hmem := (hseen x).mp (List.mem_eraseDups.mp hx)
      refine ⟨x, List.mem_eraseDups.mpr hmem, ?_⟩
      rw [hrecord x ((mem_sightings_iff _ _ _ x).mp hmem).1]
      rfl
    · rintro ⟨x, hx, rfl⟩
      have hmem := List.mem_eraseDups.mp hx
      refine ⟨x, List.mem_eraseDups.mpr ((hseen x).mpr hmem), ?_⟩
      rw [hrecord x ((mem_sightings_iff _ _ _ x).mp hmem).1]
      rfl

end DeviceDiscovery.Network
