import DeviceDiscovery.Network.LinkLayerHosts

/-!
What the capture loop records, and when it ends (`capture_link_traffic`).

A packet larger than the buffer is reported as `WSAEMSGSIZE`, with a truncated
copy in the buffer. The loop goes on, as after every event other than a failed
poll, a hard error or the deadline, but it does not look at the copy. So the
source of a truncated packet is recorded only when it is observed otherwise
(`capturesTraffic_iff`).
-/

namespace DeviceDiscovery.Network

open Foundation DeviceDiscovery.Platform

/-! ### Events -/

/-- The copy in the buffer after a packet that did not fit. -/
def CaptureTurn.truncatedCopy (turn : CaptureTurn) : Option Bytes :=
  if turn.pollRc = 0 then none
  else
    match turn.read with
    | .error _ copy => some copy
    | _ => none

/-- The turns before the loop ends. -/
def turnsBeforeEnd (deadline : ℤ) (turns : List CaptureTurn) : List CaptureTurn :=
  turns.takeWhile fun turn => ¬turn.Ends deadline

/-- The turns of the capture, none where it does not get as far as its loop. -/
def CaptureAnswers.reached (os : CaptureAnswers) (iface : NetworkInterface) (listenWindow : ℤ) :
    List CaptureTurn :=
  if os.IsOpen iface then turnsBeforeEnd (deadlineOf os.start listenWindow) os.turns else []

/-- What the capture finds in the buffer: the packets it receives whole, and the
truncated copies. -/
def CaptureAnswers.buffers (os : CaptureAnswers) (iface : NetworkInterface) (listenWindow : ℤ) :
    List Bytes :=
  (os.reached iface listenWindow).flatMap fun turn =>
    turn.packet.toList ++ turn.truncatedCopy.toList

def CaptureAnswers.truncatedCopies (os : CaptureAnswers) (iface : NetworkInterface)
    (listenWindow : ℤ) : List Bytes :=
  (os.reached iface listenWindow).filterMap CaptureTurn.truncatedCopy

/-! ### The loop -/

theorem receivedPackets_eq (deadline : ℤ) (turns : List CaptureTurn) :
    receivedPackets deadline turns =
      (turnsBeforeEnd deadline turns).filterMap CaptureTurn.packet := by
  induction turns with
  | nil => rfl
  | cons turn turns ih =>
      rw [receivedPackets_cons, turnsBeforeEnd, List.takeWhile_cons, ← turnsBeforeEnd]
      by_cases hends : turn.Ends deadline
      · rw [if_pos hends, if_neg (by simpa using hends)]
        rfl
      · rw [if_neg hends, if_pos (by simpa using hends), ih]
        cases hpacket : turn.packet <;> simp [hpacket]

/-- As long as no event ends it the loop goes on, from the observations it has. -/
theorem captureLoop_append {deadline : ℤ} {before : List CaptureTurn}
    (h : ∀ turn ∈ before, ¬turn.Ends deadline) (iface : NetworkInterface) (handle : Socket)
    (acc : List L2Observation) (after : List CaptureTurn) :
    captureLoop iface handle deadline acc (before ++ after) =
      let first := captureLoop iface handle deadline acc before
      let rest := captureLoop iface handle deadline first.1 after
      (rest.1, first.2 ++ rest.2) := by
  induction before generalizing acc with
  | nil => rfl
  | cons turn before ih =>
      have hgoes : ¬turn.Ends deadline := h turn (by simp)
      rw [List.cons_append, captureLoop_cons, captureLoop_cons, if_neg hgoes, if_neg hgoes,
        ih fun t ht => h t (by simp [ht])]
      simp only [List.append_assoc]

/-! ### What is recorded -/

/-- The addresses observed after the capture. -/
theorem mem_captureLinkTraffic (formatMessage : ℤ → Option Bytes) (os : CaptureAnswers)
    (iface : NetworkInterface) (listenWindow : ℤ) (result : L2DiscoveryResult) (x : Address) :
    inetNtop x ∈ (captureLinkTraffic formatMessage os iface listenWindow
        result).1.observations.map L2Observation.ip ↔
      inetNtop x ∈ result.observations.map L2Observation.ip ∨
        IsWanted iface x ∧
          ∃ packet ∈ os.packets iface listenWindow, ipv4Source packet = some x := by
  have hips (packets : List Bytes) :
      inetNtop x ∈ ((captured packets).map Sighting.observation).map L2Observation.ip ↔
        ∃ packet ∈ packets, ipv4Source packet = some x := by
    rw [List.map_map, captured, List.map_map]
    show inetNtop x ∈ (packets.filterMap ipv4Source).map inetNtop ↔ _
    rw [List.mem_map_of_injective inetNtop_injective, List.mem_filterMap]
  rw [captureLinkTraffic_observations, mem_foldl_collect, hips, isUninterestingAddress_inetNtop,
    and_comm (b := _ ∧ _)]
  rfl

theorem packets_eq (os : CaptureAnswers) (iface : NetworkInterface) (listenWindow : ℤ) :
    os.packets iface listenWindow =
      (os.reached iface listenWindow).filterMap CaptureTurn.packet := by
  rw [CaptureAnswers.packets, CaptureAnswers.reached]
  split
  · exact receivedPackets_eq _ _
  · rfl

theorem mem_buffers (os : CaptureAnswers) (iface : NetworkInterface) (listenWindow : ℤ)
    (buffer : Bytes) : buffer ∈ os.buffers iface listenWindow ↔
      buffer ∈ os.packets iface listenWindow ∨ buffer ∈ os.truncatedCopies iface listenWindow := by
  simp only [CaptureAnswers.buffers, CaptureAnswers.truncatedCopies, packets_eq, List.mem_flatMap,
    List.mem_append, Option.mem_toList, List.mem_filterMap, and_or_left, exists_or]

/-- The capture adds the wanted source of every buffer it gets, and no event but
those of `CaptureTurn.Ends` keeps it from what comes after. -/
structure CapturesTraffic (formatMessage : ℤ → Option Bytes) (os : CaptureAnswers)
    (iface : NetworkInterface) (listenWindow : ℤ) (result : L2DiscoveryResult) : Prop where
  records : ∀ x, inetNtop x ∈ (captureLinkTraffic formatMessage os iface listenWindow
      result).1.observations.map L2Observation.ip ↔
    inetNtop x ∈ result.observations.map L2Observation.ip ∨
      IsWanted iface x ∧ ∃ buffer ∈ os.buffers iface listenWindow, ipv4Source buffer = some x
  goesOn : ∀ before after, os.turns = before ++ after →
    (∀ turn ∈ before, ¬turn.Ends (deadlineOf os.start listenWindow)) →
      let loop := captureLoop iface os.socket (deadlineOf os.start listenWindow)
      let first := loop result.observations before
      let rest := loop first.1 after
      loop result.observations os.turns = (rest.1, first.2 ++ rest.2)

/-- Every capture, with any events in any order, goes on as it should, and it
records what it should exactly when the wanted source of each truncated copy was
observed before or is that of a packet received whole as well. -/
theorem capturesTraffic_iff (formatMessage : ℤ → Option Bytes) (os : CaptureAnswers)
    (iface : NetworkInterface) (listenWindow : ℤ) (result : L2DiscoveryResult) :
    CapturesTraffic formatMessage os iface listenWindow result ↔
      ∀ copy ∈ os.truncatedCopies iface listenWindow, ∀ x, ipv4Source copy = some x →
        IsWanted iface x →
          inetNtop x ∈ result.observations.map L2Observation.ip ∨
            ∃ packet ∈ os.packets iface listenWindow, ipv4Source packet = some x := by
  constructor
  · intro h copy hcopy x hx hwanted
    have hrecorded := (h.records x).mpr
      (.inr ⟨hwanted, copy, (mem_buffers os iface listenWindow copy).mpr (.inr hcopy), hx⟩)
    exact ((mem_captureLinkTraffic formatMessage os iface listenWindow result x).mp
      hrecorded).imp_right And.right
  · intro h
    refine ⟨fun x => ?_, ?_⟩
    · rw [mem_captureLinkTraffic]
      constructor
      · rintro (hold | ⟨hwanted, packet, hpacket, hx⟩)
        · exact .inl hold
        · exact .inr ⟨hwanted, packet,
            (mem_buffers os iface listenWindow packet).mpr (.inl hpacket), hx⟩
      · rintro (hold | ⟨hwanted, buffer, hbuffer, hx⟩)
        · exact .inl hold
        · rcases (mem_buffers os iface listenWindow buffer).mp hbuffer with hpacket | hcopy
          · exact .inr ⟨hwanted, buffer, hpacket, hx⟩
          · exact (h buffer hcopy x hx hwanted).imp_right fun hwhole => ⟨hwanted, hwhole⟩
    · intro before after hturns hgoes loop first rest
      have happend := captureLoop_append hgoes iface os.socket result.observations after
      rw [← hturns] at happend
      exact happend

/-- `10.20.30.1`. -/
def listeningInterface : NetworkInterface where
  name := "Ethernet"
  ipv4 := "10.20.30.1"
  netmask := "255.255.255.0"
  address := ofOctets 10 20 30 1
  mask := blockMask 32 8
  ifIndex := 7

/-- The header of a packet from `10.20.30.7`. -/
def jumboHeader : Bytes :=
  [0x45, 0, 0xFF, 0xFF, 0, 0, 0, 0, 64, 17, 0, 0, 10, 20, 30, 7, 10, 20, 30, 255]

/-- The 65535 bytes that the buffer takes of a larger packet. -/
def jumboCopy : Bytes := jumboHeader ++ List.replicate 65515 0

/-- The one packet of the capture does not fit. -/
def jumboCapture : CaptureAnswers where
  winsockReady := true
  socket := 1
  socketError := 0
  elevated := true
  bindRc := 0
  bindError := 0
  ioctlFailed := false
  ioctlError := 0
  start := 0
  turns := [⟨0, 1, .error wsaeMsgSize jumboCopy⟩]

theorem truncated_source_lost :
    jumboCopy.length = 65535 ∧
      ¬CapturesTraffic (fun _ => none) jumboCapture listeningInterface 4000 {} := by
  have hheader (payload : Bytes) :
      ipv4Source (jumboHeader ++ payload) = some (ofOctets 10 20 30 7) := by
    simp [ipv4Source, IsIpv4Header, jumboHeader]
  have hbuffer : jumboCopy ∈ jumboCapture.buffers listeningInterface 4000 := by
    have hreached : jumboCapture.reached listeningInterface 4000 =
        [⟨0, 1, .error wsaeMsgSize jumboCopy⟩] := rfl
    rw [CaptureAnswers.buffers, hreached]
    exact List.mem_singleton_self _
  have hnothing : (captureLinkTraffic (fun _ => none) jumboCapture listeningInterface 4000
      {}).1.observations = [] := rfl
  refine ⟨by rw [jumboCopy, List.length_append, List.length_replicate]; rfl, fun h => ?_⟩
  have hrecorded := (h.records (ofOctets 10 20 30 7)).mpr
    (.inr ⟨by decide, jumboCopy, hbuffer, hheader _⟩)
  rw [hnothing] at hrecorded
  cases hrecorded

end DeviceDiscovery.Network
