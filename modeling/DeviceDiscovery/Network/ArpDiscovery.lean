import DeviceDiscovery.Foundation.FirstOccurrence
import DeviceDiscovery.Network.InterfaceDiscovery

/-!
Layer-2 discovery (`network/arp_discovery.cpp`).

The neighbour cache is read before and after a capture on the link. All three
passes feed `addObservation`, which keeps one observation for each address and
fills in a hardware address that was missing.
-/

namespace DeviceDiscovery.Network

open Foundation DeviceDiscovery.Platform

def kIpv4HeaderMinimum : ℕ := 20
def kIpv4SourceOffset : ℕ := 12
/-- In milliseconds. -/
def kCapturePollSlice : ℤ := 200

/-- How an address was observed on the directly connected link. -/
inductive L2ObservationSource where
  | arpTraffic
  | ipv4Traffic
  | neighbourCache
  deriving DecidableEq, Repr

def L2ObservationSource.toString : L2ObservationSource → Bytes
  | .arpTraffic => "arp"
  | .ipv4Traffic => "ipv4"
  | .neighbourCache => "neighbour-cache"

structure L2Observation where
  ip : Bytes
  mac : Bytes := []
  source : L2ObservationSource := .arpTraffic
  deriving DecidableEq, Repr

structure L2DiscoveryResult where
  observations : List L2Observation := []
  permissionDenied : Bool := false
  error : Bytes := []
  deriving DecidableEq, Repr

/-- One row of the neighbour cache, as text. -/
structure NeighbourEntry where
  ifIndex : UInt32
  ip : Bytes
  mac : Bytes
  reachable : Bool
  deriving DecidableEq, Repr

def isZeroMac (mac : Bytes) : Bool :=
  mac.isEmpty || mac == bytes "00:00:00:00:00:00" || mac == bytes "00-00-00-00-00-00"

def isUninterestingAddress (ip : Bytes) : Bool :=
  if ip = [] ∨ ip = bytes "0.0.0.0" ∨ ip = bytes "255.255.255.255" then true
  else
    match inetPton ip with
    | none => true
    | some hostOrder => hostOrder &&& 0xF0000000#32 ≥ 0xE0000000#32

/-- What `add_observation` makes of an observation it already has for the
candidate's address. -/
def fillMac (existing candidate : L2Observation) : L2Observation :=
  if isZeroMac existing.mac then { existing with mac := candidate.mac } else existing

def addObservation (observations : List L2Observation) (candidate : L2Observation) :
    List L2Observation :=
  if isUninterestingAddress candidate.ip then observations
  else upsert L2Observation.ip fillMac candidate observations

/-! ### The neighbour cache -/

def selectNeighbourEntries (entries : List NeighbourEntry) (ifIndex : UInt32) :
    List L2Observation :=
  entries.foldl (fun observations entry =>
    if entry.ifIndex ≠ ifIndex ∨ !entry.reachable ∨ isZeroMac entry.mac then observations
    else addObservation observations ⟨entry.ip, entry.mac, .neighbourCache⟩) []

/-- `NL_NEIGHBOR_STATE`. -/
inductive NeighborState where
  | unreachable
  | incomplete
  | probe
  | delay
  | stale
  | reachable
  | permanent
  deriving DecidableEq, Repr

/-- One `MIB_IPNET_ROW2`. -/
structure IpNetRow where
  interfaceIndex : UInt32
  address : Address
  physicalAddress : Bytes
  state : NeighborState
  deriving DecidableEq, Repr

def entryOfRow (row : IpNetRow) : NeighbourEntry where
  ifIndex := row.interfaceIndex
  ip := inetNtop row.address
  mac := formatMac row.physicalAddress
  reachable := row.state ≠ .unreachable ∧ row.state ≠ .incomplete

/-- The table is `none` when `GetIpNetTable2` delivers none. -/
def readNeighbourCache (table : Option (List IpNetRow)) (ifIndex : UInt32) :
    List L2Observation :=
  match table with
  | none => []
  | some rows => selectNeighbourEntries (rows.map entryOfRow) ifIndex

/-! ### The capture -/

def parseIpv4SourceAddress (packet : Bytes) : Bytes :=
  if packet.length < kIpv4HeaderMinimum then []
  else if packet.getD 0 0 >>> 4 ≠ 4 then []
  else
    let headerLength := (packet.getD 0 0 &&& 0x0F).toNat * 4
    if headerLength < kIpv4HeaderMinimum ∨ headerLength > packet.length then []
    else
      let octet (i : ℕ) : UInt8 := packet.getD (kIpv4SourceOffset + i) 0
      inetNtop (ofOctets (octet 0) (octet 1) (octet 2) (octet 3))

/-- What `recv` answers: a packet, the end of the stream, or an error that may
have left part of a packet in the buffer. -/
inductive CaptureRead where
  | packet (buffer : Bytes)
  | zero
  | error (code : ℤ) (buffer : Bytes)
  deriving DecidableEq, Repr

/-- What one turn of the capture loop observes. -/
structure CaptureTurn where
  now : ℤ
  pollRc : ℤ
  read : CaptureRead
  deriving DecidableEq, Repr

/-- What the loop does with a packet. -/
def recordPacket (iface : NetworkInterface) (observations : List L2Observation)
    (packet : Bytes) : List L2Observation :=
  let source := parseIpv4SourceAddress packet
  if source = [] ∨ source = iface.ipv4 then observations
  else addObservation observations { ip := source, source := .ipv4Traffic }

/-- The loop of `capture_link_traffic`. When the turns are used up the deadline
has passed. -/
def captureLoop (iface : NetworkInterface) (handle : Socket) (deadline : ℤ)
    (observations : List L2Observation) :
    List CaptureTurn → List L2Observation × List SocketEvent
  | [] => (observations, [])
  | turn :: turns =>
      if turn.now ≥ deadline then (observations, [])
      else
        let remaining := (deadline - turn.now).tdiv 1000000
        let poll := waitForSocket handle false (min remaining kCapturePollSlice)
        if turn.pollRc < 0 then (observations, [poll])
        else if turn.pollRc = 0 then
          let rest := captureLoop iface handle deadline observations turns
          (rest.1, poll :: rest.2)
        else
          match turn.read with
          | .packet [] | .zero =>
              let rest := captureLoop iface handle deadline observations turns
              (rest.1, poll :: .call handle .recv :: rest.2)
          | .error code _ =>
              if code ≠ wsaeMsgSize then (observations, [poll, .call handle .recv])
              else
                let rest := captureLoop iface handle deadline observations turns
                (rest.1, poll :: .call handle .recv :: rest.2)
          | .packet buffer =>
              let rest := captureLoop iface handle deadline
                (recordPacket iface observations buffer) turns
              (rest.1, poll :: .call handle .recv :: rest.2)

/-! ### One turn of the loop -/

/-- An error of `recv` other than a packet that did not fit. -/
def CaptureRead.IsHardError : CaptureRead → Prop
  | .error code _ => code ≠ wsaeMsgSize
  | _ => False

instance : DecidablePred CaptureRead.IsHardError
  | .packet _ => inferInstanceAs (Decidable False)
  | .zero => inferInstanceAs (Decidable False)
  | .error code _ => inferInstanceAs (Decidable (code ≠ wsaeMsgSize))

/-- The events that end the loop: the deadline, a failed poll and a hard error. -/
def CaptureTurn.Ends (deadline : ℤ) (turn : CaptureTurn) : Prop :=
  turn.now ≥ deadline ∨ turn.pollRc < 0 ∨ turn.pollRc ≠ 0 ∧ turn.read.IsHardError

instance (deadline : ℤ) : DecidablePred (CaptureTurn.Ends deadline) := fun turn =>
  inferInstanceAs (Decidable (turn.now ≥ deadline ∨ turn.pollRc < 0 ∨
    turn.pollRc ≠ 0 ∧ turn.read.IsHardError))

/-- The packet that a turn receives whole. -/
def CaptureTurn.packet (turn : CaptureTurn) : Option Bytes :=
  if turn.pollRc = 0 then none
  else
    match turn.read with
    | .packet buffer => some buffer
    | _ => none

/-- The calls of a turn. -/
def CaptureTurn.calls (handle : Socket) (deadline : ℤ) (turn : CaptureTurn) : List SocketEvent :=
  if turn.now ≥ deadline then []
  else
    let remaining := (deadline - turn.now).tdiv 1000000
    let poll := waitForSocket handle false (min remaining kCapturePollSlice)
    if turn.pollRc ≤ 0 then [poll] else [poll, .call handle .recv]

/-- A turn records the packet it receives whole, and the loop goes on unless the
turn ends it. -/
theorem captureLoop_cons (iface : NetworkInterface) (handle : Socket) (deadline : ℤ)
    (acc : List L2Observation) (turn : CaptureTurn) (turns : List CaptureTurn) :
    captureLoop iface handle deadline acc (turn :: turns) =
      if turn.Ends deadline then (acc, turn.calls handle deadline)
      else
        let rest := captureLoop iface handle deadline
          (turn.packet.toList.foldl (recordPacket iface) acc) turns
        (rest.1, turn.calls handle deadline ++ rest.2) := by
  have hempty : recordPacket iface acc [] = acc := rfl
  by_cases hlate : turn.now ≥ deadline
  · simp [captureLoop, CaptureTurn.Ends, CaptureTurn.calls, hlate]
  by_cases hfailed : turn.pollRc < 0
  · simp [captureLoop, CaptureTurn.Ends, CaptureTurn.calls, hlate, hfailed, hfailed.le]
  by_cases hquiet : turn.pollRc = 0
  · simp [captureLoop, CaptureTurn.Ends, CaptureTurn.calls, CaptureTurn.packet, hlate, hquiet]
  have hready : ¬turn.pollRc ≤ 0 := by omega
  cases hread : turn.read with
  | packet buffer =>
      cases buffer with
      | nil =>
          simp [captureLoop, CaptureTurn.Ends, CaptureRead.IsHardError, CaptureTurn.calls,
            CaptureTurn.packet, hlate, hfailed, hquiet, hready, hread, hempty]
      | cons b buffer =>
          simp [captureLoop, CaptureTurn.Ends, CaptureRead.IsHardError, CaptureTurn.calls,
            CaptureTurn.packet, hlate, hfailed, hquiet, hready, hread]
  | zero =>
      simp [captureLoop, CaptureTurn.Ends, CaptureRead.IsHardError, CaptureTurn.calls,
        CaptureTurn.packet, hlate, hfailed, hquiet, hready, hread]
  | error code copy =>
      simp [captureLoop, CaptureTurn.Ends, CaptureRead.IsHardError, CaptureTurn.calls,
        CaptureTurn.packet, hlate, hfailed, hquiet, hready, hread]

/-! ### The call -/

/-- The answers to one capture. -/
structure CaptureAnswers where
  winsockReady : Bool
  socket : Socket
  socketError : ℤ
  elevated : Bool
  bindRc : ℤ
  bindError : ℤ
  ioctlFailed : Bool
  ioctlError : ℤ
  start : ℤ
  turns : List CaptureTurn
  deriving DecidableEq, Repr

def elevationAdvice : Bytes :=
  bytes (" (layer-2 discovery needs an elevated process: re-run device-discovery "
    ++ "from an Administrator command prompt)")

/-- `capture_link_traffic`; the window is in milliseconds. -/
def captureLinkTraffic (formatMessage : ℤ → Option Bytes) (os : CaptureAnswers)
    (iface : NetworkInterface) (listenWindow : ℤ) (result : L2DiscoveryResult) :
    L2DiscoveryResult × List SocketEvent :=
  if !os.winsockReady then ({ result with error := "Winsock initialisation failed" }, [])
  else
    let handle := os.socket
    if handle = kInvalidSocket then
      let denied : Bool := os.socketError = wsaeAcces
      let error := bytes "cannot open a promiscuous capture socket on " ++ iface.name ++
        bytes ": " ++ socketErrorText formatMessage os.socketError
      let error := if denied ∨ !os.elevated then error ++ elevationAdvice else error
      ({ result with permissionDenied := denied, error := error }, [])
    else
      let opened : List SocketEvent := [.socket handle]
      let close : List SocketEvent := closeSocket handle
      if inetPton iface.ipv4 = none then
        let error := bytes "invalid local address " ++ iface.ipv4 ++ bytes " for " ++ iface.name
        ({ result with error := error }, opened ++ close)
      else
        let calls := opened ++ [.call handle .bind]
        if os.bindRc ≠ 0 then
          let error := bytes "cannot bind the capture socket to " ++ iface.ipv4 ++ bytes ": " ++
            socketErrorText formatMessage os.bindError
          ({ result with error := error }, calls ++ close)
        else
          let calls := calls ++ [.call handle .wsaIoctl]
          if os.ioctlFailed then
            let denied : Bool := os.ioctlError = wsaeAcces
            let error := bytes "cannot enable promiscuous mode on " ++ iface.name ++
              bytes ": " ++ socketErrorText formatMessage os.ioctlError
            let error := if denied then error ++ elevationAdvice else error
            ({ result with permissionDenied := denied, error := error }, calls ++ close)
          else
            let deadline := deadlineOf os.start listenWindow
            let loop := captureLoop iface handle deadline result.observations os.turns
            ({ result with observations := loop.1 }, calls ++ loop.2 ++ close)

/-! ### The three passes -/

/-- The answers to one layer-2 discovery: the two cache reads and the capture. -/
structure LinkAnswers where
  firstTable : Option (List IpNetRow)
  capture : CaptureAnswers
  secondTable : Option (List IpNetRow)
  deriving DecidableEq, Repr

/-- One of the loops over a cache read. -/
def addNeighbours (iface : NetworkInterface) (observations neighbours : List L2Observation) :
    List L2Observation :=
  neighbours.foldl (fun acc observation =>
    if observation.ip ≠ iface.ipv4 then addObservation acc observation else acc) observations

def discoverLinkLayerHosts (formatMessage : ℤ → Option Bytes) (os : LinkAnswers)
    (iface : NetworkInterface) (listenWindow : ℤ) : L2DiscoveryResult :=
  let first := addNeighbours iface [] (readNeighbourCache os.firstTable iface.ifIndex)
  let result := (captureLinkTraffic formatMessage os.capture iface listenWindow
    { observations := first }).1
  let observations := addNeighbours iface result.observations
    (readNeighbourCache os.secondTable iface.ifIndex)
  let error :=
    if observations ≠ [] then []
    else if result.error = [] then
      bytes "no station announced an IPv4 address on " ++ iface.name ++
        bytes " during the layer-2 listening window"
    else result.error
  { result with observations := observations, error := error }

end DeviceDiscovery.Network
