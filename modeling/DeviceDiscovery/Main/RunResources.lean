import DeviceDiscovery.Foundation.Interleaving
import DeviceDiscovery.Main.DeviceTraffic
import DeviceDiscovery.Scanner.ConcurrentSockets
import DeviceDiscovery.Ssh.ProtocolLedger

/-!
What a run leaves open.

A run makes the calls of the probes of a sweep, which mix, then those of the capture
and of the second sweep if the first one found nothing, and then those of the client.
However the probes mix, as long as none of them throws, every socket, session,
known-hosts list and channel is given back once, after its last use and after what
depends on it (`run_leaves_nothing_open`).
-/

namespace DeviceDiscovery.Main

open Foundation DeviceDiscovery.Platform DeviceDiscovery.Network DeviceDiscovery.Scanner
  DeviceDiscovery.Threading DeviceDiscovery.Ssh DeviceDiscovery.Parser DeviceDiscovery.Output

/-! ### A sweep -/

/-- The calls of a sweep whose probes all return, in the order in which the system sees
them: each probe makes its own in their order, and no handle is handed out while it is
open. -/
structure SweepCalls (answers : ℕ → Except Bytes ProbeAnswers) (addresses : List Bytes)
    (connectTimeout bannerTimeout : ℤ) (trace : List SocketEvent) : Prop where
  probes : ∃ os : Fin addresses.length → ProbeAnswers, (∀ j, answers j.val = .ok (os j)) ∧
    Interleaves (fun j => (probeSsh (os j) (addresses.get j) connectTimeout bannerTimeout).2) trace
  fresh : Ledger.AcquiresFresh (trace.map SocketEvent.ledger)

/-- The connects of the probes report their errors. -/
def ProbesReport (answers : ℕ → Except Bytes ProbeAnswers) : Prop :=
  ∀ j os, answers j = .ok os → os.connect.ReportsError

theorem SweepCalls.balanced {answers : ℕ → Except Bytes ProbeAnswers} {addresses : List Bytes}
    {connectTimeout bannerTimeout : ℤ} {trace : List SocketEvent}
    (h : SweepCalls answers addresses connectTimeout bannerTimeout trace)
    (hreport : ProbesReport answers) : Ledger.Balanced (trace.map SocketEvent.ledger) := by
  obtain ⟨os, hos, hmixed⟩ := h.probes
  refine .interleave (hmixed.map SocketEvent.ledger) h.fresh fun j => ?_
  exact (probeSsh_closesEachOnce (hreport j (os j) (hos j)) _ _ _).balanced

/-- The plain loop over the addresses makes the calls of a sweep. -/
theorem SweepCalls.sequential {answers : ℕ → Except Bytes ProbeAnswers} {addresses : List Bytes}
    (connectTimeout bannerTimeout : ℤ) (os : Fin addresses.length → ProbeAnswers)
    (hos : ∀ j, answers j.val = .ok (os j)) (hreport : ProbesReport answers) :
    SweepCalls answers addresses connectTimeout bannerTimeout
      ((List.finRange addresses.length).flatMap fun j =>
        (probeSsh (os j) (addresses.get j) connectTimeout bannerTimeout).2) := by
  refine ⟨⟨os, hos, ?_⟩, ?_⟩
  · simpa using Interleaves.sequential (fun j =>
      (probeSsh (os j) (addresses.get j) connectTimeout bannerTimeout).2)
      (List.nodup_finRange addresses.length)
  · rw [List.map_flatMap]
    apply Ledger.acquiresFresh_of_run
    apply Ledger.Balanced.flatMap
    exact fun j => (probeSsh_closesEachOnce (hreport j (os j) (hos j)) _ _ _).balanced

/-- The calls of the workers of a pool are those of a sweep, once every probe has ended:
each schedule gives such an order. -/
theorem SweepCalls.of_pool {κ ε : Type*} [DecidableEq κ] {n : ℕ} (hn : 0 < n)
    {answers : ℕ → Except Bytes ProbeAnswers} {addresses : List Bytes}
    {connectTimeout bannerTimeout : ℤ} (os : Fin addresses.length → ProbeAnswers)
    (hos : ∀ j, answers j.val = .ok (os j)) (hreport : ProbesReport answers)
    {task : Fin addresses.length → Except ε SshProbeResult}
    {s : ProbePool (Fin addresses.length) κ ε n}
    (h : Reachable (ProbePool.step task fun j =>
      (probeSsh (os j) (addresses.get j) connectTimeout bannerTimeout).2) (ProbePool.start n) s)
    (hended : ∀ j, s.pool.futures j ≠ none) :
    ∃ trace, SweepCalls answers addresses connectTimeout bannerTimeout trace ∧
      s.sockets = Foundation.run Ledger.step [] (trace.map SocketEvent.ledger) := by
  obtain ⟨trace, hmixed, hfresh, hsockets⟩ := ProbePool.exists_trace h
  have hinv := ProbePool.Inv.of_reachable hn (fun j : Fin addresses.length =>
    probeSsh_closesEachOnce (hreport j (os j) (hos j)) (addresses.get j) connectTimeout
      bannerTimeout) h
  have hmade : s.made = fun j =>
      (probeSsh (os j) (addresses.get j) connectTimeout bannerTimeout).2 := by
    funext j
    exact hinv.ended j (hended j)
  exact ⟨trace, ⟨⟨os, hos, hmade ▸ hmixed⟩, hfresh⟩, hsockets⟩

/-! ### The capture -/

theorem captureLoop_calls (iface : NetworkInterface) (handle : Socket) (deadline : ℤ)
    (acc : List L2Observation) (turns : List CaptureTurn) : ∃ functions : List SocketCall,
      (captureLoop iface handle deadline acc turns).2 = functions.map (.call handle) := by
  induction turns generalizing acc with
  | nil => exact ⟨[], rfl⟩
  | cons turn turns ih =>
      have hturn : ∃ functions : List SocketCall,
          turn.calls handle deadline = functions.map (.call handle) := by
        unfold CaptureTurn.calls
        split
        · exact ⟨[], rfl⟩
        · dsimp only
          split
          · exact ⟨[_], rfl⟩
          · exact ⟨[_, .recv], rfl⟩
      obtain ⟨first, hfirst⟩ := hturn
      rw [captureLoop_cons]
      split
      · exact ⟨first, hfirst⟩
      · obtain ⟨rest, hrest⟩ := ih (turn.packet.toList.foldl (recordPacket iface) acc)
        exact ⟨first ++ rest, by dsimp only; rw [hfirst, hrest, List.map_append]⟩

/-- The guard of the capture closes its socket on every path. -/
theorem captureLinkTraffic_singleSession (formatMessage : ℤ → Option Bytes) (os : CaptureAnswers)
    (iface : NetworkInterface) (listenWindow : ℤ) (result : L2DiscoveryResult) :
    SingleSession (captureLinkTraffic formatMessage os iface listenWindow result).2 := by
  unfold captureLinkTraffic
  split
  · exact .inl rfl
  dsimp only
  split
  · exact .inl rfl
  rename_i hvalid
  rw [closeSocket_of_valid hvalid]
  have hscope (functions : List SocketCall) :
      SingleSession (session os.socket functions ++ [.closesocket os.socket]) :=
    .inr ⟨_, functions, rfl⟩
  split
  · exact hscope []
  split
  · exact hscope [.bind]
  split
  · exact hscope [.bind, .wsaIoctl]
  · obtain ⟨functions, hfunctions⟩ := captureLoop_calls iface os.socket
      (deadlineOf os.start listenWindow) result.observations os.turns
    dsimp only
    rw [hfunctions]
    exact hscope (.bind :: .wsaIoctl :: functions)

/-! ### The run -/

section Run

variable (options : Options) (world : World)

/-- The calls of the capture of stage B, which begins with what the cache shows. -/
def captureCalls (iface : NetworkInterface) : List SocketEvent :=
  (captureLinkTraffic world.env.formatMessage world.link.capture iface options.layer2Window
    { observations := addNeighbours iface [] (readNeighbourCache world.link.firstTable
        iface.ifIndex) }).2

/-- The calls of the two stages. -/
inductive DiscoveryCalls (iface : NetworkInterface) : List SocketEvent → Prop
  | subnet {trace : List SocketEvent} (hfound : subnetDevices options world iface ≠ [])
      (h : SweepCalls world.subnetProbes (subnetHosts iface) options.connectTimeout
        options.bannerTimeout trace) : DiscoveryCalls iface trace
  | layer2 {subnet link : List SocketEvent} (hnone : subnetDevices options world iface = [])
      (hsubnet : SweepCalls world.subnetProbes (subnetHosts iface) options.connectTimeout
        options.bannerTimeout subnet)
      (hlink : SweepCalls world.linkProbes (linkHosts options world iface) options.connectTimeout
        options.bannerTimeout link) :
      DiscoveryCalls iface (subnet ++ captureCalls options world iface ++ link)

/-- The calls of a run whose probes all return: those of the search, if there is one, and
those of the client. -/
inductive RunCalls : List SshCall → Prop
  | searched {password : Bytes} {iface : NetworkInterface} {trace : List SocketEvent}
      (hmock : options.mockIfconfigFile = []) (hselects : Selects options world password iface)
      (h : DiscoveryCalls options world iface trace) :
      RunCalls (trace.map .winsock ++ (tryRun options world).calls)
  | unsearched (h : options.mockIfconfigFile ≠ [] ∨
        ∀ password iface, ¬Selects options world password iface) :
      RunCalls (tryRun options world).calls

/-- Every `connect` that fails has an error. -/
structure ReportsErrors : Prop where
  subnet : ProbesReport world.subnetProbes
  link : ProbesReport world.linkProbes
  client : world.auth.connect.ReportsError

variable {options world}

theorem DiscoveryCalls.balanced {iface : NetworkInterface} {trace : List SocketEvent}
    (h : DiscoveryCalls options world iface trace) (hreport : ReportsErrors world) :
    Ledger.Balanced (trace.map SocketEvent.ledger) := by
  cases h with
  | subnet hfound hsweep => exact hsweep.balanced hreport.subnet
  | layer2 hnone hsubnet hlink =>
      have hcapture : Ledger.Balanced ((captureCalls options world iface).map
          SocketEvent.ledger) :=
        (captureLinkTraffic_singleSession _ _ _ _ _).closesEachOnce.balanced
      rw [List.map_append, List.map_append]
      exact ((hsubnet.balanced hreport.subnet).append hcapture).append
        (hlink.balanced hreport.link)

/-- A run gives back what it gets, whatever the answers are and however the probes mix:
each object is released as often as it is acquired, it is used only in between, and
when it is released nothing depends on it any more. -/
theorem run_leaves_nothing_open {calls : List SshCall} (h : RunCalls options world calls)
    (hreport : ReportsErrors world) :
    Ledger.Balanced (ledgerOf calls) ∧
      (∀ r, Ledger.acquisitions r (ledgerOf calls) = Ledger.releases r (ledgerOf calls)) ∧
      ∀ before r after, ledgerOf calls = before ++ .release r :: after →
        ∃ held, Foundation.run Ledger.step [] before = some held ∧ Ledger.IsLive held r ∧
          ∀ x ∈ held, x.2 ≠ some r := by
  have hclient : Ledger.Balanced (ledgerOf (tryRun options world).calls) :=
    (tryRun_orderly options world hreport.client).accepted.balanced
  have hbalanced : Ledger.Balanced (ledgerOf calls) := by
    cases h with
    | searched hmock hselects hsearch =>
        rw [ledgerOf_append]
        exact (balanced_winsock (hsearch.balanced hreport)).append hclient
    | unsearched h => exact hclient
  refine ⟨hbalanced, hbalanced.acquisitions_eq_releases, fun before r after hsplit => ?_⟩
  rw [Ledger.Balanced, hsplit] at hbalanced
  exact Ledger.nothing_depends_of_release hbalanced

end Run

/-- The search of the sample world, and its client. -/
theorem run_leaves_nothing_open_sample :
    ∃ calls, RunCalls {} (sampleWorld "secret" twoInterfacesReads) calls ∧
      Ledger.Balanced (ledgerOf calls) := by
  have hreport : ReportsErrors (sampleWorld "secret" twoInterfacesReads) := by
    refine ⟨?_, ?_, fun h => absurd rfl h⟩
    · intro j os hos
      cases hos
      exact fun h => absurd rfl h
    · intro j os hos
      cases hos
  obtain ⟨wired, hselects, hfound⟩ : ∃ wired,
      Selects {} (sampleWorld "secret" twoInterfacesReads) "secret" wired ∧
        subnetDevices {} (sampleWorld "secret" twoInterfacesReads) wired ≠ [] :=
    ⟨_, ⟨rfl, _, rfl, rfl⟩, by decide +kernel⟩
  have hcalls := RunCalls.searched rfl hselects
    (.subnet hfound (.sequential _ _ (fun _ => _) (fun _ => rfl) hreport.subnet))
  exact ⟨_, hcalls, (run_leaves_nothing_open hcalls hreport).1⟩

end DeviceDiscovery.Main
