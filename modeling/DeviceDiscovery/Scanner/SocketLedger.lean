import DeviceDiscovery.Scanner.SshDetector

/-!
The handles of a connection attempt and of the two probes.

An attempt opens nothing, keeps the one handle it opened, or closes it: its eight
exits come down to these three outcomes (`tcpConnect_outcome`). A probe closes
what the attempt kept, after the banner has been read over it. So the calls of a
probe are nothing, or one handle from `socket` to `closesocket` with every other
call between the two.
-/

namespace DeviceDiscovery.Scanner

open Foundation DeviceDiscovery.Platform

/-- A failing `connect` leaves an error. -/
def ConnectAnswers.ReportsError (os : ConnectAnswers) : Prop :=
  os.connectRc ≠ 0 → os.connectError ≠ 0

instance (os : ConnectAnswers) : Decidable os.ReportsError :=
  inferInstanceAs (Decidable (os.connectRc ≠ 0 → os.connectError ≠ 0))

/-- The calls on one handle, from `socket` on. -/
def session (handle : Socket) (functions : List SocketCall) : List SocketEvent :=
  .socket handle :: functions.map (.call handle)

/-- How an attempt ends: without a handle, with one that it keeps, or with one
that it has closed. -/
inductive Attempt.Outcome : Attempt → Prop
  | nothing : Outcome ⟨.error, kInvalidSocket, []⟩
  | kept (handle : Socket) (functions : List SocketCall) (hvalid : handle ≠ kInvalidSocket) :
      Outcome ⟨.connected, handle, session handle functions⟩
  | closed (result : ConnectResult) (handle : Socket) (functions : List SocketCall)
      (hvalid : handle ≠ kInvalidSocket) (hfailed : result ≠ .connected) :
      Outcome (.closed result handle (session handle functions))

theorem classify_ne_connected {errorCode : ℤ} (h : errorCode ≠ 0) :
    classify errorCode ≠ .connected := by
  unfold classify
  rw [if_neg h]
  repeat' split
  all_goals exact fun hconnected => nomatch hconnected

/-- Each exit of `tcp_connect` has one of the outcomes. -/
theorem tcpConnect_outcome {os : ConnectAnswers} (hos : os.ReportsError) (ip : Bytes)
    (timeout : ℤ) : (tcpConnect os ip timeout).Outcome := by
  have branch {c : Prop} [Decidable c] {yes no : Attempt} (hyes : c → yes.Outcome)
      (hno : ¬c → no.Outcome) : (if c then yes else no).Outcome :=
    iteInduction (motive := Attempt.Outcome) hyes hno
  let poll : SocketCall := .poll true (toInt32 (if timeout < 0 then 0 else timeout))
  refine branch (fun _ => .nothing) fun _ => branch (fun _ => .nothing) fun _ =>
    branch (fun _ => .nothing) fun hvalid => ?_
  refine branch (fun _ => .closed .error _ [.ioctlsocket] hvalid (by decide)) fun _ => ?_
  refine branch (fun _ => .kept _ [.ioctlsocket, .connect] hvalid) fun hrc => ?_
  refine branch (fun _ => .closed _ _ [.ioctlsocket, .connect] hvalid
    (classify_ne_connected (hos hrc))) fun _ => ?_
  refine branch (fun _ => .closed .timedOut _ [.ioctlsocket, .connect, poll] hvalid (by decide))
    fun _ => ?_
  refine branch (fun _ => .closed .error _ [.ioctlsocket, .connect, poll] hvalid (by decide))
    fun _ => ?_
  refine branch (fun _ => .closed .error _ [.ioctlsocket, .connect, poll, .getsockopt] hvalid
    (by decide)) fun _ => ?_
  refine branch (fun hso => .closed _ _ [.ioctlsocket, .connect, poll, .getsockopt] hvalid
    (classify_ne_connected hso)) fun _ => ?_
  exact .kept _ [.ioctlsocket, .connect, poll, .getsockopt] hvalid

/-! ### Open and closed handles -/

/-- The handle is open after the calls. -/
def IsOpen (calls : List SocketEvent) (handle : Socket) : Prop :=
  ∃ live, run Ledger.step [] (calls.map SocketEvent.ledger) = some live ∧
    Ledger.IsLive live handle

/-- Each handle that was obtained is closed exactly once, and a handle is passed
to a call only between the two. -/
structure ClosesEachOnce (calls : List SocketEvent) : Prop where
  balanced : Ledger.Balanced (calls.map SocketEvent.ledger)
  once : ∀ handle, .socket handle ∈ calls → calls.count (.closesocket handle) = 1

theorem closeSocket_of_valid {handle : Socket} (h : handle ≠ kInvalidSocket) :
    closeSocket handle = [.closesocket handle] := if_pos h

theorem closeSocket_invalid : closeSocket kInvalidSocket = [] := if_neg fun h => h rfl

theorem run_session (handle : Socket) (functions : List SocketCall) :
    run Ledger.step [] ((session handle functions).map SocketEvent.ledger) =
      some [(handle, none)] := by
  have huses : run Ledger.step [(handle, none)]
      ((functions.map (SocketEvent.call handle)).map SocketEvent.ledger) =
        some [(handle, none)] := by
    apply Ledger.run_uses
    intro e he
    obtain ⟨_, hcall, rfl⟩ := List.mem_map.mp he
    obtain ⟨function, -, rfl⟩ := List.mem_map.mp hcall
    exact ⟨handle, rfl, by simp [Ledger.IsLive]⟩
  rw [session, List.map_cons, run_cons]
  simpa [SocketEvent.ledger, Ledger.step, Ledger.IsLive] using huses

theorem closesEachOnce_nil : ClosesEachOnce [] := ⟨rfl, fun _ h => nomatch h⟩

theorem closesEachOnce_session (handle : Socket) (functions : List SocketCall) :
    ClosesEachOnce (session handle functions ++ [.closesocket handle]) where
  balanced := by
    rw [Ledger.Balanced, List.map_append, run_append, run_session]
    simp [SocketEvent.ledger, run_cons, Ledger.step, Ledger.IsLive]
  once other hother := by
    have hsame : other = handle := by
      simpa [session] using hother
    have hnone : ∀ h : Socket, (session handle functions).count (.closesocket h) = 0 := by
      intro h
      rw [List.count_eq_zero]
      simp [session]
    rw [hsame, List.count_append, hnone, List.count_singleton_self]

namespace Attempt.Outcome

variable {attempt : Attempt}

theorem connected_iff (h : attempt.Outcome) : attempt.result = .connected ↔
    attempt.outSocket ≠ kInvalidSocket ∧ IsOpen attempt.calls attempt.outSocket := by
  cases h with
  | nothing => simp
  | kept handle functions hvalid =>
      simp only [true_iff]
      exact ⟨hvalid, _, run_session handle functions, by simp [Ledger.IsLive]⟩
  | closed result handle functions hvalid hfailed => simp [Attempt.closed, hfailed]

theorem closesEachOnce_of_failed (h : attempt.Outcome) (hfailed : attempt.result ≠ .connected) :
    attempt.outSocket = kInvalidSocket ∧ ClosesEachOnce attempt.calls := by
  cases h with
  | nothing => exact ⟨rfl, closesEachOnce_nil⟩
  | kept handle functions hvalid => exact absurd rfl hfailed
  | closed result handle functions hvalid hresult =>
      refine ⟨rfl, ?_⟩
      rw [Attempt.closed, closeSocket_of_valid hvalid]
      exact closesEachOnce_session handle functions

/-- Further calls on what the attempt kept, and then `close_socket`. -/
theorem closesEachOnce_of_connected (h : attempt.Outcome) (hresult : attempt.result = .connected)
    (functions : List SocketCall) :
    ClosesEachOnce (attempt.calls ++ functions.map (.call attempt.outSocket) ++
      closeSocket attempt.outSocket) := by
  cases h with
  | nothing => cases hresult
  | kept handle first hvalid =>
      have hcalls : session handle first ++ functions.map (.call handle) =
          session handle (first ++ functions) := by
        rw [session, session, List.map_append, List.cons_append]
      show ClosesEachOnce (session handle first ++ functions.map (.call handle) ++
        closeSocket handle)
      rw [hcalls, closeSocket_of_valid hvalid]
      exact closesEachOnce_session handle _
  | closed result handle first hvalid hfailed => exact absurd hresult hfailed

end Attempt.Outcome

/-! ### The probes -/

/-- The read loop makes no other call than those on its handle. -/
theorem readLoop_calls (handle : Socket) (deadline : ℤ) (buffer : Bytes)
    (turns : List BannerTurn) :
    ∃ functions : List SocketCall,
      (readLoop handle deadline buffer turns).2 = functions.map (.call handle) := by
  induction turns generalizing buffer with
  | nil => exact ⟨[], rfl⟩
  | cons turn turns ih =>
      let poll : SocketCall := .poll false
        (toInt32 (if toMilliseconds (deadline - turn.now) < 0 then 0
          else toMilliseconds (deadline - turn.now)))
      obtain ⟨functions, hrest⟩ := ih (buffer ++ turn.received)
      simp only [readLoop]
      split
      · exact ⟨[], rfl⟩
      split
      · exact ⟨[poll], rfl⟩
      split
      · exact ⟨[poll, .recv], rfl⟩
      split
      · exact ⟨[poll, .recv], rfl⟩
      · rw [hrest]
        exact ⟨poll :: .recv :: functions, rfl⟩

theorem tcpProbe_closesEachOnce {os : ConnectAnswers} (hos : os.ReportsError) (ip : Bytes)
    (timeout : ℤ) : ClosesEachOnce (tcpProbe os ip timeout).2 := by
  have houtcome := tcpConnect_outcome hos ip timeout
  show ClosesEachOnce ((tcpConnect os ip timeout).calls ++
    closeSocket (tcpConnect os ip timeout).outSocket)
  by_cases hresult : (tcpConnect os ip timeout).result = .connected
  · have hkept := houtcome.closesEachOnce_of_connected hresult []
    rwa [List.map_nil, List.append_nil] at hkept
  · obtain ⟨hout, hcalls⟩ := houtcome.closesEachOnce_of_failed hresult
    rwa [hout, closeSocket_invalid, List.append_nil]

theorem probeSsh_closesEachOnce {os : ProbeAnswers} (hos : os.connect.ReportsError) (ip : Bytes)
    (connectTimeout bannerTimeout : ℤ) :
    ClosesEachOnce (probeSsh os ip connectTimeout bannerTimeout).2 := by
  have houtcome := tcpConnect_outcome hos ip connectTimeout
  cases hresult : (tcpConnect os.connect ip connectTimeout).result with
  | connected =>
      obtain ⟨functions, hread⟩ := readLoop_calls
        (tcpConnect os.connect ip connectTimeout).outSocket
        (deadlineOf os.banner.start bannerTimeout) [] os.banner.turns
      simp only [probeSsh, hresult, readSshBanner, hread]
      exact houtcome.closesEachOnce_of_connected hresult functions
  | refused | timedOut | unreachable | error =>
      have hfailed : (tcpConnect os.connect ip connectTimeout).result ≠ .connected := by
        rw [hresult]
        decide
      simp only [probeSsh, hresult]
      exact (houtcome.closesEachOnce_of_failed hfailed).2

/-- The states of a probe that has talked to the device. -/
def SshProbeStatus.connected : SshProbeStatus → Bool
  | .sshDetected | .notSsh | .noBanner => true
  | .portClosed | .timeout | .unreachable | .error => false

theorem connected_of_status {os : ProbeAnswers} {ip : Bytes} {connectTimeout bannerTimeout : ℤ}
    (h : (probeSsh os ip connectTimeout bannerTimeout).1.status.connected = true) :
    (tcpConnect os.connect ip connectTimeout).result = .connected := by
  cases hresult : (tcpConnect os.connect ip connectTimeout).result with
  | connected => rfl
  | refused | timedOut | unreachable | error =>
      simp [probeSsh, hresult, SshProbeStatus.connected] at h

/-- An attempt is connected exactly when it leaves an open handle, and otherwise
leaves none and has closed what it opened. The two probes close every handle once
and use none after that, and only a connected attempt makes a probe report what
the other end sent. -/
theorem socket_handles (os : ProbeAnswers) (hos : os.connect.ReportsError) (ip : Bytes)
    (connectTimeout bannerTimeout : ℤ) :
    let attempt := tcpConnect os.connect ip connectTimeout
    let probe := probeSsh os ip connectTimeout bannerTimeout
    (attempt.result = .connected ↔
        attempt.outSocket ≠ kInvalidSocket ∧ IsOpen attempt.calls attempt.outSocket) ∧
      (attempt.result ≠ .connected →
        attempt.outSocket = kInvalidSocket ∧ ClosesEachOnce attempt.calls) ∧
      ClosesEachOnce (tcpProbe os.connect ip connectTimeout).2 ∧
      ClosesEachOnce probe.2 ∧
      (probe.1.status ∈ [SshProbeStatus.sshDetected, .notSsh, .noBanner] →
        attempt.result = .connected) := by
  have houtcome := tcpConnect_outcome hos ip connectTimeout
  refine ⟨houtcome.connected_iff, houtcome.closesEachOnce_of_failed,
    tcpProbe_closesEachOnce hos ip connectTimeout,
    probeSsh_closesEachOnce hos ip connectTimeout bannerTimeout, fun hstatus => ?_⟩
  have hconnected : (probeSsh os ip connectTimeout bannerTimeout).1.status.connected = true := by
    revert hstatus
    cases (probeSsh os ip connectTimeout bannerTimeout).1.status <;>
      simp [SshProbeStatus.connected]
  exact connected_of_status hconnected

/-- A connection that the poll reports, and a banner in two pieces. -/
def sampleAnswers : ProbeAnswers where
  connect := ⟨true, 64, true, -1, wsaeWouldBlock, 1, 0, 0⟩
  banner := ⟨0, [⟨0, 1, "SSH-2.0"⟩, ⟨1, 1, "-dropbear\r\n"⟩]⟩

theorem socket_handles_sample :
    (probeSsh sampleAnswers "10.0.0.2" 500 1500).1.status = .sshDetected ∧
      (tcpConnect sampleAnswers.connect "10.0.0.2" 500).result = .connected ∧
      ClosesEachOnce (probeSsh sampleAnswers "10.0.0.2" 500 1500).2 := by
  have hstatus : (probeSsh sampleAnswers "10.0.0.2" 500 1500).1.status = .sshDetected := by decide
  have h := socket_handles sampleAnswers (by decide) "10.0.0.2" 500 1500
  exact ⟨hstatus, h.2.2.2.2 (by simp [hstatus]), h.2.2.2.1⟩

end DeviceDiscovery.Scanner
