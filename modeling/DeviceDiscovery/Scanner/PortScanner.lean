import DeviceDiscovery.Platform.Inet
import DeviceDiscovery.Platform.Sockets

/-!
TCP connection attempts (`scanner/port_scanner.cpp`).
-/

namespace DeviceDiscovery.Scanner

open Foundation DeviceDiscovery.Platform

/-- Result of a single TCP connection attempt. -/
inductive ConnectResult where
  | connected
  | refused
  | timedOut
  | unreachable
  | error
  deriving DecidableEq, Repr

def ConnectResult.toString : ConnectResult → Bytes
  | .connected => "connected"
  | .refused => "connection refused"
  | .timedOut => "timed out"
  | .unreachable => "unreachable"
  | .error => "error"

def classify (errorCode : ℤ) : ConnectResult :=
  if errorCode = 0 then .connected
  else if errorCode = wsaeConnRefused then .refused
  else if errorCode = wsaeTimedOut then .timedOut
  else if errorCode = wsaeHostUnreach ∨ errorCode = wsaeNetUnreach ∨
      errorCode = wsaeHostDown ∨ errorCode = wsaeNetDown then .unreachable
  else .error

/-- What the operating system answers to one connection attempt. -/
structure ConnectAnswers where
  winsockReady : Bool
  socket : Socket
  nonBlocking : Bool
  connectRc : ℤ
  connectError : ℤ
  pollRc : ℤ
  getsockoptRc : ℤ
  soError : ℤ
  deriving DecidableEq, Repr

/-- A connection attempt: its result, the handle left in `out_socket` and the
calls it made. -/
structure Attempt where
  result : ConnectResult
  outSocket : Socket
  calls : List SocketEvent
  deriving DecidableEq, Repr

/-- An attempt that closes its handle and reports a failure. -/
def Attempt.closed (result : ConnectResult) (handle : Socket) (calls : List SocketEvent) :
    Attempt :=
  ⟨result, kInvalidSocket, calls ++ closeSocket handle⟩

/-- The destination is not among the answers: it decides only whether there is
an attempt at all. -/
def tcpConnect (os : ConnectAnswers) (ip : Bytes) (timeout : ℤ) : Attempt :=
  if !os.winsockReady then ⟨.error, kInvalidSocket, []⟩
  else if inetPton ip = none then ⟨.error, kInvalidSocket, []⟩
  else
    let handle := os.socket
    if handle = kInvalidSocket then ⟨.error, kInvalidSocket, []⟩
    else
      let calls : List SocketEvent := [.socket handle, .call handle .ioctlsocket]
      if !os.nonBlocking then .closed .error handle calls
      else
        let calls := calls ++ [.call handle .connect]
        if os.connectRc = 0 then ⟨.connected, handle, calls⟩
        else if os.connectError ≠ wsaeWouldBlock ∧ os.connectError ≠ wsaeInProgress then
          .closed (classify os.connectError) handle calls
        else
          let calls := calls ++ [waitForSocket handle true timeout]
          if os.pollRc = 0 then .closed .timedOut handle calls
          else if os.pollRc < 0 then .closed .error handle calls
          else
            let calls := calls ++ [.call handle .getsockopt]
            if os.getsockoptRc ≠ 0 then .closed .error handle calls
            else if os.soError ≠ 0 then .closed (classify os.soError) handle calls
            else ⟨.connected, handle, calls⟩

def tcpProbe (os : ConnectAnswers) (ip : Bytes) (timeout : ℤ) : ConnectResult × List SocketEvent :=
  let attempt := tcpConnect os ip timeout
  (attempt.result, attempt.calls ++ closeSocket attempt.outSocket)

/-! ### The handle -/

/-- The sockets open while `handle` is held. -/
def heldSocket (handle : Socket) : Ledger.Live Socket :=
  if handle = kInvalidSocket then [] else [(handle, none)]

/-- An attempt leaves open what is in `out_socket`, and nothing is there when
it failed. -/
structure Attempt.Accounted (attempt : Attempt) : Prop where
  held : run Ledger.step [] (attempt.calls.map SocketEvent.ledger) =
    some (heldSocket attempt.outSocket)
  none_of_failed : attempt.result ≠ .connected → attempt.outSocket = kInvalidSocket

/-- The calls open the socket `handle` and no other, and leave it open. -/
structure Opens (handle : Socket) (calls : List SocketEvent) : Prop where
  valid : handle ≠ kInvalidSocket
  held : run Ledger.step [] (calls.map SocketEvent.ledger) = some [(handle, none)]

namespace Opens

variable {handle : Socket} {calls : List SocketEvent}

theorem socket (h : handle ≠ kInvalidSocket) : Opens handle [.socket handle] :=
  ⟨h, rfl⟩

theorem call (h : Opens handle calls) (function : SocketCall) :
    Opens handle (calls ++ [.call handle function]) := by
  refine ⟨h.valid, ?_⟩
  rw [List.map_append, run_append, h.held]
  simp [SocketEvent.ledger, run_cons, Ledger.step, Ledger.IsLive]

theorem connected (h : Opens handle calls) : Attempt.Accounted ⟨.connected, handle, calls⟩ where
  held := by
    rw [h.held, heldSocket, if_neg h.valid]
  none_of_failed hfailed := absurd rfl hfailed

theorem closed (h : Opens handle calls) (result : ConnectResult) :
    (Attempt.closed result handle calls).Accounted where
  held := by
    have hclose : closeSocket handle = [.closesocket handle] := if_pos h.valid
    rw [Attempt.closed, hclose, List.map_append, run_append, h.held]
    simp [SocketEvent.ledger, run_cons, Ledger.step, Ledger.IsLive, heldSocket]
  none_of_failed _ := rfl

end Opens

/-- The branches of `tcp_connect` are told apart by its `if`s alone. -/
theorem Attempt.Accounted.ite {c : Prop} [Decidable c] {yes no : Attempt}
    (hyes : c → yes.Accounted) (hno : ¬c → no.Accounted) :
    (if c then yes else no).Accounted :=
  iteInduction (motive := Attempt.Accounted) hyes hno

theorem tcpConnect_accounted (os : ConnectAnswers) (ip : Bytes) (timeout : ℤ) :
    (tcpConnect os ip timeout).Accounted := by
  have hnothing : Attempt.Accounted ⟨.error, kInvalidSocket, []⟩ := ⟨rfl, fun _ => rfl⟩
  refine .ite (fun _ => hnothing) fun _ => .ite (fun _ => hnothing) fun _ =>
    .ite (fun _ => hnothing) fun hhandle => ?_
  have ioctlsocket := (Opens.socket hhandle).call .ioctlsocket
  have connect := ioctlsocket.call .connect
  have poll := connect.call (.poll true (toInt32 (if timeout < 0 then 0 else timeout)))
  have getsockopt := poll.call .getsockopt
  refine .ite (fun _ => ioctlsocket.closed _) fun _ => ?_
  refine .ite (fun _ => connect.connected) fun _ => .ite (fun _ => connect.closed _) fun _ => ?_
  refine .ite (fun _ => poll.closed _) fun _ => .ite (fun _ => poll.closed _) fun _ => ?_
  exact .ite (fun _ => getsockopt.closed _) fun _ =>
    .ite (fun _ => getsockopt.closed _) fun _ => getsockopt.connected

end DeviceDiscovery.Scanner
