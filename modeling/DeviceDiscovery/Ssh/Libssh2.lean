import DeviceDiscovery.Platform.Sockets

/-!
libssh2 objects and calls, as `ssh/ssh_client.cpp` uses them.

The calls of a client are recorded in order with their arguments, and with the
results that later decisions look at. Replayed against a ledger they show which
objects are live: a session lives on its socket, a known-hosts object and a
channel on their session.
-/

namespace DeviceDiscovery.Ssh

open Foundation DeviceDiscovery.Platform

/-- The address of a libssh2 object. -/
abbrev Pointer := UInt64

def nullptr : Pointer := 0

/-! ### Constants of `libssh2.h` -/

def knownhostCheckMatch : ℤ := 0
def knownhostCheckMismatch : ℤ := 1
def knownhostCheckNotFound : ℤ := 2

def knownhostTypePlain : ℕ := 1
def knownhostKeyencRaw : ℕ := 1 <<< 16
def knownhostKeySshRsa : ℕ := 2 <<< 18
def hostkeyTypeRsa : ℤ := 1

/-! ### Calls -/

inductive SshCall where
  | libssh2Init (rc : ℤ)
  | winsock (event : SocketEvent)
  | ioctlsocket (handle : Socket) (rc : ℤ)
  /-- Recorded with the socket the session is for. -/
  | sessionInit (session : Pointer) (socket : Socket)
  | sessionSetBlocking (session : Pointer) (blocking : ℤ)
  | sessionSetTimeout (session : Pointer) (timeout : ℤ)
  | sessionHandshake (session : Pointer) (socket : Socket) (rc : ℤ)
  | sessionLastError (session : Pointer)
  | sessionHostkey (session : Pointer)
  | knownhostInit (session knownHosts : Pointer)
  | knownhostReadfile (knownHosts : Pointer) (path : Bytes)
  | knownhostCheckp (knownHosts : Pointer) (host : Bytes) (port : UInt16) (key : Bytes)
      (typeMask : ℕ) (check : ℤ)
  | knownhostFree (knownHosts : Pointer)
  | userauthPassword (session : Pointer) (username password : Bytes) (rc : ℤ)
  | channelOpenSession (session channel : Pointer)
  | channelExec (channel : Pointer) (command : Bytes)
  | channelRead (channel : Pointer) (result : ℤ)
  | channelReadStderr (channel : Pointer) (result : ℤ)
  | channelClose (channel : Pointer)
  | channelGetExitStatus (channel : Pointer)
  | channelFree (channel : Pointer)
  | sessionDisconnect (session : Pointer) (reason : Bytes)
  | sessionFree (session : Pointer)
  deriving DecidableEq, Repr

/-! ### The ledger -/

inductive Resource where
  | socket (handle : Socket)
  | session (session : Pointer)
  | knownHosts (knownHosts : Pointer)
  | channel (channel : Pointer)
  deriving DecidableEq, Repr

/-- The resource behind a handle; the invalid handle stands for none. -/
def socketResource (handle : Socket) : Option Resource :=
  if handle = kInvalidSocket then none else some (.socket handle)

/-- The use of a resource, if there is one. -/
def useOf (resource : Option Resource) : List (Ledger.Event Resource) :=
  resource.toList.map .use

/-- A call that hands out an object, or the null pointer and no object. -/
def acquireOf (pointer : Pointer) (resource : Pointer → Resource) (parent : Option Resource) :
    List (Ledger.Event Resource) :=
  if pointer = nullptr then [] else [.acquire (resource pointer) parent]

def SshCall.ledger : SshCall → List (Ledger.Event Resource)
  | .libssh2Init _ => []
  | .winsock event => [event.ledger.rename .socket]
  | .ioctlsocket handle _ => useOf (socketResource handle)
  | .sessionInit session socket => acquireOf session .session (socketResource socket)
  | .sessionSetBlocking session _ => [.use (.session session)]
  | .sessionSetTimeout session _ => [.use (.session session)]
  | .sessionHandshake session socket _ => .use (.session session) :: useOf (socketResource socket)
  | .sessionLastError session => [.use (.session session)]
  | .sessionHostkey session => [.use (.session session)]
  | .knownhostInit session knownHosts =>
      .use (.session session) :: acquireOf knownHosts .knownHosts (some (.session session))
  | .knownhostReadfile knownHosts _ => [.use (.knownHosts knownHosts)]
  | .knownhostCheckp knownHosts .. => [.use (.knownHosts knownHosts)]
  | .knownhostFree knownHosts => [.release (.knownHosts knownHosts)]
  | .userauthPassword session .. => [.use (.session session)]
  | .channelOpenSession session channel =>
      .use (.session session) :: acquireOf channel .channel (some (.session session))
  | .channelExec channel _ => [.use (.channel channel)]
  | .channelRead channel _ => [.use (.channel channel)]
  | .channelReadStderr channel _ => [.use (.channel channel)]
  | .channelClose channel => [.use (.channel channel)]
  | .channelGetExitStatus channel => [.use (.channel channel)]
  | .channelFree channel => [.release (.channel channel)]
  | .sessionDisconnect session _ => [.use (.session session)]
  | .sessionFree session => [.release (.session session)]

/-- The ledger's view of the calls of a client. -/
def ledgerOf (calls : List SshCall) : List (Ledger.Event Resource) := calls.flatMap SshCall.ledger

@[simp] theorem ledgerOf_nil : ledgerOf [] = [] := rfl

theorem ledgerOf_cons (call : SshCall) (calls : List SshCall) :
    ledgerOf (call :: calls) = call.ledger ++ ledgerOf calls := rfl

theorem ledgerOf_append (calls rest : List SshCall) :
    ledgerOf (calls ++ rest) = ledgerOf calls ++ ledgerOf rest :=
  List.flatMap_append

/-! ### Replaying calls -/

/-- The calls take the live objects `before` to `after`. -/
def Replays (before : Ledger.Live Resource) (calls : List SshCall)
    (after : Ledger.Live Resource) : Prop :=
  run Ledger.step before (ledgerOf calls) = some after

namespace Replays

variable {before middle after : Ledger.Live Resource} {calls rest : List SshCall}

theorem nil : Replays before [] before := rfl

theorem append (h : Replays before calls middle) (hrest : Replays middle rest after) :
    Replays before (calls ++ rest) after := by
  rw [Replays, ledgerOf_append, run_append, h]
  exact hrest

theorem cons {call : SshCall} (h : Replays before [call] middle)
    (hrest : Replays middle rest after) : Replays before (call :: rest) after :=
  h.append hrest

/-- Calls that only use what is live change nothing. -/
theorem uses (h : ∀ e ∈ ledgerOf calls, ∃ r, e = .use r ∧ Ledger.IsLive before r) :
    Replays before calls before :=
  Ledger.run_uses h

end Replays

end DeviceDiscovery.Ssh
