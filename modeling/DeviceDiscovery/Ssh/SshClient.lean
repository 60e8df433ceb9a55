import DeviceDiscovery.Platform.Environment
import DeviceDiscovery.Scanner.PortScanner
import DeviceDiscovery.Ssh.Libssh2

/-!
The SSH client (`ssh/ssh_client.cpp`).

`connect_and_authenticate` is cut where the source has its sections: the socket,
the session and its handshake, the host key, the credentials. Each part is
given the answers of Winsock, libssh2 and the peer, and returns its calls with
its result.
-/

namespace DeviceDiscovery.Ssh

open Foundation DeviceDiscovery.Platform DeviceDiscovery.Scanner

inductive HostKeyPolicy where
  | warn
  | strict
  deriving DecidableEq, Repr

/-- Times are in milliseconds. -/
structure SshConfig where
  host : Bytes := []
  port : UInt16 := 22
  username : Bytes := "root"
  password : Bytes := []
  hostKeyPolicy : HostKeyPolicy := .warn
  connectTimeout : ℤ := 5000
  authTimeout : ℤ := 5000
  commandTimeout : ℤ := 5000
  knownHostsPath : Bytes := []
  verbose : Bool := false
  deriving DecidableEq, Repr

structure CommandResult where
  ok : Bool := false
  exitCode : ℤ := -1
  stdoutData : Bytes := []
  stderrData : Bytes := []
  error : Bytes := []
  deriving DecidableEq, Repr

/-- The client with its `Impl`. -/
structure SshClient where
  config : SshConfig
  lastError : Bytes := []
  hostKeyStatus : Bytes := []
  socketHandle : Socket := kInvalidSocket
  session : Pointer := nullptr
  deriving DecidableEq, Repr

/-- What a member function returns, the client it leaves and its calls. -/
structure Invocation (τ : Type) where
  result : τ
  client : SshClient
  calls : List SshCall
  deriving DecidableEq, Repr

/-- The invocation after earlier calls of the same function. -/
def Invocation.after {τ : Type} (calls : List SshCall) (invocation : Invocation τ) :
    Invocation τ :=
  { invocation with calls := calls ++ invocation.calls }

/-! ### Errors and defaults -/

/-- What `libssh2_session_last_error` answers; no message is an empty one. -/
structure SessionError where
  code : ℤ
  message : Bytes
  deriving DecidableEq, Repr

def libssh2ErrorText (session : Pointer) (last : SessionError) (fallback : Bytes) : Bytes :=
  if session = nullptr then fallback
  else if last.message = [] then
    fallback ++ bytes " (libssh2 error " ++ decimalInt last.code ++ bytes ")"
  else fallback ++ bytes ": " ++ last.message

def defaultKnownHostsPath (env : Environment) : Bytes :=
  match env.getenv "USERPROFILE" with
  | none | some [] => []
  | some profile => profile ++ bytes "\\.ssh\\known_hosts"

/-! ### Disconnecting -/

def SshClient.disconnect (client : SshClient) : Invocation Unit where
  result := ()
  client := { client with session := nullptr, socketHandle := kInvalidSocket }
  calls :=
    (if client.session ≠ nullptr then
      [.sessionDisconnect client.session "device-discovery finished", .sessionFree client.session]
    else []) ++ (closeSocket client.socketHandle).map .winsock

/-- A failure of `connect_and_authenticate` once there is a socket. -/
def SshClient.fail (client : SshClient) (error : Bytes) (calls : List SshCall) :
    Invocation Bool :=
  let closed := { client with lastError := error }.disconnect
  ⟨false, closed.client, calls ++ closed.calls⟩

/-! ### Connecting -/

/-- The server's host key and its type. -/
structure HostKey where
  key : Bytes
  keyType : ℤ
  deriving DecidableEq, Repr

/-- The answers to one `connect_and_authenticate`. -/
structure AuthAnswers where
  libssh2Init : ℤ
  connect : ConnectAnswers
  blockingRc : ℤ
  blockingError : ℤ
  session : Pointer
  handshakeRc : ℤ
  handshakeError : SessionError
  hostKey : Option HostKey
  knownHosts : Pointer
  knownhostCheck : ℤ
  userauthRc : ℤ
  deriving DecidableEq, Repr

/-- `ensure_libssh2_initialised`: the once flag holds what the one call of
`libssh2_init` left. -/
def ensureLibssh2Initialised (flag : Option Bool) (rc : ℤ) : Bool × List SshCall :=
  match flag with
  | some ready => (ready, [])
  | none => (rc = 0, [.libssh2Init rc])

def hostKeyStatusOf (check : ℤ) : Bytes :=
  if check = knownhostCheckMatch then "match"
  else if check = knownhostCheckMismatch then "mismatch"
  else if check = knownhostCheckNotFound then "unknown"
  else "check-failure"

/-- The host key status and the calls that led to it. -/
def checkHostKey (env : Environment) (client : SshClient) (os : AuthAnswers) :
    Bytes × List SshCall :=
  let knownHostsPath :=
    if client.config.knownHostsPath = [] then defaultKnownHostsPath env
    else client.config.knownHostsPath
  let calls : List SshCall := [.sessionHostkey client.session]
  match os.hostKey with
  | none => ("unknown", calls)
  | some hostKey =>
      if knownHostsPath = [] then ("unknown", calls)
      else
        let calls := calls ++ [.knownhostInit client.session os.knownHosts]
        if os.knownHosts = nullptr then ("unknown", calls)
        else
          let typeMask := knownhostTypePlain ||| knownhostKeyencRaw |||
            (if hostKey.keyType = hostkeyTypeRsa then knownhostKeySshRsa else 0)
          (hostKeyStatusOf os.knownhostCheck, calls ++ [
            .knownhostReadfile os.knownHosts (cString knownHostsPath),
            .knownhostCheckp os.knownHosts (cString client.config.host) client.config.port
              hostKey.key typeMask os.knownhostCheck,
            .knownhostFree os.knownHosts])

/-- The host key verification and the authentication. -/
def verifyAndAuthenticate (env : Environment) (client : SshClient) (os : AuthAnswers) :
    Invocation Bool :=
  let checked := checkHostKey env client os
  let client := { client with hostKeyStatus := checked.1 }
  if client.config.hostKeyPolicy = .strict ∧ client.hostKeyStatus ≠ bytes "match" then
    client.fail (bytes "SSH host key verification failed (status: " ++ client.hostKeyStatus ++
      bytes "); add the key to known_hosts or run without --strict-host-key") checked.2
  else
    let calls := checked.2 ++ [.userauthPassword client.session (cString client.config.username)
      (cString client.config.password) os.userauthRc]
    if os.userauthRc ≠ 0 then
      client.fail (bytes "SSH authentication failed for user '" ++ client.config.username ++
        bytes "'") calls
    else ⟨true, client, calls⟩

/-- The session on the connected socket. -/
def openSession (env : Environment) (client : SshClient) (os : AuthAnswers) : Invocation Bool :=
  let calls : List SshCall := [.ioctlsocket client.socketHandle os.blockingRc]
  if os.blockingRc ≠ 0 then
    client.fail (bytes "could not switch the SSH socket to blocking mode: " ++
      socketErrorText env.formatMessage os.blockingError) calls
  else
    let calls := calls ++ [.sessionInit os.session client.socketHandle]
    let client := { client with session := os.session }
    if client.session = nullptr then client.fail "could not create SSH session" calls
    else
      let calls := calls ++ [
        .sessionSetBlocking client.session 1,
        .sessionSetTimeout client.session (toInt32 client.config.authTimeout),
        .sessionHandshake client.session client.socketHandle os.handshakeRc]
      if os.handshakeRc ≠ 0 then
        client.fail (libssh2ErrorText client.session os.handshakeError "SSH handshake failed")
          (calls ++ [.sessionLastError client.session])
      else (verifyAndAuthenticate env client os).after calls

def SshClient.connectAndAuthenticate (env : Environment) (flag : Option Bool)
    (client : SshClient) (os : AuthAnswers) : Invocation Bool :=
  let initialised := ensureLibssh2Initialised flag os.libssh2Init
  if !initialised.1 then
    ⟨false, { client with lastError := "libssh2 initialisation failed" }, initialised.2⟩
  else
    let attempt := tcpConnect os.connect client.config.host client.config.connectTimeout
    let calls := initialised.2 ++ attempt.calls.map .winsock
    if attempt.result ≠ .connected then
      let lastError := bytes "SSH connection failed (" ++ attempt.result.toString ++ bytes ")"
      ⟨false, { client with lastError := lastError }, calls⟩
    else
      (openSession env { client with socketHandle := attempt.outSocket } os).after calls

/-! ### Commands -/

/-- What one successful read puts into the buffer. -/
structure Chunk where
  data : Bytes
  some : data ≠ []
  fits : data.length ≤ 4096
  deriving DecidableEq, Repr

/-- The reads of one stream, up to the one that ends its loop: the end of the
stream, or an error. -/
inductive StreamReads where
  | last (code : ℤ) (stops : code ≤ 0)
  | more (chunk : Chunk) (rest : StreamReads)
  deriving DecidableEq, Repr

/-- A read loop of `execute`: the data appended to what there was, and the value
each read returned. -/
def readStream (data : Bytes) : StreamReads → Bytes × List ℤ
  | .last code _ => (data, [code])
  | .more chunk rest =>
      let read := readStream (data ++ chunk.data) rest
      (read.1, chunk.data.length :: read.2)

/-- The answers to one `execute`. -/
structure ExecuteAnswers where
  channel : Pointer
  openError : SessionError
  execRc : ℤ
  execError : SessionError
  stdoutReads : StreamReads
  stderrReads : StreamReads
  exitStatus : ℤ
  deriving DecidableEq, Repr

def SshClient.execute (client : SshClient) (command : Bytes) (os : ExecuteAnswers) :
    Invocation CommandResult :=
  if client.session = nullptr then ⟨{ error := "no authenticated SSH session" }, client, []⟩
  else
    let calls : List SshCall := [
      .sessionSetTimeout client.session (toInt32 client.config.commandTimeout),
      .channelOpenSession client.session os.channel]
    if os.channel = nullptr then
      ⟨{ error := libssh2ErrorText client.session os.openError "could not open SSH channel" },
        client, calls ++ [.sessionLastError client.session]⟩
    else
      let calls := calls ++ [.channelExec os.channel (cString command)]
      if os.execRc ≠ 0 then
        ⟨{ error := libssh2ErrorText client.session os.execError
            "remote command execution failed" },
          client, calls ++ [.sessionLastError client.session, .channelFree os.channel]⟩
      else
        let out := readStream [] os.stdoutReads
        let err := readStream [] os.stderrReads
        ⟨{ ok := true, exitCode := os.exitStatus, stdoutData := out.1, stderrData := err.1 },
          client, calls ++ out.2.map (.channelRead os.channel) ++
            err.2.map (.channelReadStderr os.channel) ++
            [.channelClose os.channel, .channelGetExitStatus os.channel,
              .channelFree os.channel]⟩

end DeviceDiscovery.Ssh
