import DeviceDiscovery.Ssh.ClientContract

/-!
Where `connect_and_authenticate` fails.

It goes through its phases in order, and the answers of Winsock, libssh2 and the
peer determine the first one that fails (`failingPhase`). That phase determines
the error text and whether the password has been offered
(`connectAndAuthenticate_endsAs`).
-/

namespace DeviceDiscovery.Ssh

open Foundation DeviceDiscovery.Platform DeviceDiscovery.Scanner

inductive ConnectPhase where
  | initialisation
  | connect
  | socketMode
  | sessionCreation
  | handshake
  | hostKey
  | authentication
  deriving DecidableEq, Repr

section Phases

variable (env : Environment) (config : SshConfig) (os : AuthAnswers)

def statusOfHostKey : Bytes := (checkHostKey env { config := config } os).1

/-- The first phase that fails once there is a session. -/
def credentialsPhase : Option ConnectPhase :=
  if config.hostKeyPolicy = .strict ∧ statusOfHostKey env config os ≠ bytes "match" then
    some .hostKey
  else if os.userauthRc ≠ 0 then some .authentication
  else none

/-- The first phase that fails once there is a socket. -/
def sessionPhase : Option ConnectPhase :=
  if os.blockingRc ≠ 0 then some .socketMode
  else if os.session = nullptr then some .sessionCreation
  else if os.handshakeRc ≠ 0 then some .handshake
  else credentialsPhase env config os

/-- The first phase that fails. -/
def failingPhase : Option ConnectPhase :=
  if os.libssh2Init ≠ 0 then some .initialisation
  else if (tcpConnect os.connect config.host config.connectTimeout).result ≠ .connected then
    some .connect
  else sessionPhase env config os

/-- The error text of a failure. -/
def ConnectPhase.error : ConnectPhase → Bytes
  | .initialisation => "libssh2 initialisation failed"
  | .connect =>
      bytes "SSH connection failed (" ++
        (tcpConnect os.connect config.host config.connectTimeout).result.toString ++ bytes ")"
  | .socketMode =>
      bytes "could not switch the SSH socket to blocking mode: " ++
        socketErrorText env.formatMessage os.blockingError
  | .sessionCreation => "could not create SSH session"
  | .handshake => libssh2ErrorText os.session os.handshakeError "SSH handshake failed"
  | .hostKey =>
      bytes "SSH host key verification failed (status: " ++ statusOfHostKey env config os ++
        bytes "); add the key to known_hosts or run without --strict-host-key"
  | .authentication =>
      bytes "SSH authentication failed for user '" ++ config.username ++ bytes "'"

/-- The offers of the password before a failure. -/
def ConnectPhase.offers : ConnectPhase → List SshCall
  | .authentication =>
      [.userauthPassword os.session (cString config.username) (cString config.password)
        os.userauthRc]
  | _ => []

structure FailsAt (phase : ConnectPhase) (invocation : Invocation Bool) : Prop where
  result : invocation.result = false
  lastError : invocation.client.lastError = phase.error env config os
  offers : invocation.calls.filter SshCall.offersPassword = phase.offers config os

/-- The end of an invocation whose first failing phase is `phase`, if there is one. -/
def EndsAs (phase : Option ConnectPhase) (invocation : Invocation Bool) : Prop :=
  match phase with
  | none => invocation.result = true
  | some phase => FailsAt env config os phase invocation

end Phases

theorem filter_offersPassword {calls : List SshCall}
    (h : ∀ call ∈ calls, call.offersPassword = false) :
    calls.filter SshCall.offersPassword = [] := by
  rw [List.filter_eq_nil_iff]
  intro call hcall
  simp [h call hcall]

section Parts

variable {env : Environment} {config : SshConfig} {os : AuthAnswers}

theorem EndsAs.after {phase : Option ConnectPhase} {invocation : Invocation Bool}
    (h : EndsAs env config os phase invocation) {calls : List SshCall}
    (hcalls : ∀ call ∈ calls, call.offersPassword = false) :
    EndsAs env config os phase (invocation.after calls) := by
  cases phase with
  | none => exact h
  | some phase =>
      refine ⟨h.result, h.lastError, ?_⟩
      rw [Invocation.after, List.filter_append, filter_offersPassword hcalls]
      exact h.offers

/-- A failure disconnects, which offers nothing. -/
theorem EndsAs.fail {phase : ConnectPhase} {calls : List SshCall}
    (hoffers : calls.filter SshCall.offersPassword = phase.offers config os)
    (client : SshClient) :
    EndsAs env config os (some phase) (client.fail (phase.error env config os) calls) := by
  refine ⟨rfl, rfl, ?_⟩
  rw [SshClient.fail, List.filter_append, hoffers, filter_offersPassword (disconnect_no_offer _),
    List.append_nil]

/-- The status depends on the configuration only. -/
theorem checkHostKey_status {client : SshClient} (hconfig : client.config = config) :
    (checkHostKey env client os).1 = statusOfHostKey env config os := by
  subst hconfig
  unfold statusOfHostKey checkHostKey
  dsimp only
  generalize (if client.config.knownHostsPath = [] then defaultKnownHostsPath env
    else client.config.knownHostsPath) = path
  cases os.hostKey with
  | none => rfl
  | some hostKey =>
      dsimp only
      split
      · rfl
      split <;> rfl

theorem verifyAndAuthenticate_endsAs {client : SshClient} (hconfig : client.config = config)
    (hsession : client.session = os.session) :
    EndsAs env config os (credentialsPhase env config os)
      (verifyAndAuthenticate env client os) := by
  have hchecked := filter_offersPassword fun call hcall =>
    (checkHostKey_keeps env client os call hcall).1
  have hoffered : ((checkHostKey env client os).2 ++ [SshCall.userauthPassword client.session
      (cString client.config.username) (cString client.config.password) os.userauthRc]).filter
        SshCall.offersPassword = ConnectPhase.authentication.offers config os := by
    rw [List.filter_append, hchecked, hsession, hconfig]
    rfl
  unfold verifyAndAuthenticate credentialsPhase
  dsimp only
  rw [checkHostKey_status hconfig, hconfig]
  by_cases hstrict : config.hostKeyPolicy = .strict ∧ statusOfHostKey env config os ≠ bytes "match"
  · rw [if_pos hstrict, if_pos hstrict]
    exact .fail hchecked _
  rw [if_neg hstrict, if_neg hstrict]
  by_cases hrc : os.userauthRc ≠ 0
  · rw [if_pos hrc, if_pos hrc]
    rw [hconfig] at hoffered
    exact .fail hoffered _
  · rw [if_neg hrc, if_neg hrc]
    rfl

theorem openSession_endsAs {client : SshClient} (hconfig : client.config = config) :
    EndsAs env config os (sessionPhase env config os) (openSession env client os) := by
  unfold openSession sessionPhase
  dsimp only
  by_cases hblocking : os.blockingRc ≠ 0
  · rw [if_pos hblocking, if_pos hblocking]
    exact .fail rfl _
  rw [if_neg hblocking, if_neg hblocking]
  by_cases hsession : os.session = nullptr
  · rw [if_pos hsession, if_pos hsession]
    exact .fail rfl _
  rw [if_neg hsession, if_neg hsession]
  by_cases hhandshake : os.handshakeRc ≠ 0
  · rw [if_pos hhandshake, if_pos hhandshake]
    exact .fail rfl _
  · rw [if_neg hhandshake, if_neg hhandshake]
    let opened : SshClient := { client with session := os.session }
    have hverify : EndsAs env config os (credentialsPhase env config os)
        (verifyAndAuthenticate env opened os) := verifyAndAuthenticate_endsAs hconfig rfl
    refine hverify.after ?_
    simp [SshCall.offersPassword]

/-- The first call of the process ends as its first failing phase says. -/
theorem connectAndAuthenticate_endsAs (client : SshClient) :
    EndsAs env client.config os (failingPhase env client.config os)
      (client.connectAndAuthenticate env none os) := by
  have hsilent := ensureLibssh2Initialised_no_offer none os.libssh2Init
  have htcp := List.forall_mem_append.mpr ⟨hsilent, winsock_no_offer
    (tcpConnect os.connect client.config.host client.config.connectTimeout).calls⟩
  unfold SshClient.connectAndAuthenticate failingPhase
  dsimp only
  have hready : (!(ensureLibssh2Initialised none os.libssh2Init).1) = true ↔
      os.libssh2Init ≠ 0 := by
    simp [ensureLibssh2Initialised]
  by_cases hinit : os.libssh2Init ≠ 0
  · rw [if_pos hinit, if_pos (hready.mpr hinit)]
    exact ⟨rfl, rfl, filter_offersPassword hsilent⟩
  rw [if_neg hinit, if_neg (mt hready.mp hinit)]
  by_cases hconnect :
      (tcpConnect os.connect client.config.host client.config.connectTimeout).result ≠ .connected
  · rw [if_pos hconnect, if_pos hconnect]
    exact ⟨rfl, rfl, filter_offersPassword htcp⟩
  · rw [if_neg hconnect, if_neg hconnect]
    let connected : SshClient := { client with
      socketHandle := (tcpConnect os.connect client.config.host
        client.config.connectTimeout).outSocket }
    have hopen : EndsAs env client.config os (sessionPhase env client.config os)
        (openSession env connected os) := openSession_endsAs rfl
    exact hopen.after htcp

end Parts

/-- The handshake is reached with a session. -/
theorem session_of_handshake {env : Environment} {config : SshConfig} {os : AuthAnswers}
    (h : failingPhase env config os = some .handshake) : os.session ≠ nullptr := by
  intro hnull
  simp only [failingPhase, sessionPhase, hnull] at h
  split at h
  · cases h
  split at h
  · cases h
  split at h <;> cases h

/-! ### The granted connection -/

/-- Every phase succeeds. -/
structure Grants (env : Environment) (config : SshConfig) (os : AuthAnswers) : Prop where
  initialised : os.libssh2Init = 0
  connected : (tcpConnect os.connect config.host config.connectTimeout).result = .connected
  blocking : os.blockingRc = 0
  session : os.session ≠ nullptr
  handshake : os.handshakeRc = 0
  hostKey : config.hostKeyPolicy = .strict → statusOfHostKey env config os = bytes "match"
  accepted : os.userauthRc = 0

theorem failingPhase_eq_none_iff {env : Environment} {config : SshConfig} {os : AuthAnswers} :
    failingPhase env config os = none ↔ Grants env config os := by
  constructor
  · intro h
    unfold failingPhase sessionPhase credentialsPhase at h
    split at h
    · cases h
    rename_i hinit
    split at h
    · cases h
    rename_i hconnect
    split at h
    · cases h
    rename_i hblocking
    split at h
    · cases h
    rename_i hsession
    split at h
    · cases h
    rename_i hhandshake
    split at h
    · cases h
    rename_i hstrict
    split at h
    · cases h
    rename_i hrc
    exact ⟨not_not.mp hinit, not_not.mp hconnect, not_not.mp hblocking, hsession,
      not_not.mp hhandshake, fun hpolicy => not_not.mp fun hne => hstrict ⟨hpolicy, hne⟩,
      not_not.mp hrc⟩
  · rintro ⟨hinit, hconnect, hblocking, hsession, hhandshake, hstrict, hrc⟩
    have hkey : ¬(config.hostKeyPolicy = .strict ∧ statusOfHostKey env config os ≠ bytes "match") :=
      fun h => h.2 (hstrict h.1)
    simp [failingPhase, sessionPhase, credentialsPhase, hinit, hconnect, hblocking, hsession,
      hhandshake, hkey, hrc]

/-- The client that a granted connection leaves. -/
theorem Grants.client {env : Environment} {config : SshConfig} {os : AuthAnswers}
    (h : Grants env config os) :
    (SshClient.connectAndAuthenticate env none { config := config } os).client = {
      config := config
      hostKeyStatus := statusOfHostKey env config os
      socketHandle := (tcpConnect os.connect config.host config.connectTimeout).outSocket
      session := os.session } := by
  obtain ⟨hinit, hconnect, hblocking, hsession, hhandshake, hstrict, hrc⟩ := h
  have hstatus (client : SshClient) (hconfig : client.config = config) :
      (checkHostKey env client os).1 = statusOfHostKey env config os := checkHostKey_status hconfig
  have hkey : ¬(config.hostKeyPolicy = .strict ∧ statusOfHostKey env config os ≠ bytes "match") :=
      fun h => h.2 (hstrict h.1)
  simp [SshClient.connectAndAuthenticate, ensureLibssh2Initialised, hinit, hconnect, openSession,
    hblocking, hsession, hhandshake, verifyAndAuthenticate, hstatus, hkey, hrc, Invocation.after]

end DeviceDiscovery.Ssh
