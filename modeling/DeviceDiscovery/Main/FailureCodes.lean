import DeviceDiscovery.Foundation.Words
import DeviceDiscovery.Main.PasswordGate
import DeviceDiscovery.Ssh.ConnectPhases

/-!
The exit code of a connection that fails (`run`).

`run` looks for the word "authentication" in the error text. The program's own
texts have it exactly when the password was offered and refused. But the text of
a failed switch to blocking mode quotes Windows, and that of a failed handshake
quotes libssh2, and what they say is not up to the program
(`exitCode_tells_phase_iff`).
-/

namespace DeviceDiscovery.Main

open Foundation DeviceDiscovery.Platform DeviceDiscovery.Network DeviceDiscovery.Scanner
  DeviceDiscovery.Ssh DeviceDiscovery.Parser

/-! ### The word in a text -/

section Texts

variable {word : Bytes} {c : UInt8}

theorem contains_append_cons (hc : c ∉ word) (s t : Bytes) :
    contains (s ++ c :: t) word = (contains s word || contains t word) := by
  rw [Bool.eq_iff_iff, Bool.or_eq_true, contains_iff, contains_iff, contains_iff,
    infix_append_cons_iff hc]

theorem contains_append_of_disjoint (hword : word ≠ []) (s : Bytes) {t : Bytes}
    (ht : ∀ c ∈ t, c ∉ word) : contains (s ++ t) word = contains s word := by
  rw [Bool.eq_iff_iff, contains_iff, contains_iff, infix_append_iff_of_disjoint hword ht]

end Texts

theorem notMem_authentication {c : UInt8} (h : c < 97) : c ∉ bytes "authentication" := by
  have hletters : ∀ c ∈ bytes "authentication", 97 ≤ c := forall_mem_of_all (by decide)
  intro hc
  exact absurd (hletters c hc) (UInt8.not_le.mpr h)

/-- A number has no letter of the word. -/
theorem notMem_authentication_of_decimalInt (n : ℤ) :
    ∀ c ∈ decimalInt n, c ∉ bytes "authentication" := by
  have hdigit (m : ℕ) (c : UInt8) (hc : c ∈ decimal m) : c ∉ bytes "authentication" := by
    have h := isDigit_of_mem_decimal hc
    simp only [isDigit, Bool.and_eq_true, decide_eq_true_eq] at h
    exact notMem_authentication (UInt8.lt_of_le_of_lt h.2 (by decide))
  intro c hc
  cases n with
  | ofNat m => exact hdigit m c hc
  | negSucc m =>
      rcases List.mem_cons.mp hc with rfl | hc
      · exact notMem_authentication (by decide)
      · exact hdigit _ c hc

/-- Nor has what `socket_error_text` cuts off. -/
theorem notMem_authentication_of_isMessageTail {c : UInt8} (h : isMessageTail c = true) :
    c ∉ bytes "authentication" := by
  simp only [isMessageTail, Bool.or_eq_true, beq_iff_eq] at h
  rcases h with ((rfl | rfl) | rfl) | rfl <;> exact notMem_authentication (by decide)

theorem contains_append_number (s : Bytes) (n : ℤ) :
    contains (s ++ decimalInt n) (bytes "authentication") =
      contains s (bytes "authentication") :=
  contains_append_of_disjoint (by decide) s (notMem_authentication_of_decimalInt n)

theorem contains_append_paren (s : Bytes) :
    contains (s ++ bytes ")") (bytes "authentication") = contains s (bytes "authentication") := by
  apply contains_append_of_disjoint (by decide)
  exact forall_mem_of_all (by decide)

/-- Text behind a blank is looked at on its own. -/
theorem contains_append_blank (s t : Bytes) :
    contains (s ++ (' ' : UInt8) :: t) (bytes "authentication") =
      (contains s (bytes "authentication") || contains t (bytes "authentication")) :=
  contains_append_cons (notMem_authentication (by decide)) s t

/-- Windows' text is quoted but for its tail. -/
theorem contains_socketErrorText (formatMessage : ℤ → Option Bytes) (errorCode : ℤ) :
    contains (socketErrorText formatMessage errorCode) (bytes "authentication") = true ↔
      ∃ text, formatMessage errorCode = some text ∧
        contains text (bytes "authentication") = true := by
  have hnumber : contains (bytes "Winsock error " ++ decimalInt errorCode)
      (bytes "authentication") = false := by
    rw [contains_append_number]
    decide
  unfold socketErrorText
  split
  · rename_i hnone
    rw [hnumber, hnone]
    simp
  · rename_i hempty
    have hnil : contains [] (bytes "authentication") = false := by decide
    rw [hnumber, hempty]
    simp [hnil]
  · rename_i text hne htext
    have hblank : bytes " (error " = (' ' : UInt8) :: bytes "(error " := by decide
    have hplain : contains (bytes "(error ") (bytes "authentication") = false := by decide
    have htail : contains (text.rdropWhile isMessageTail) (bytes "authentication") =
        contains text (bytes "authentication") := by
      conv_rhs => rw [← List.rdropWhile_append_rtakeWhile (p := isMessageTail) (l := text)]
      exact (contains_append_of_disjoint (by decide) _ fun c hc =>
        notMem_authentication_of_isMessageTail (List.mem_rtakeWhile_imp hc)).symm
    rw [contains_append_paren, contains_append_number, hblank, contains_append_blank, hplain,
      Bool.or_false, htail, htext]
    simp

/-- libssh2's message is quoted as it is. -/
theorem contains_libssh2ErrorText {session : Pointer} (hsession : session ≠ nullptr)
    (last : SessionError) :
    contains (libssh2ErrorText session last (bytes "SSH handshake failed"))
        (bytes "authentication") = contains last.message (bytes "authentication") := by
  unfold libssh2ErrorText
  rw [if_neg hsession]
  split
  · rename_i hempty
    rw [contains_append_paren, contains_append_number, hempty]
    decide
  · have hblank : bytes "SSH handshake failed" ++ bytes ": " ++ last.message =
        bytes "SSH handshake failed:" ++ (' ' : UInt8) :: last.message := rfl
    have hplain : contains (bytes "SSH handshake failed:") (bytes "authentication") = false := by
      decide
    rw [hblank, contains_append_blank, hplain, Bool.false_or]

/-! ### The word in the error texts -/

/-- The foreign text that an error of the phase quotes has the word. -/
def Misleads (env : Environment) (os : AuthAnswers) : ConnectPhase → Prop
  | .socketMode => ∃ text, env.formatMessage os.blockingError = some text ∧
      contains text (bytes "authentication") = true
  | .handshake => contains os.handshakeError.message (bytes "authentication") = true
  | _ => False

/-- The status of a host key is one of four. -/
theorem statusOfHostKey_mem (env : Environment) (config : SshConfig) (os : AuthAnswers) :
    statusOfHostKey env config os ∈
      [bytes "match", bytes "mismatch", bytes "unknown", bytes "check-failure"] := by
  obtain ⟨hstatus, -⟩ | ⟨-, hstatus, -⟩ := checkHostKey_cases env { config := config } os
  · rw [statusOfHostKey, hstatus]
    decide
  · rw [statusOfHostKey, hstatus, hostKeyStatusOf]
    split
    · decide
    split
    · decide
    split <;> decide

/-- An error text has the word when it tells of a refused password, and else only
in what it quotes. -/
theorem contains_error_iff {env : Environment} {config : SshConfig} {os : AuthAnswers}
    {phase : ConnectPhase} (h : failingPhase env config os = some phase) :
    contains (phase.error env config os) (bytes "authentication") = true ↔
      phase = .authentication ∨ Misleads env os phase := by
  cases phase with
  | initialisation =>
      have hplain : contains (bytes "libssh2 initialisation failed") (bytes "authentication") =
        false := by decide
      simp [ConnectPhase.error, Misleads, hplain]
  | connect =>
      have hplain (result : ConnectResult) : contains (bytes "SSH connection failed (" ++
          result.toString ++ bytes ")") (bytes "authentication") = false := by
        cases result <;> decide
      simp only [ConnectPhase.error, Misleads, hplain]
      simp
  | socketMode =>
      have hblank : bytes "could not switch the SSH socket to blocking mode: " =
        bytes "could not switch the SSH socket to blocking mode:" ++ [(' ' : UInt8)] := by decide
      have hplain : contains (bytes "could not switch the SSH socket to blocking mode:")
        (bytes "authentication") = false := by decide
      rw [ConnectPhase.error, hblank, List.append_assoc, List.singleton_append,
        contains_append_blank, hplain, Bool.false_or, contains_socketErrorText]
      simp [Misleads]
  | sessionCreation =>
      have hplain : contains (bytes "could not create SSH session") (bytes "authentication") =
        false := by decide
      simp [ConnectPhase.error, Misleads, hplain]
  | handshake =>
      rw [ConnectPhase.error, contains_libssh2ErrorText (session_of_handshake h)]
      simp [Misleads]
  | hostKey =>
      have hplain : ∀ status ∈ [bytes "match", bytes "mismatch", bytes "unknown",
          bytes "check-failure"], contains (bytes "SSH host key verification failed (status: " ++
            status ++ bytes "); add the key to known_hosts or run without --strict-host-key")
              (bytes "authentication") = false := by decide
      simp only [ConnectPhase.error, Misleads, hplain _ (statusOfHostKey_mem env config os)]
      simp
  | authentication =>
      have hword : bytes "authentication" <:+: bytes "SSH authentication failed for user '" :=
        contains_iff.mp (by decide)
      simp only [true_or, iff_true]
      rw [ConnectPhase.error, contains_iff, List.append_assoc]
      exact hword.trans (List.prefix_append _ _).isInfix

/-! ### The run -/

theorem runMockMode_connected (options : Options) (world : World) :
    (runMockMode options world).connected = [] := by
  unfold runMockMode
  split
  · rfl
  · rename_i contents _
    dsimp only
    generalize (if parseIfconfigOutput contents = [] then parseIpAddrOutput contents
      else parseIfconfigOutput contents) = interfaces
    split <;> rfl

/-- A run that connects is that of its client, but for what it wrote before. -/
theorem run_of_connected {options : Options} {world : World} {outcome : Outcome}
    (hrun : run options world = .ok outcome) {config : SshConfig}
    (hconfig : config ∈ outcome.connected) :
    ∃ password iface stage device stderr, config = sshConfigOf options password device ∧
      outcome = (queryDevice options world password iface stage device).after stderr := by
  have hmock : options.mockIfconfigFile = [] := by
    by_contra hfile
    rw [run, if_pos hfile] at hrun
    rw [← Except.ok.inj hrun, runMockMode_connected] at hconfig
    cases hconfig
  have htry : tryRun options world = outcome := by
    rw [tryRun, hrun]
  obtain ⟨password, iface, -, hon⟩ | ⟨-, hwithheld⟩ := tryRun_cases options world hmock
  · rw [htry] at hon
    subst hon
    obtain ⟨refusal, logged, hchoice, hrefused⟩ | ⟨device, logged, -, hqueried⟩ :=
      runOnInterface_cases options world password iface
    · rw [hrefused, ((chooseDevice_error hchoice).after logged).connected] at hconfig
      cases hconfig
    · have hone := queryDevice_connected options world iface
        (discoverDevices options world iface).stage device password
      rw [hqueried] at hconfig
      exact ⟨password, iface, _, device, logged, List.mem_singleton.mp (hone ▸ hconfig), hqueried⟩
  · rw [htry] at hwithheld
    rw [hwithheld.connected] at hconfig
    cases hconfig

/-- The part of `run` with the client, when the client fails. -/
theorem queryDevice_of_failsAt (options : Options) (world : World) (password : Bytes)
    (iface : NetworkInterface) (stage : Bytes) (device : SshProbeResult) {phase : ConnectPhase}
    (h : failingPhase world.env (sshConfigOf options password device) world.auth = some phase) :
    let config := sshConfigOf options password device
    let outcome := queryDevice options world password iface stage device
    let told := phase = .authentication ∨ Misleads world.env world.auth phase
    (outcome.exitCode = .sshAuthFailed ↔ told) ∧
      (outcome.exitCode = .sshConnectionFailed ↔ ¬told) ∧
      outcome.calls.filter SshCall.offersPassword = phase.offers config world.auth := by
  intro config outcome told
  have hcode (found : Bool) : ((if found then ExitCode.sshAuthFailed else .sshConnectionFailed) =
      .sshAuthFailed ↔ found = true) ∧
      ((if found then ExitCode.sshAuthFailed else .sshConnectionFailed) = .sshConnectionFailed ↔
        ¬found = true) := by
    cases found <;> decide
  have hword : contains (phase.error world.env config world.auth) (bytes "authentication") = true ↔
      told := contains_error_iff h
  have hends : EndsAs world.env config world.auth (failingPhase world.env config world.auth)
      (SshClient.connectAndAuthenticate world.env none { config := config } world.auth) :=
    connectAndAuthenticate_endsAs { config := config }
  rw [h] at hends
  obtain ⟨hresult, herror, hoffers⟩ := hends
  have houtcome : outcome = queryDevice options world password iface stage device := rfl
  simp only [queryDevice, hresult, herror, Bool.not_false, if_true, config] at houtcome
  rw [houtcome, ← hword]
  refine ⟨(hcode _).1, (hcode _).2, ?_⟩
  rw [List.filter_append, hoffers, filter_offersPassword (disconnect_no_offer _), List.append_nil]

/-- The exit code tells a password that was offered and rejected from a failure
before the offer; `rejects` are the results of `libssh2_userauth_password` that
mean a rejection. -/
structure Outcome.TellsPhase (rejects : ℤ → Prop) (outcome : Outcome) : Prop where
  rejected : outcome.exitCode = .sshAuthFailed ↔ ∃ session username password rc,
    .userauthPassword session username password rc ∈ outcome.calls ∧ rejects rc
  before : (∀ call ∈ outcome.calls, call.offersPassword = false) →
    outcome.exitCode = .sshConnectionFailed

/-- The offers among the calls of a failure. -/
theorem mem_offers_iff {config : SshConfig} {os : AuthAnswers} {phase : ConnectPhase}
    {calls : List SshCall}
    (h : calls.filter SshCall.offersPassword = phase.offers config os) (rejects : ℤ → Prop) :
    ((∃ session username password rc, .userauthPassword session username password rc ∈ calls ∧
        rejects rc) ↔ phase = .authentication ∧ rejects os.userauthRc) ∧
      ((∀ call ∈ calls, call.offersPassword = false) ↔ phase ≠ .authentication) := by
  have hmem (call : SshCall) (hoffer : call.offersPassword = true) :
      call ∈ calls ↔ call ∈ phase.offers config os := by
    rw [← h, List.mem_filter]
    exact (and_iff_left hoffer).symm
  have hsilent : (∀ call ∈ calls, call.offersPassword = false) ↔ phase.offers config os = [] := by
    rw [← h, List.filter_eq_nil_iff]
    simp
  refine ⟨?_, hsilent.trans ?_⟩
  · constructor
    · rintro ⟨session, username, password, rc, hcall, hrejects⟩
      rw [hmem _ rfl] at hcall
      cases phase
      case authentication =>
        obtain ⟨-, -, -, hrc⟩ := SshCall.userauthPassword.inj (List.mem_singleton.mp hcall)
        exact ⟨rfl, hrc ▸ hrejects⟩
      all_goals cases hcall
    · rintro ⟨rfl, hrejects⟩
      exact ⟨_, _, _, _, (hmem _ rfl).mpr (List.mem_singleton_self _), hrejects⟩
  · cases phase <;> simp [ConnectPhase.offers]

/-- For every run whose connection fails, and all foreign texts: the exit code
tells the phase exactly when the text that the error quotes, if it quotes one, is
without the word, and a password that was offered and not accepted was
rejected. -/
theorem exitCode_tells_phase_iff {options : Options} {world : World} {outcome : Outcome}
    (hrun : run options world = .ok outcome) {config : SshConfig}
    (hconfig : config ∈ outcome.connected)
    (hfailed : (SshClient.connectAndAuthenticate world.env none { config := config }
      world.auth).result = false) (rejects : ℤ → Prop) :
    outcome.TellsPhase rejects ↔
      ∀ phase, failingPhase world.env config world.auth = some phase →
        ¬Misleads world.env world.auth phase ∧
          (phase = .authentication → rejects world.auth.userauthRc) := by
  obtain ⟨password, iface, stage, device, stderr, rfl, rfl⟩ := run_of_connected hrun hconfig
  let config := sshConfigOf options password device
  have hends : EndsAs world.env config world.auth (failingPhase world.env config world.auth)
      (SshClient.connectAndAuthenticate world.env none { config := config } world.auth) :=
    connectAndAuthenticate_endsAs { config := config }
  cases hphase : failingPhase world.env config world.auth with
  | none =>
      rw [hphase] at hends
      exact absurd (hfailed.symm.trans hends) Bool.false_ne_true
  | some phase =>
      obtain ⟨hauth, hconnection, hoffers⟩ := queryDevice_of_failsAt options world password iface
        stage device hphase
      obtain ⟨hrejected, hsilent⟩ := mem_offers_iff hoffers rejects
      simp only [Option.some.injEq, forall_eq']
      constructor
      · intro h
        have hboth := hauth.symm.trans (h.rejected.trans hrejected)
        refine ⟨fun hmisleads => ?_, fun hoffered => (hboth.mp (.inl hoffered)).2⟩
        obtain ⟨rfl, -⟩ := hboth.mp (.inr hmisleads)
        exact hmisleads
      · rintro ⟨hplain, hrefused⟩
        refine ⟨hauth.trans (Iff.trans ?_ hrejected.symm), fun hnone => hconnection.mpr ?_⟩
        · rw [or_iff_left hplain]
          exact ⟨fun hoffered => ⟨hoffered, hrefused hoffered⟩, And.left⟩
        · exact not_or.mpr ⟨hsilent.mp hnone, hplain⟩

/-- The sample world with a peer that fails a phase. -/
def failingWorld (handshakeRc : ℤ) (handshakeError : SessionError) (userauthRc : ℤ) : World :=
  let world := sampleWorld "secret" noOutput
  { world with auth := { world.auth with
      handshakeRc := handshakeRc
      handshakeError := handshakeError
      userauthRc := userauthRc } }

/-- The peer refuses the password. -/
theorem exitCode_tells_phase_iff_sample :
    (tryRun {} (failingWorld 0 ⟨0, []⟩ (-18))).TellsPhase (· = -18) := by
  have hrun : run {} (failingWorld 0 ⟨0, []⟩ (-18)) =
      .ok (tryRun {} (failingWorld 0 ⟨0, []⟩ (-18))) := rfl
  have hconfig : sshConfigOf {} "secret" samplePeer ∈
      (tryRun {} (failingWorld 0 ⟨0, []⟩ (-18))).connected := by decide
  refine (exitCode_tells_phase_iff hrun hconfig (by decide) (· = -18)).mpr fun phase hphase => ?_
  have hoffered : failingPhase (failingWorld 0 ⟨0, []⟩ (-18)).env
      (sshConfigOf {} "secret" samplePeer) (failingWorld 0 ⟨0, []⟩ (-18)).auth =
        some .authentication := by decide
  obtain rfl := Option.some.inj (hphase.symm.trans hoffered)
  exact ⟨id, fun _ => rfl⟩

/-- A message of libssh2 about a record of the key exchange. -/
def macMessage : Bytes := "message authentication code mismatch"

/-- The handshake fails, no password is offered, and the exit code says that
authentication failed. -/
theorem handshake_failure_misreported :
    let world := failingWorld (-4) ⟨-4, macMessage⟩ 0
    let config := sshConfigOf {} "secret" samplePeer
    run {} world = .ok (tryRun {} world) ∧ config ∈ (tryRun {} world).connected ∧
      (SshClient.connectAndAuthenticate world.env none { config := config }
        world.auth).result = false ∧
      failingPhase world.env config world.auth = some .handshake ∧
      (tryRun {} world).exitCode = .sshAuthFailed ∧
      ∀ rejects, ¬(tryRun {} world).TellsPhase rejects := by
  intro world config
  have hexit : (tryRun {} world).exitCode = .sshAuthFailed := by decide
  have hsilent : ∀ call ∈ (tryRun {} world).calls, call.offersPassword = false := by decide
  refine ⟨rfl, by decide, by decide, by decide, hexit, fun rejects h => ?_⟩
  cases hexit.symm.trans (h.before hsilent)

end DeviceDiscovery.Main
