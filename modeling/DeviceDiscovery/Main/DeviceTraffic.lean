import DeviceDiscovery.Main.RunEnds
import DeviceDiscovery.Ssh.Protocol

/-!
What a run does on the device (`run`).

The calls of a run are those of one client, in the order that libssh2 asks for.
The commands that they run are `ifconfig` and `ip -4 addr` and no others, each at
most once, and what is parsed is the output of the last one.
-/

namespace DeviceDiscovery.Main

open Foundation DeviceDiscovery.Platform DeviceDiscovery.Network DeviceDiscovery.Scanner
  DeviceDiscovery.Ssh DeviceDiscovery.Parser DeviceDiscovery.Output

def executedCommand? : SshCall → Option Bytes
  | .channelExec _ command => some command
  | _ => none

/-- The commands that the calls run on the device. -/
def executedCommands (calls : List SshCall) : List Bytes := calls.filterMap executedCommand?

@[simp] theorem executedCommands_append (calls rest : List SshCall) :
    executedCommands (calls ++ rest) = executedCommands calls ++ executedCommands rest :=
  List.filterMap_append

theorem executedCommands_of_none {calls : List SshCall}
    (h : ∀ call ∈ calls, executedCommand? call = none) : executedCommands calls = [] :=
  List.filterMap_eq_nil_iff.mpr h

/-! ### The client -/

section Client

variable (client : SshClient)

@[simp] theorem executedCommands_winsock (events : List SocketEvent) :
    executedCommands (events.map .winsock) = [] := by
  apply executedCommands_of_none
  intro call hcall
  obtain ⟨event, -, rfl⟩ := List.mem_map.mp hcall
  rfl

@[simp] theorem executedCommands_disconnect : executedCommands client.disconnect.calls = [] := by
  unfold SshClient.disconnect
  split
  · exact executedCommands_winsock _
  · exact executedCommands_winsock _

theorem executedCommands_fail (error : Bytes) {calls : List SshCall}
    (h : executedCommands calls = []) : executedCommands (client.fail error calls).calls = [] := by
  rw [SshClient.fail, executedCommands_append, h]
  exact executedCommands_disconnect _

theorem executedCommands_checkHostKey (env : Environment) (os : AuthAnswers) :
    executedCommands (checkHostKey env client os).2 = [] := by
  obtain ⟨-, hcalls | ⟨-, hcalls⟩⟩ | ⟨-, -, path, key, typeMask, hcalls⟩ :=
    checkHostKey_cases env client os
  · rw [hcalls]
    rfl
  · rw [hcalls]
    rfl
  · rw [hcalls]
    rfl

/-- Connecting runs no command. -/
theorem executedCommands_connect (env : Environment) (flag : Option Bool) (os : AuthAnswers) :
    executedCommands (client.connectAndAuthenticate env flag os).calls = [] := by
  have branch {c : Prop} [Decidable c] {yes no : Invocation Bool}
      (hyes : executedCommands yes.calls = []) (hno : executedCommands no.calls = []) :
      executedCommands (if c then yes else no).calls = [] := by
    split
    · exact hyes
    · exact hno
  have hverify (client : SshClient) : executedCommands (verifyAndAuthenticate env client os).calls =
      [] := by
    have hchecked := executedCommands_checkHostKey client env os
    have hoffered (call : SshCall) (hcall : executedCommand? call = none) :
        executedCommands ((checkHostKey env client os).2 ++ [call]) = [] := by
      rw [executedCommands_append, hchecked]
      simp [executedCommands, hcall]
    exact branch (executedCommands_fail _ _ hchecked) (branch (executedCommands_fail _ _
      (hoffered _ rfl)) (hoffered _ rfl))
  have hopen (client : SshClient) : executedCommands (openSession env client os).calls = [] := by
    refine branch (executedCommands_fail _ _ rfl) (branch (executedCommands_fail _ _ rfl)
      (branch (executedCommands_fail _ _ rfl) ?_))
    rw [Invocation.after, executedCommands_append, hverify]
    rfl
  have hinit : executedCommands (ensureLibssh2Initialised flag os.libssh2Init).2 = [] := by
    rcases ensureLibssh2Initialised_calls flag os.libssh2Init with h | h
    · rw [h]
      rfl
    · rw [h]
      rfl
  have htcp (events : List SocketEvent) : executedCommands
      ((ensureLibssh2Initialised flag os.libssh2Init).2 ++ events.map .winsock) = [] := by
    rw [executedCommands_append, hinit, executedCommands_winsock]
    rfl
  refine branch hinit (branch (htcp _) ?_)
  rw [Invocation.after, executedCommands_append, htcp, hopen]
  rfl

theorem executedCommands_reads (channel : Pointer) (codes : List ℤ) :
    executedCommands (codes.map (.channelRead channel)) = [] ∧
      executedCommands (codes.map (.channelReadStderr channel)) = [] := by
  constructor
  · apply executedCommands_of_none
    intro call hcall
    obtain ⟨code, -, rfl⟩ := List.mem_map.mp hcall
    rfl
  · apply executedCommands_of_none
    intro call hcall
    obtain ⟨code, -, rfl⟩ := List.mem_map.mp hcall
    rfl

/-- A command is run once, if a channel was opened for it. -/
theorem executedCommands_execute (command : Bytes) (os : ExecuteAnswers) :
    executedCommands (client.execute command os).calls =
      if client.session = nullptr ∨ os.channel = nullptr then [] else [cString command] := by
  unfold SshClient.execute
  by_cases hsession : client.session = nullptr
  · rw [if_pos hsession, if_pos (.inl hsession)]
    rfl
  rw [if_neg hsession]
  by_cases hchannel : os.channel = nullptr
  · rw [if_pos hchannel, if_pos (.inr hchannel)]
    rfl
  rw [if_neg hchannel, if_neg (not_or.mpr ⟨hsession, hchannel⟩)]
  dsimp only
  split
  · rfl
  · simp only [executedCommands_append, (executedCommands_reads _ _).1,
      (executedCommands_reads _ _).2]
    rfl

end Client

/-! ### The run -/

/-- The calls are in order and those of a client that was asked to connect, the
commands are the two of `run` at most, and what is parsed was printed by the last
of them. -/
structure Outcome.Orderly (outcome : Outcome) : Prop where
  accepted : Accepts .idle outcome.calls .idle
  commands : (executedCommands outcome.calls).Sublist [bytes "ifconfig", bytes "ip -4 addr"]
  parsed : ∀ source, outcome.parsed = some source →
    (executedCommands outcome.calls).getLast? = some source
  silent : outcome.connected = [] → outcome.calls = []

theorem Outcome.Orderly.after {outcome : Outcome} (h : outcome.Orderly) (stderr : Bytes) :
    (outcome.after stderr).Orderly :=
  ⟨h.accepted, h.commands, h.parsed, h.silent⟩

theorem Outcome.Orderly.of_silent {outcome : Outcome} (hcalls : outcome.calls = [])
    (hparsed : outcome.parsed = none) : outcome.Orderly := by
  refine ⟨?_, ?_, (fun source hsource => nomatch hparsed.symm.trans hsource), fun _ => hcalls⟩
  · rw [hcalls]
    exact .nil
  · rw [hcalls]
    exact List.nil_sublist _

section Run

variable (options : Options) (world : World) (iface : NetworkInterface) (stage : Bytes)
  (device : SshProbeResult)

theorem runCommands_accepted (client : SshClient) :
    Accepts client.phase (runCommands options world client).calls client.phase := by
  have hfirst := execute_accepted client "ifconfig" (world.execute "ifconfig")
  have hclient := (execute_keeps client "ifconfig" (world.execute "ifconfig")).1
  unfold runCommands
  dsimp only
  rw [hclient]
  split
  · exact hfirst
  · exact hfirst.append (execute_accepted client "ip -4 addr" (world.execute "ip -4 addr"))

theorem executedCommands_runCommands {client : SshClient} (hsession : client.session ≠ nullptr) :
    let commands := runCommands options world client
    (executedCommands commands.calls).Sublist [bytes "ifconfig", bytes "ip -4 addr"] ∧
      ∀ source, commands.result.source = some source →
        (executedCommands commands.calls).getLast? = some source := by
  have hclient := (execute_keeps client "ifconfig" (world.execute "ifconfig")).1
  have hexecute {command : Bytes} (hplain : cString command = command) :
      executedCommands (client.execute command (world.execute command)).calls =
        if (world.execute command).channel = nullptr then [] else [command] := by
    rw [executedCommands_execute, hplain]
    simp [hsession]
  -- A command with a usable output had a channel.
  have hran {command : Bytes} (hplain : cString command = command)
      (husable : usable (client.execute command (world.execute command)).result = true) :
      executedCommands (client.execute command (world.execute command)).calls = [command] := by
    have hpasses := (usable_execute_iff hsession _ _).mp husable
    rw [hexecute hplain, if_neg hpasses.1.1]
  have hshort {command : Bytes} (hplain : cString command = command) :
      (executedCommands (client.execute command (world.execute command)).calls).Sublist
        [command] := by
    rw [hexecute hplain]
    split
    · exact List.nil_sublist _
    · exact List.Sublist.refl _
  have hfirst : cString (bytes "ifconfig") = bytes "ifconfig" := by decide
  have hsecond : cString (bytes "ip -4 addr") = bytes "ip -4 addr" := by decide
  unfold runCommands
  dsimp only
  rw [hclient]
  split
  · rename_i husable
    refine ⟨(hshort hfirst).trans (List.sublist_append_left [bytes "ifconfig"] _), ?_⟩
    intro source hsource
    obtain rfl := Option.some.inj hsource
    rw [hran hfirst husable]
    rfl
  · refine ⟨?_, ?_⟩
    · rw [executedCommands_append]
      exact (hshort hfirst).append (hshort hsecond)
    · intro source hsource
      dsimp only at hsource
      split at hsource
      · rename_i husable
        obtain rfl := Option.some.inj hsource
        rw [executedCommands_append, hran hsecond husable, List.getLast?_concat]
      · cases hsource

theorem queryDevice_orderly (password : Bytes) (hos : world.auth.connect.ReportsError) :
    (queryDevice options world password iface stage device).Orderly := by
  have hends := connectAndAuthenticate_ends world.env none
    (show ({ config := sshConfigOf options password device } : SshClient).Idle from ⟨rfl, rfl⟩) hos
  have hsettles := connectAndAuthenticate_settles world.env none
    { config := sshConfigOf options password device } world.auth ⟨rfl, rfl⟩
  have hconnect := executedCommands_connect { config := sshConfigOf options password device }
    world.env none world.auth
  unfold queryDevice
  dsimp only
  generalize SshClient.connectAndAuthenticate world.env none
    { config := sshConfigOf options password device } world.auth = connect at *
  cases hresult : connect.result with
  | false =>
      refine ⟨hends.accepted.append (disconnect_accepted hends.settled), ?_, ?_,
        fun hnone => absurd hnone (List.cons_ne_nil _ _)⟩
      · show (executedCommands (connect.calls ++ connect.client.disconnect.calls)).Sublist _
        rw [executedCommands_append, hconnect, executedCommands_disconnect]
        exact List.nil_sublist _
      · intro source hsource
        cases hsource
  | true =>
      have hsession := hsettles.granted hresult
      have hkeep := runCommands_client options world connect.client
      obtain ⟨hcommands, hlast⟩ := executedCommands_runCommands options world hsession
      have hcalls : (reportDevice options world iface stage device connect.client).calls =
          (runCommands options world connect.client).calls ++ connect.client.disconnect.calls ++
            connect.client.disconnect.client.disconnect.calls := by
        unfold reportDevice
        dsimp only
        rw [hkeep]
      have hidle := SshClient.disconnect_idle connect.client
      have hdestroyed : connect.client.disconnect.client.disconnect.calls = [] := by
        simp [SshClient.disconnect, closeSocket]
      rw [hdestroyed, List.append_nil] at hcalls
      have hall : executedCommands (connect.calls ++
          (reportDevice options world iface stage device connect.client).calls) =
            executedCommands (runCommands options world connect.client).calls := by
        rw [hcalls, executedCommands_append, executedCommands_append, hconnect,
          executedCommands_disconnect, List.append_nil]
        rfl
      refine ⟨?_, ?_, ?_, fun hnone => absurd hnone (List.cons_ne_nil _ _)⟩
      · show Accepts .idle (connect.calls ++
          (reportDevice options world iface stage device connect.client).calls) .idle
        rw [hcalls]
        exact hends.accepted.append ((runCommands_accepted options world connect.client).append
          (disconnect_accepted hends.settled))
      · show (executedCommands (connect.calls ++
          (reportDevice options world iface stage device connect.client).calls)).Sublist _
        rw [hall]
        exact hcommands
      · intro source hsource
        have hparsed := (reportOutput_parsed options iface stage device
          (runCommands options world connect.client).client.hostKeyStatus
          (runCommands options world connect.client).result).1
        show (executedCommands (connect.calls ++
          (reportDevice options world iface stage device connect.client).calls)).getLast? = _
        rw [hall]
        exact hlast source (hparsed.symm.trans hsource)

theorem runMockMode_silent :
    (runMockMode options world).calls = [] ∧ (runMockMode options world).parsed = none := by
  unfold runMockMode
  split
  · exact ⟨rfl, rfl⟩
  · rename_i contents _
    dsimp only
    generalize (if parseIfconfigOutput contents = [] then parseIpAddrOutput contents
      else parseIfconfigOutput contents) = interfaces
    split
    · exact ⟨rfl, rfl⟩
    · exact ⟨rfl, rfl⟩

theorem tryRun_orderly (hos : world.auth.connect.ReportsError) :
    (tryRun options world).Orderly := by
  by_cases hmock : options.mockIfconfigFile = []
  · obtain ⟨password, iface, -, hrun⟩ | ⟨-, hwithheld⟩ := tryRun_cases options world hmock
    · rw [hrun]
      obtain ⟨refusal, logged, hchoice, hrefused⟩ | ⟨device, logged, -, hqueried⟩ :=
        runOnInterface_cases options world password iface
      · rw [hrefused]
        have hwithheld := chooseDevice_error hchoice
        exact (Outcome.Orderly.of_silent hwithheld.calls hwithheld.parsed).after logged
      · rw [hqueried]
        exact (queryDevice_orderly options world iface _ device password hos).after logged
    · exact .of_silent hwithheld.calls hwithheld.parsed
  · obtain ⟨hcalls, hparsed⟩ := runMockMode_silent options world
    rw [tryRun, run, if_pos hmock]
    exact .of_silent hcalls hparsed

/-- What a run does on the device, whatever the answers are. Its calls are in the
order that libssh2 asks for and leave nothing open; it runs `ifconfig` and
`ip -4 addr` at most, once each and in this order; it parses the output of the
last one; and without a connection it makes no call. -/
theorem main_orderly (arguments : List Bytes) (hos : world.auth.connect.ReportsError) :
    let outcome := main arguments world
    Accepts .idle outcome.calls .idle ∧
      (executedCommands outcome.calls).Sublist [bytes "ifconfig", bytes "ip -4 addr"] ∧
      (∀ source, outcome.parsed = some source →
        (executedCommands outcome.calls).getLast? = some source) ∧
      (outcome.connected = [] → outcome.calls = []) := by
  intro outcome
  have horderly : outcome.Orderly := by
    show (main arguments world).Orderly
    unfold main
    split
    · exact .of_silent rfl rfl
    · cases parseOptions arguments {} with
      | error exit => exact .of_silent rfl rfl
      | ok options => exact tryRun_orderly options world hos
  exact ⟨horderly.accepted, horderly.commands, horderly.parsed, horderly.silent⟩

end Run

theorem main_orderly_sample :
    let outcome := main ["--ssh-password", "secret"] (sampleWorld [] noOutput)
    executedCommands outcome.calls = [bytes "ifconfig", bytes "ip -4 addr"] ∧
      Accepts .idle outcome.calls .idle :=
  ⟨by decide, (main_orderly (sampleWorld [] noOutput) ["--ssh-password", "secret"]
    (fun h => absurd rfl h)).1⟩

end DeviceDiscovery.Main
