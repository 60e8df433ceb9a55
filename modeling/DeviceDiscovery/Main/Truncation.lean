import DeviceDiscovery.Main.PasswordGate

/-!
Command output that was cut short.

A read loop of `execute` stops at the first result that is not positive, whether
that is the end of the stream or an error, and the result is good all the same.
Here it is determined when a good result is a complete one, for `execute` and for
what `run` makes of it.
-/

namespace DeviceDiscovery.Main

open Foundation DeviceDiscovery.Platform DeviceDiscovery.Network DeviceDiscovery.Scanner
  DeviceDiscovery.Ssh DeviceDiscovery.Parser DeviceDiscovery.Output

/-! ### Reads -/

/-- What the last read of a stream returned. -/
def lastCode : StreamReads → ℤ
  | .last code _ => code
  | .more _ rest => lastCode rest

theorem lastCode_nonpos : ∀ reads : StreamReads, lastCode reads ≤ 0
  | .last _ stops => stops
  | .more _ rest => lastCode_nonpos rest

/-- Some read of the stream gave data. -/
def hasData : StreamReads → Bool
  | .last _ _ => false
  | .more _ _ => true

/-- A read loop keeps all data it is given. -/
theorem prefix_readStream (data : Bytes) (reads : StreamReads) :
    data <+: (readStream data reads).1 := by
  induction reads generalizing data with
  | last code stops => exact List.prefix_refl data
  | more chunk rest ih => exact (List.prefix_append data chunk.data).trans (ih _)

theorem readStream_ne_nil_iff (reads : StreamReads) :
    (readStream [] reads).1 ≠ [] ↔ hasData reads = true := by
  cases reads with
  | last code stops => simp [readStream, hasData]
  | more chunk rest =>
      refine iff_of_true ?_ rfl
      intro hnil
      have hdata : chunk.data <+: [] := hnil ▸ prefix_readStream chunk.data rest
      exact chunk.some (List.prefix_nil.mp hdata)

/-- Both streams were read to their end. -/
def Complete (os : ExecuteAnswers) : Prop :=
  lastCode os.stdoutReads = 0 ∧ lastCode os.stderrReads = 0

instance (os : ExecuteAnswers) : Decidable (Complete os) := inferInstanceAs (Decidable (_ ∧ _))

theorem not_complete_iff (os : ExecuteAnswers) :
    ¬Complete os ↔ lastCode os.stdoutReads < 0 ∨ lastCode os.stderrReads < 0 := by
  have hout := lastCode_nonpos os.stdoutReads
  have herr := lastCode_nonpos os.stderrReads
  unfold Complete
  omega

/-! ### One command -/

/-- The command starts, so that its output is read. -/
def Starts (os : ExecuteAnswers) : Prop := os.channel ≠ nullptr ∧ os.execRc = 0

instance (os : ExecuteAnswers) : Decidable (Starts os) := inferInstanceAs (Decidable (_ ∧ _))

theorem execute_of_starts {client : SshClient} (hsession : client.session ≠ nullptr)
    {os : ExecuteAnswers} (h : Starts os) (command : Bytes) :
    (client.execute command os).result = {
      ok := true
      exitCode := os.exitStatus
      stdoutData := (readStream [] os.stdoutReads).1
      stderrData := (readStream [] os.stderrReads).1 } := by
  rw [SshClient.execute, if_neg hsession, if_neg h.1, if_neg (not_not.mpr h.2)]

theorem execute_of_not_starts {client : SshClient} {os : ExecuteAnswers}
    (h : ¬(client.session ≠ nullptr ∧ Starts os)) (command : Bytes) :
    (client.execute command os).result.ok = false := by
  by_cases hsession : client.session = nullptr
  · rw [SshClient.execute, if_pos hsession]
  rw [SshClient.execute, if_neg hsession]
  by_cases hchannel : os.channel = nullptr
  · rw [if_pos hchannel]
  rw [if_neg hchannel]
  by_cases hrc : os.execRc ≠ 0
  · rw [if_pos hrc]
  · exact absurd ⟨hsession, hchannel, not_not.mp hrc⟩ h

/-- A good result is a complete one, and a loop that stops on an error gives a
bad result with an error text. -/
def Honest (client : SshClient) (command : Bytes) (os : ExecuteAnswers) : Prop :=
  let result := (client.execute command os).result
  (result.ok = true → Complete os) ∧
    (client.session ≠ nullptr → Starts os →
      lastCode os.stdoutReads < 0 ∨ lastCode os.stderrReads < 0 →
        result.ok = false ∧ result.error ≠ [])

theorem honest_iff (client : SshClient) (command : Bytes) (os : ExecuteAnswers) :
    Honest client command os ↔ (client.session ≠ nullptr → Starts os → Complete os) := by
  by_cases hstarts : client.session ≠ nullptr ∧ Starts os
  · have hok : (client.execute command os).result.ok = true := by
      rw [execute_of_starts hstarts.1 hstarts.2]
    constructor
    · intro h _ _
      exact h.1 hok
    · intro h
      have hcomplete := h hstarts.1 hstarts.2
      exact ⟨fun _ => hcomplete,
        fun _ _ hcut => absurd hcomplete ((not_complete_iff os).mpr hcut)⟩
  · have hok := execute_of_not_starts hstarts command
    refine iff_of_true ⟨fun h => ?_, fun hsession h => absurd ⟨hsession, h⟩ hstarts⟩
      fun hsession h => absurd ⟨hsession, h⟩ hstarts
    rw [hok] at h
    cases h

/-! ### The use of an output -/

/-- The answers that pass the test of `run`. -/
def Passes (os : ExecuteAnswers) : Prop :=
  Starts os ∧ os.exitStatus = 0 ∧ hasData os.stdoutReads = true

instance (os : ExecuteAnswers) : Decidable (Passes os) :=
  inferInstanceAs (Decidable (_ ∧ _ ∧ _))

theorem usable_execute_iff {client : SshClient} (hsession : client.session ≠ nullptr)
    (command : Bytes) (os : ExecuteAnswers) :
    usable (client.execute command os).result = true ↔ Passes os := by
  by_cases hstarts : Starts os
  · rw [execute_of_starts hsession hstarts]
    simp [usable, Passes, hstarts, ← readStream_ne_nil_iff]
  · have hnot : ¬(client.session ≠ nullptr ∧ Starts os) := fun h => hstarts h.2
    have hok := execute_of_not_starts hnot command
    simp [usable, Passes, hstarts, hok]

/-- The output that `run` would use is complete: that of `ifconfig` if it passes,
that of the fallback otherwise. -/
def UsedComplete (world : World) : Prop :=
  (Passes (world.execute "ifconfig") → Complete (world.execute "ifconfig")) ∧
  (¬Passes (world.execute "ifconfig") → Passes (world.execute "ip -4 addr") →
    Complete (world.execute "ip -4 addr"))

theorem runCommands_source (options : Options) (world : World) {client : SshClient}
    (hsession : client.session ≠ nullptr) :
    (runCommands options world client).result.source =
      if Passes (world.execute "ifconfig") then some (bytes "ifconfig")
      else if Passes (world.execute "ip -4 addr") then some (bytes "ip -4 addr")
      else none := by
  have hclient := (execute_keeps client "ifconfig" (world.execute "ifconfig")).1
  unfold runCommands
  dsimp only
  rw [hclient]
  by_cases hfirst : Passes (world.execute "ifconfig")
  · rw [if_pos ((usable_execute_iff hsession _ _).mpr hfirst), if_pos hfirst]
  rw [if_neg (mt (usable_execute_iff hsession _ _).mp hfirst), if_neg hfirst]
  by_cases hsecond : Passes (world.execute "ip -4 addr")
  · rw [if_pos ((usable_execute_iff hsession _ _).mpr hsecond), if_pos hsecond]
  · rw [if_neg (mt (usable_execute_iff hsession _ _).mp hsecond), if_neg hsecond]

/-- An output that is used is parsed, and without one nothing is reported. -/
theorem reportOutput_parsed (options : Options) (iface : NetworkInterface) (stage : Bytes)
    (device : SshProbeResult) (hostKeyStatus : Bytes) (output : CommandOutput) :
    let outcome := reportOutput options iface stage device hostKeyStatus output
    outcome.parsed = output.source ∧
      (outcome.parsed = none → outcome.stdout = [] ∧ outcome.exitCode ≠ .success) := by
  cases hsource : output.source with
  | none =>
      simp only [reportOutput, hsource]
      exact ⟨rfl, fun _ => ⟨rfl, by decide⟩⟩
  | some source =>
      simp only [reportOutput, hsource]
      split
      · exact ⟨rfl, fun h => nomatch h⟩
      · exact ⟨rfl, fun h => nomatch h⟩

/-! ### The run -/

/-- `run` gets to the commands: every answer up to the authentication lets it
through. -/
def ReachesCommands (options : Options) (world : World) : Prop :=
  ∃ password candidates iface device,
    configuredPassword options world = .ok password ∧
    discoverCandidateInterfaces world.env.formatMessage world.adapters = .ok candidates ∧
    hintedCandidates options candidates = [iface] ∧
    chooseDevice options iface (discoverDevices options world iface).found = .ok device ∧
    (SshClient.connectAndAuthenticate world.env none
      { config := sshConfigOf options password device } world.auth).result = true

/-- What is parsed is complete exactly when the output that would be used is,
should the commands be reached; and without parsing there is neither a report nor
success. -/
structure Outcome.Truthful (world : World) (reached : Prop) (outcome : Outcome) : Prop where
  parsed_iff : (∀ source, outcome.parsed = some source → Complete (world.execute source)) ↔
    (reached → UsedComplete world)
  silent : outcome.parsed = none → outcome.stdout = [] ∧ outcome.exitCode ≠ .success

theorem Outcome.Truthful.after {world : World} {reached : Prop} {outcome : Outcome}
    (h : outcome.Truthful world reached) (stderr : Bytes) :
    (outcome.after stderr).Truthful world reached :=
  ⟨h.parsed_iff, h.silent⟩

theorem Outcome.Withheld.truthful {outcome : Outcome} (h : outcome.Withheld) (world : World)
    {reached : Prop} (hnot : ¬reached) : outcome.Truthful world reached where
  parsed_iff := by
    rw [h.parsed]
    exact iff_of_true (fun _ h => nomatch h) fun h => absurd h hnot
  silent _ := ⟨h.stdout, h.failed⟩

theorem usedComplete_iff (world : World) :
    (∀ source, (if Passes (world.execute "ifconfig") then some (bytes "ifconfig")
      else if Passes (world.execute "ip -4 addr") then some (bytes "ip -4 addr")
      else none) = some source → Complete (world.execute source)) ↔ UsedComplete world := by
  unfold UsedComplete
  by_cases hfirst : Passes (world.execute "ifconfig")
  · simp [hfirst]
  · by_cases hsecond : Passes (world.execute "ip -4 addr")
    · simp [hfirst, hsecond]
    · simp [hfirst, hsecond]

theorem queryDevice_truthful (options : Options) (world : World) (password : Bytes)
    (iface : NetworkInterface) (stage : Bytes) (device : SshProbeResult) :
    (queryDevice options world password iface stage device).Truthful world
      ((SshClient.connectAndAuthenticate world.env none
        { config := sshConfigOf options password device } world.auth).result = true) := by
  have hsettles := connectAndAuthenticate_settles world.env none
    { config := sshConfigOf options password device } world.auth ⟨rfl, rfl⟩
  unfold queryDevice
  dsimp only
  generalize SshClient.connectAndAuthenticate world.env none
    { config := sshConfigOf options password device } world.auth = connect at hsettles ⊢
  cases hresult : connect.result with
  | false =>
      refine ⟨iff_of_true (fun _ h => nomatch h) fun h => absurd h Bool.false_ne_true,
        fun _ => ⟨rfl, ?_⟩⟩
      show (if contains connect.client.lastError "authentication" then ExitCode.sshAuthFailed
        else .sshConnectionFailed) ≠ .success
      split <;> decide
  | true =>
      have hsession := hsettles.granted hresult
      obtain ⟨hparsed, hsilent⟩ := reportOutput_parsed options iface stage device
        (runCommands options world connect.client).client.hostKeyStatus
        (runCommands options world connect.client).result
      -- With the session both commands can be run, so only their answers matter.
      refine ⟨Iff.trans ?_ (forall_prop_of_true rfl).symm, hsilent⟩
      rw [← usedComplete_iff, ← runCommands_source options world hsession, ← hparsed]
      rfl

theorem runOnInterface_truthful (options : Options) (world : World) (password : Bytes)
    (iface : NetworkInterface) :
    (runOnInterface options world password iface).Truthful world (∃ device,
      chooseDevice options iface (discoverDevices options world iface).found = .ok device ∧
      (SshClient.connectAndAuthenticate world.env none
        { config := sshConfigOf options password device } world.auth).result = true) := by
  obtain ⟨outcome, logged, hchoice, hrun⟩ | ⟨device, logged, hchoice, hrun⟩ :=
    runOnInterface_cases options world password iface
  · rw [hrun]
    refine ((chooseDevice_error hchoice).after logged).truthful world ?_
    rintro ⟨device, hdevice, -⟩
    cases hchoice.symm.trans hdevice
  · have hquery := queryDevice_truthful options world password iface
      (discoverDevices options world iface).stage device
    rw [hrun]
    refine ⟨hquery.parsed_iff.trans (imp_congr ⟨fun h => ⟨device, hchoice, h⟩, ?_⟩ Iff.rfl),
      hquery.silent⟩
    rintro ⟨chosen, hchosen, hresult⟩
    rw [Except.ok.inj (hchoice.symm.trans hchosen)]
    exact hresult

theorem tryRun_truthful (options : Options) (world : World)
    (hmock : options.mockIfconfigFile = []) :
    (tryRun options world).Truthful world (ReachesCommands options world) := by
  obtain ⟨password, iface, hselects, hrun⟩ | ⟨hnone, hwithheld⟩ := tryRun_cases options world hmock
  · have htruthful := runOnInterface_truthful options world password iface
    rw [hrun]
    refine ⟨htruthful.parsed_iff.trans (imp_congr ⟨?_, ?_⟩ Iff.rfl), htruthful.silent⟩
    · rintro ⟨device, hdevice, hresult⟩
      obtain ⟨candidates, hcandidates, honly⟩ := hselects.iface
      exact ⟨password, candidates, iface, device, hselects.password, hcandidates, honly, hdevice,
        hresult⟩
    · rintro ⟨password', candidates, iface', device, hp, hc, honly, hdevice, hresult⟩
      obtain ⟨rfl, rfl⟩ := hselects.unique ⟨hp, candidates, hc, honly⟩
      exact ⟨device, hdevice, hresult⟩
  · refine hwithheld.truthful world ?_
    rintro ⟨password, candidates, iface, device, hp, hc, honly, -⟩
    exact hnone password iface ⟨hp, candidates, hc, honly⟩

/-- When `execute` and `run` keep to what they are read to promise. A command's
good result is complete, and a loop that an error stops gives a bad one, exactly
when no started command is cut short; and what a run parses is complete exactly
when the output it uses is, once it has got to the commands. -/
theorem output_complete_iff (client : SshClient) (command : Bytes) (os : ExecuteAnswers)
    (options : Options) (world : World) :
    (Honest client command os ↔ (client.session ≠ nullptr → Starts os → Complete os)) ∧
    (options.mockIfconfigFile = [] →
      let outcome := tryRun options world
      ((∀ source, outcome.parsed = some source → Complete (world.execute source)) ↔
        (ReachesCommands options world → UsedComplete world)) ∧
      (outcome.parsed = none → outcome.stdout = [] ∧ outcome.exitCode ≠ .success)) := by
  refine ⟨honest_iff client command os, fun hmock => ?_⟩
  have htruthful := tryRun_truthful options world hmock
  exact ⟨htruthful.parsed_iff, htruthful.silent⟩

/-- One chunk that ends inside the address 10.20.30.15, and then a timeout. -/
def truncatedReads : StreamReads :=
  .more ⟨bytes ("eth0: flags=67<UP>\n  inet 10.20.30.7  netmask 255.255.255.0\n" ++
      "eth1: flags=67<UP>\n  inet 10.20.30.1"), by decide, by decide⟩
    (.last (-9) (by decide))

theorem truncated_output_accepted :
    let world := sampleWorld "secret" truncatedReads
    let outcome := main [] world
    ¬Honest { config := {}, session := 1 } "ifconfig" (world.execute "ifconfig") ∧
      outcome.parsed = some (bytes "ifconfig") ∧ ¬Complete (world.execute "ifconfig") ∧
      outcome.exitCode = .success ∧ contains outcome.stdout "eth1  10.20.30.1\n" = true := by
  refine ⟨fun h => ?_, by decide, by decide, by decide, by decide⟩
  have hcomplete : Complete ((sampleWorld "secret" truncatedReads).execute "ifconfig") :=
    h.1 (by decide)
  exact absurd hcomplete (by decide)

end DeviceDiscovery.Main
