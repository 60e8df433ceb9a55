import DeviceDiscovery.Main.Run

/-!
The password does not show.

Two runs are compared that differ in the text of the password alone: in the
values of `--ssh-password`, or in the environment variable that holds it. The
options of the two runs are then the same up to one field, and so are the
clients. Every function of `run` but the two that take the password looks at
neither, so what it prints is the same by definition; what remains is to follow
the client through `connect_and_authenticate` and `execute`.
-/

namespace DeviceDiscovery.Main

open Foundation DeviceDiscovery.Platform DeviceDiscovery.Network DeviceDiscovery.Scanner
  DeviceDiscovery.Ssh DeviceDiscovery.Parser DeviceDiscovery.Output

/-! ### The command line -/

/-- The options without the text of the password. -/
def Options.hidden (options : Options) : Options := { options with sshPassword := [] }

/-- The arguments with the values that `--ssh-password` consumes emptied. -/
def maskPassword : List Bytes → List Bytes
  | [] => []
  | arg :: rest =>
      match argumentOf arg with
      | .valued _ _ =>
          match rest with
          | [] => [arg]
          | value :: rest =>
              let value : Bytes := if arg = bytes "--ssh-password" then [] else value
              arg :: value :: maskPassword rest
      | _ => arg :: maskPassword rest

/-- A setter that neither reads nor writes the password. -/
def Commutes (set : Options → Options) : Prop :=
  ∀ options, (set options).hidden = set options.hidden

/-- The setters of an argument other than `--ssh-password`. -/
def Argument.Commutes : Argument → Prop
  | .flag set => Main.Commutes set
  | .valued _ set => ∀ value f, set value = some f → Main.Commutes f
  | .help | .unknown => True

theorem nextValue_commutes (arg : Bytes) {set : Bytes → Options → Options}
    (h : ∀ value, Commutes (set value)) : (nextValue arg set).Commutes := by
  rintro value f hf
  obtain rfl := Option.some.inj hf
  exact h value

theorem nextMs_commutes (arg : Bytes) {set : ℤ → Options → Options}
    (h : ∀ value, Commutes (set value)) : (nextMs arg set).Commutes := by
  rintro value f hf
  obtain ⟨milliseconds, -, rfl⟩ := Option.map_eq_some_iff.mp hf
  exact h milliseconds

theorem setThreads_commutes (error : Bytes) : (Argument.valued error setThreads).Commutes := by
  intro value f hf
  unfold setThreads at hf
  split at hf
  · cases hf
  · split at hf
    · cases hf
    · obtain rfl := Option.some.inj hf
      exact fun _ => rfl

theorem Argument.Commutes.ite {c : Prop} [Decidable c] {yes no : Argument}
    (hyes : c → yes.Commutes) (hno : ¬c → no.Commutes) : (if c then yes else no).Commutes :=
  iteInduction (motive := Argument.Commutes) hyes hno

theorem argumentOf_commutes {arg : Bytes} (h : arg ≠ bytes "--ssh-password") :
    (argumentOf arg).Commutes := by
  refine .ite (fun _ => trivial) fun _ => .ite (fun _ _ => rfl) fun _ => .ite (fun _ _ => rfl)
    fun _ => .ite (fun _ _ => rfl) fun _ => .ite (fun _ => setThreads_commutes _) fun _ => ?_
  refine .ite (fun _ => nextValue_commutes _ fun _ _ => rfl) fun _ => ?_
  refine .ite (fun hpassword => absurd hpassword h) fun _ => ?_
  refine .ite (fun _ => nextValue_commutes _ fun _ _ => rfl) fun _ => ?_
  refine .ite (fun _ => nextValue_commutes _ fun _ _ => rfl) fun _ => ?_
  refine .ite (fun _ => nextValue_commutes _ fun _ _ => rfl) fun _ => ?_
  refine .ite (fun _ => nextValue_commutes _ fun _ _ => rfl) fun _ => ?_
  refine .ite (fun _ => nextMs_commutes _ fun _ _ => rfl) fun _ => ?_
  refine .ite (fun _ => nextMs_commutes _ fun _ _ => rfl) fun _ => ?_
  refine .ite (fun _ => nextMs_commutes _ fun _ _ => rfl) fun _ => ?_
  refine .ite (fun _ => nextMs_commutes _ fun _ _ => rfl) fun _ => ?_
  exact .ite (fun _ => nextMs_commutes _ fun _ _ => rfl) fun _ => trivial

theorem argumentOf_sshPassword : argumentOf (bytes "--ssh-password") =
    nextValue (bytes "--ssh-password") fun value options =>
      { options with sshPassword := value, passwordFromCli := true } := by
  rfl

/-- Up to the text of the password, the options are those of the masked
arguments. -/
theorem parseOptions_hidden (arguments : List Bytes) (options : Options) :
    (parseOptions arguments options).map Options.hidden =
      (parseOptions (maskPassword arguments) options.hidden).map Options.hidden := by
  fun_induction maskPassword arguments generalizing options with
  | case1 => rfl
  | case2 arg error set harg =>
      rw [parseOptions, parseOptions, harg]
  | case3 arg error set harg value rest value' ih =>
      rw [parseOptions_valued harg, parseOptions_valued harg]
      by_cases hpassword : arg = bytes "--ssh-password"
      -- The value is hidden whether it was emptied before parsing or is afterwards.
      · have hvalue : value' = [] := if_pos hpassword
        obtain ⟨rfl, rfl⟩ := Argument.valued.inj
          (argumentOf_sshPassword.symm.trans (hpassword ▸ harg))
        rw [hvalue]
        exact ih { options with sshPassword := value, passwordFromCli := true }
      · have hvalue : value' = value := if_neg hpassword
        have hcommutes := argumentOf_commutes hpassword
        rw [harg] at hcommutes
        rw [hvalue]
        cases hset : set value with
        | none => rfl
        | some f =>
            show (parseOptions rest (f options)).map _ =
              (parseOptions (maskPassword rest) (f options.hidden)).map _
            rw [ih, hcommutes value f hset]
  | case4 arg rest harg ih =>
      cases hargument : argumentOf arg with
      | flag set =>
          have hpassword : arg ≠ bytes "--ssh-password" := by
            rintro rfl
            rw [argumentOf_sshPassword] at hargument
            cases hargument
          have hcommutes := argumentOf_commutes hpassword
          rw [hargument] at hcommutes
          rw [parseOptions_flag hargument, parseOptions_flag hargument, ih, hcommutes options]
      | valued error set => exact (harg error set hargument).elim
      | help =>
          rw [parseOptions, parseOptions, hargument]
      | unknown =>
          rw [parseOptions, parseOptions, hargument]

/-- Command lines with the same masked form give the same result up to the text
of the password. -/
theorem parseOptions_eq_of_maskPassword {arguments other : List Bytes}
    (h : maskPassword arguments = maskPassword other) :
    (parseOptions arguments {}).map Options.hidden =
      (parseOptions other {}).map Options.hidden := by
  rw [parseOptions_hidden arguments, parseOptions_hidden other, h]

/-! ### The client -/

/-- The client with another password. -/
def withPassword (client : SshClient) (password : Bytes) : SshClient :=
  { client with config := { client.config with password := password } }

/-- Two invocations with the same result, whose clients differ in the password
alone. -/
def Alike {τ : Type} (invocation other : Invocation τ) : Prop :=
  other.result = invocation.result ∧
    ∃ password, other.client = withPassword invocation.client password

namespace Alike

theorem ite {τ : Type} {c : Prop} [Decidable c] {yes yes' no no' : Invocation τ}
    (hyes : Alike yes yes') (hno : Alike no no') :
    Alike (if c then yes else no) (if c then yes' else no') := by
  split
  · exact hyes
  · exact hno

theorem after {τ : Type} {invocation other : Invocation τ} (h : Alike invocation other)
    (calls calls' : List SshCall) : Alike (invocation.after calls) (other.after calls') :=
  h

theorem fail (client : SshClient) (password error : Bytes) (calls calls' : List SshCall) :
    Alike (client.fail error calls) ((withPassword client password).fail error calls') :=
  ⟨rfl, password, rfl⟩

end Alike

section Client

variable (env : Environment) {getenv : Bytes → Option Bytes}
  (hprofile : getenv "USERPROFILE" = env.getenv "USERPROFILE") (client : SshClient)
  (password : Bytes) (os : AuthAnswers)

include hprofile

theorem checkHostKey_withPassword :
    checkHostKey { env with getenv := getenv } (withPassword client password) os =
      checkHostKey env client os := by
  have hpath : defaultKnownHostsPath { env with getenv := getenv } = defaultKnownHostsPath env := by
    simp only [defaultKnownHostsPath, hprofile]
  unfold checkHostKey
  rw [hpath]
  rfl

theorem verifyAndAuthenticate_alike :
    Alike (verifyAndAuthenticate env client os)
      (verifyAndAuthenticate { env with getenv := getenv } (withPassword client password) os) := by
  unfold verifyAndAuthenticate
  rw [checkHostKey_withPassword env hprofile client password os]
  exact .ite (.fail _ _ _ _ _) (.ite (.fail _ _ _ _ _) ⟨rfl, password, rfl⟩)

theorem openSession_alike :
    Alike (openSession env client os)
      (openSession { env with getenv := getenv } (withPassword client password) os) := by
  have hverify := verifyAndAuthenticate_alike env hprofile { client with session := os.session }
    password os
  exact .ite (.fail _ _ _ _ _) (.ite (.fail _ _ _ _ _) (.ite (.fail _ _ _ _ _) (hverify.after _ _)))

/-- The credential gate answers without looking at the password. -/
theorem connectAndAuthenticate_alike (flag : Option Bool) :
    Alike (client.connectAndAuthenticate env flag os)
      ((withPassword client password).connectAndAuthenticate { env with getenv := getenv } flag
        os) := by
  have hsession := openSession_alike env hprofile { client with
    socketHandle := (tcpConnect os.connect client.config.host
      client.config.connectTimeout).outSocket } password os
  exact .ite ⟨rfl, password, rfl⟩ (.ite ⟨rfl, password, rfl⟩ (hsession.after _ _))

end Client

theorem execute_alike (client : SshClient) (password command : Bytes) (os : ExecuteAnswers) :
    Alike (client.execute command os) ((withPassword client password).execute command os) :=
  .ite ⟨rfl, password, rfl⟩ (.ite ⟨rfl, password, rfl⟩
    (.ite ⟨rfl, password, rfl⟩ ⟨rfl, password, rfl⟩))

theorem runCommands_alike (options : Options) (world : World) (client : SshClient)
    (password : Bytes) :
    Alike (runCommands options world client)
      (runCommands options world (withPassword client password)) := by
  obtain ⟨hresult, password', hclient⟩ :=
    execute_alike client password "ifconfig" (world.execute "ifconfig")
  have hfallback := execute_alike
    (client.execute "ifconfig" (world.execute "ifconfig")).client password' "ip -4 addr"
    (world.execute "ip -4 addr")
  unfold runCommands
  dsimp only
  rw [hresult, hclient, hfallback.1]
  exact .ite ⟨rfl, password', rfl⟩ ⟨rfl, hfallback.2⟩

/-! ### The run -/

/-- The two runs cannot be told apart from outside. -/
structure SameOutput (outcome other : Outcome) : Prop where
  stdout : other.stdout = outcome.stdout
  stderr : other.stderr = outcome.stderr
  exitCode : other.exitCode = outcome.exitCode

theorem SameOutput.refl (outcome : Outcome) : SameOutput outcome outcome := ⟨rfl, rfl, rfl⟩

theorem SameOutput.after {outcome other : Outcome} (h : SameOutput outcome other)
    (stderr : Bytes) : SameOutput (outcome.after stderr) (other.after stderr) :=
  ⟨h.stdout, congrArg (stderr ++ ·) h.stderr, h.exitCode⟩

/-- Neither stream depends on the calls made. -/
theorem SameOutput.of_calls (outcome : Outcome) (connected connected' : List SshConfig)
    (calls calls' : List SshCall) :
    SameOutput { outcome with connected := connected, calls := calls }
      { outcome with connected := connected', calls := calls' } :=
  ⟨rfl, rfl, rfl⟩

section Run

variable (options : Options) (world : World) (iface : NetworkInterface) (stage : Bytes)
  (device : SshProbeResult)

theorem reportDevice_same (client : SshClient) (password : Bytes) :
    SameOutput (reportDevice options world iface stage device client)
      (reportDevice options world iface stage device (withPassword client password)) := by
  obtain ⟨hresult, password', hclient⟩ := runCommands_alike options world client password
  unfold reportDevice
  dsimp only
  rw [hresult, hclient]
  exact .of_calls _ _ _ _ _

theorem queryDevice_same {getenv : Bytes → Option Bytes}
    (hprofile : getenv "USERPROFILE" = world.env.getenv "USERPROFILE")
    (password password' : Bytes) :
    SameOutput (queryDevice options world password iface stage device)
      (queryDevice options { world with env := { world.env with getenv := getenv } } password'
        iface stage device) := by
  have halike : Alike (SshClient.connectAndAuthenticate world.env none
      { config := sshConfigOf options password device } world.auth)
    (SshClient.connectAndAuthenticate { world.env with getenv := getenv } none
      { config := sshConfigOf options password' device } world.auth) :=
    connectAndAuthenticate_alike world.env hprofile _ password' world.auth none
  unfold queryDevice
  dsimp only
  generalize SshClient.connectAndAuthenticate world.env none
    { config := sshConfigOf options password device } world.auth = connect at halike ⊢
  generalize SshClient.connectAndAuthenticate { world.env with getenv := getenv } none
    { config := sshConfigOf options password' device } world.auth = connect' at halike ⊢
  obtain ⟨hresult, password'', hclient⟩ := halike
  rw [hresult, hclient]
  split
  · exact .of_calls _ _ _ _ _
  · have hreport := (reportDevice_same options world iface stage device connect.client
      password'').after (hostKeyWarning options connect.client)
    exact ⟨hreport.stdout, hreport.stderr, hreport.exitCode⟩

/-- With a password in hand the rest of `run` does not show it. -/
theorem runOnInterface_same {getenv : Bytes → Option Bytes}
    (hprofile : getenv "USERPROFILE" = world.env.getenv "USERPROFILE")
    (password password' : Bytes) :
    SameOutput (runOnInterface options world password iface)
      (runOnInterface options { world with env := { world.env with getenv := getenv } } password'
        iface) := by
  have hdiscovery : discoverDevices options
      { world with env := { world.env with getenv := getenv } } iface =
        discoverDevices options world iface :=
    rfl
  unfold runOnInterface
  rw [hdiscovery]
  dsimp only
  split
  · exact .refl _
  · exact (queryDevice_same options world iface _ _ hprofile password password').after _

end Run

/-- A call of `run` in `main` with a password configured in both runs. -/
theorem tryRun_same {options : Options} {world : World} {getenv : Bytes → Option Bytes}
    {sshPassword : Bytes}
    (hprofile : getenv "USERPROFILE" = world.env.getenv "USERPROFILE")
    (hconfigured : options.mockIfconfigFile = [] →
      ∃ password, configuredPassword options world = .ok password)
    (hconfigured' : options.mockIfconfigFile = [] →
      ∃ password, configuredPassword { options with sshPassword := sshPassword }
        { world with env := { world.env with getenv := getenv } } = .ok password) :
    SameOutput (tryRun options world) (tryRun { options with sshPassword := sshPassword }
      { world with env := { world.env with getenv := getenv } }) := by
  unfold tryRun run
  by_cases hmock : options.mockIfconfigFile = []
  · rw [if_neg (not_not.mpr hmock), if_neg (not_not.mpr hmock)]
    obtain ⟨password, hpassword⟩ := hconfigured hmock
    obtain ⟨password', hpassword'⟩ := hconfigured' hmock
    -- None of the other functions looks at the password or at the environment.
    have hselect : selectInterface { options with sshPassword := sshPassword }
        { world with env := { world.env with getenv := getenv } } =
          selectInterface options world :=
      rfl
    rw [hpassword, hpassword', hselect]
    cases selectInterface options world with
    | error what => exact .refl _
    | ok selection =>
        cases selection with
        | error outcome => exact .refl _
        | ok iface => exact runOnInterface_same options world iface hprofile password password'
  · rw [if_pos hmock, if_pos hmock]
    exact .refl _

/-- Two runs of the program that differ in the text of the password alone: in
what `--ssh-password` consumes, and in the variable that holds the password
unless that is `USERPROFILE`. Neither password is empty, in a run that needs
one. -/
structure DifferInPassword (arguments other : List Bytes) (world world' : World) : Prop where
  commandLine : maskPassword arguments = maskPassword other
  responses : world' = { world with env := { world.env with getenv := world'.env.getenv } }
  environment : ∀ options, parseOptions arguments {} = .ok options → ∀ name,
    world.env.getenv name ≠ world'.env.getenv name →
      SameVariable name options.passwordEnv ∧ ¬SameVariable name "USERPROFILE"
  configured : ∀ options, parseOptions arguments {} = .ok options →
    options.mockIfconfigFile = [] → ∃ password, configuredPassword options world = .ok password
  configured' : ∀ options, parseOptions other {} = .ok options →
    options.mockIfconfigFile = [] → ∃ password, configuredPassword options world' = .ok password

/-- Password noninterference: both streams and the exit code are the same. -/
theorem main_noninterference {arguments other : List Bytes} {world world' : World}
    (h : DifferInPassword arguments other world world') :
    (main other world').stdout = (main arguments world).stdout ∧
      (main other world').stderr = (main arguments world).stderr ∧
      (main other world').exitCode = (main arguments world).exitCode := by
  have hsame : SameOutput (main arguments world) (main other world') := by
    have hready : world'.winsockReady = world.winsockReady := by rw [h.responses]
    have hparse := parseOptions_eq_of_maskPassword h.commandLine
    unfold main
    rw [hready]
    split
    · exact .refl _
    cases hoptions : parseOptions arguments {} with
    | error exit =>
        rw [hoptions] at hparse
        cases hother : parseOptions other {} with
        | error exit' =>
            rw [hother] at hparse
            rw [Except.error.inj hparse]
            exact .refl _
        | ok options =>
            rw [hother] at hparse
            cases hparse
    | ok options =>
        rw [hoptions] at hparse
        cases hother : parseOptions other {} with
        | error exit =>
            rw [hother] at hparse
            cases hparse
        | ok options' =>
            rw [hother] at hparse
            have hhidden : options.hidden = options'.hidden := Except.ok.inj hparse
            have hoptions' : options' = { options with sshPassword := options'.sshPassword } := by
              show { options'.hidden with sshPassword := options'.sshPassword } =
                { options.hidden with sshPassword := options'.sshPassword }
              rw [hhidden]
            have hprofile : world'.env.getenv "USERPROFILE" = world.env.getenv "USERPROFILE" := by
              by_contra hne
              exact (h.environment options hoptions _ (Ne.symm hne)).2 rfl
            have hconfigured' := h.configured' options' hother
            rw [hoptions', h.responses] at hconfigured'
            have hrun := tryRun_same hprofile (h.configured options hoptions) hconfigured'
            rw [← h.responses, ← hoptions'] at hrun
            exact hrun
  exact ⟨hsame.stdout, hsame.stderr, hsame.exitCode⟩

theorem main_noninterference_sample :
    (main ["--verbose", "--ssh-password", "root"] (sampleWorld [] (.last 0 (le_refl 0)))).stderr =
      (main ["--verbose", "--ssh-password", "secret"]
        (sampleWorld [] (.last 0 (le_refl 0)))).stderr := by
  have h : DifferInPassword ["--verbose", "--ssh-password", "secret"]
      ["--verbose", "--ssh-password", "root"] (sampleWorld [] (.last 0 (le_refl 0)))
      (sampleWorld [] (.last 0 (le_refl 0))) := {
    commandLine := by decide
    responses := rfl
    environment := fun _ _ _ hne => absurd rfl hne
    configured := by
      intro options hoptions _
      obtain rfl := Except.ok.inj hoptions
      exact ⟨"secret", rfl⟩
    configured' := by
      intro options hoptions _
      obtain rfl := Except.ok.inj hoptions
      exact ⟨"root", rfl⟩ }
  exact (main_noninterference h).2.1

end DeviceDiscovery.Main
