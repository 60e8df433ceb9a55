import DeviceDiscovery.Main.OptionGrammar
import DeviceDiscovery.Main.RunEnds

/-!
What `--verbose` and `--json` do.

They are dropped from a command line, and the two runs are compared. Both come to
the same decisions, make the same calls and end with the same exit code; the one
adds lines of `log` to stderr, and the other writes the report in another form.
-/

namespace DeviceDiscovery.Main

open Foundation DeviceDiscovery.Platform DeviceDiscovery.Network DeviceDiscovery.Scanner
  DeviceDiscovery.Ssh DeviceDiscovery.Parser DeviceDiscovery.Output

/-! ### The command line -/

/-- The options without the two. -/
def Options.plain (options : Options) : Options := { options with json := false, verbose := false }

/-- The arguments without the two, where they are not the value of an option. -/
def dropFlags : List Bytes → List Bytes
  | [] => []
  | arg :: rest =>
      match argumentOf arg with
      | .valued _ _ =>
          match rest with
          | [] => [arg]
          | value :: rest => arg :: value :: dropFlags rest
      | _ =>
          if arg = Flag.json.name ∨ arg = Flag.verbose.name then dropFlags rest
          else arg :: dropFlags rest

/-- An option with a value has nothing to do with the two. -/
theorem plain_of_valued {arg error value : Bytes} {set : Bytes → Option (Options → Options)}
    {f : Options → Options} (harg : argumentOf arg = .valued error set) (hset : set value = some f)
    (options : Options) : (f options).plain = f options.plain := by
  cases harg ▸ argumentOf_classified arg with
  | text o =>
      obtain rfl := Option.some.inj hset
      cases o <;> rfl
  | time o =>
      obtain ⟨milliseconds, -, rfl⟩ := Option.map_eq_some_iff.mp hset
      cases o <;> rfl
  | threads =>
      unfold setThreads at hset
      split at hset
      · cases hset
      · split at hset
        · cases hset
        · obtain rfl := Option.some.inj hset
          rfl

theorem plain_of_flag {arg : Bytes} {set : Options → Options} (harg : argumentOf arg = .flag set)
    (options : Options) :
    if arg = Flag.json.name ∨ arg = Flag.verbose.name then (set options).plain = options.plain
    else (set options).plain = set options.plain := by
  cases harg ▸ argumentOf_classified arg with
  | flag f =>
      cases f with
      | strictHostKey =>
          rw [if_neg (by decide)]
          rfl
      | _ =>
          rw [if_pos (by decide)]
          rfl

/-- Dropping the two from the arguments is dropping them from the options. -/
theorem parseOptions_dropFlags (arguments : List Bytes) (options : Options) :
    parseOptions (dropFlags arguments) options.plain =
      (parseOptions arguments options).map Options.plain := by
  fun_induction dropFlags arguments generalizing options with
  | case1 => rfl
  | case2 arg error set harg =>
      rw [parseOptions, parseOptions, harg]
      rfl
  | case3 arg error set harg value rest ih =>
      rw [parseOptions_valued harg, parseOptions_valued harg]
      cases hset : set value with
      | none => rfl
      | some f =>
          dsimp only
          rw [← ih, plain_of_valued harg hset]
  | case4 arg rest hdropped harg ih =>
      cases hargument : argumentOf arg with
      | flag set =>
          have hplain := plain_of_flag hargument options
          rw [if_pos hdropped] at hplain
          rw [parseOptions_flag hargument, ← ih, hplain]
      | valued error set => exact (harg error set hargument).elim
      | help => rcases hdropped with rfl | rfl <;> cases hargument
      | unknown => rcases hdropped with rfl | rfl <;> cases hargument
  | case5 arg rest hkept harg ih =>
      cases hargument : argumentOf arg with
      | flag set =>
          have hplain := plain_of_flag hargument options
          rw [if_neg hkept] at hplain
          rw [parseOptions_flag hargument, parseOptions_flag hargument, ← ih, hplain]
      | valued error set => exact (harg error set hargument).elim
      | help =>
          rw [parseOptions, parseOptions, hargument]
          rfl
      | unknown =>
          rw [parseOptions, parseOptions, hargument]
          rfl

/-! ### Added lines -/

/-- Lines of `log` are added to a text. -/
inductive Logged (options : Options) : Bytes → Bytes → Prop where
  | nil : Logged options [] []
  | text (s : Bytes) {quiet loud : Bytes} (h : Logged options quiet loud) :
      Logged options (s ++ quiet) (s ++ loud)
  | line (message : Bytes) {quiet loud : Bytes} (h : Logged options quiet loud) :
      Logged options quiet (log options message ++ loud)

namespace Logged

variable {options : Options} {quiet loud : Bytes}

theorem refl (s : Bytes) : Logged options s s := by
  have h : Logged options (s ++ []) (s ++ []) := .text s .nil
  rwa [List.append_nil] at h

theorem log (message : Bytes) :
    Logged options (log options.plain message) (log options message) := by
  have h : Logged options [] (Main.log options message ++ []) := .line message .nil
  rwa [List.append_nil] at h

theorem append {quiet' loud' : Bytes} (h : Logged options quiet loud)
    (h' : Logged options quiet' loud') : Logged options (quiet ++ quiet') (loud ++ loud') := by
  induction h with
  | nil => exact h'
  | text s _ ih =>
      rw [List.append_assoc, List.append_assoc]
      exact .text s ih
  | line message _ ih =>
      rw [List.append_assoc]
      exact .line message ih

theorem flatMap {α : Type} (message : α → Bytes) (xs : List α) :
    Logged options [] (xs.flatMap fun x => Main.log options (message x)) := by
  induction xs with
  | nil => exact .nil
  | cons x rest ih => exact .line (message x) ih

/-- Nothing is lost. -/
theorem sublist (h : Logged options quiet loud) : quiet.Sublist loud := by
  induction h with
  | nil => exact .slnil
  | text s _ ih => exact ih.append_left s
  | line message _ ih => exact ih.trans (List.sublist_append_right _ _)

/-- Nothing is added without `--verbose`. -/
theorem eq_of_not_verbose (h : Logged options quiet loud) (hquiet : options.verbose = false) :
    quiet = loud := by
  induction h with
  | nil => rfl
  | text s _ ih => rw [ih]
  | line message _ ih =>
      have hnone : Main.log options message = [] := by
        simp [Main.log, hquiet]
      rw [hnone, ih]
      rfl

end Logged

/-! ### The client -/

def quietConfig (config : SshConfig) : SshConfig := { config with verbose := false }

def quietClient (client : SshClient) : SshClient :=
  { client with config := quietConfig client.config }

/-- The same invocation on the quiet client. -/
def Quieter {τ : Type} (invocation other : Invocation τ) : Prop :=
  other = { invocation with client := quietClient invocation.client }

namespace Quieter

variable {τ : Type} {invocation other : Invocation τ}

theorem ite {c : Prop} [Decidable c] {yes yes' no no' : Invocation τ} (hyes : Quieter yes yes')
    (hno : Quieter no no') : Quieter (if c then yes else no) (if c then yes' else no') := by
  split
  · exact hyes
  · exact hno

theorem after (h : Quieter invocation other) (calls : List SshCall) :
    Quieter (invocation.after calls) (other.after calls) := by
  rw [h]
  rfl

end Quieter

theorem verifyAndAuthenticate_quieter (env : Environment) (client : SshClient) (os : AuthAnswers) :
    Quieter (verifyAndAuthenticate env client os)
      (verifyAndAuthenticate env (quietClient client) os) := by
  have hkey : checkHostKey env (quietClient client) os = checkHostKey env client os := rfl
  unfold verifyAndAuthenticate
  rw [hkey]
  exact .ite rfl (.ite rfl rfl)

theorem openSession_quieter (env : Environment) (client : SshClient) (os : AuthAnswers) :
    Quieter (openSession env client os) (openSession env (quietClient client) os) :=
  .ite rfl (.ite rfl (.ite rfl ((verifyAndAuthenticate_quieter env _ os).after _)))

theorem connectAndAuthenticate_quieter (env : Environment) (flag : Option Bool)
    (client : SshClient) (os : AuthAnswers) :
    Quieter (client.connectAndAuthenticate env flag os)
      ((quietClient client).connectAndAuthenticate env flag os) :=
  .ite rfl (.ite rfl ((openSession_quieter env _ os).after _))

theorem execute_quieter (client : SshClient) (command : Bytes) (os : ExecuteAnswers) :
    Quieter (client.execute command os) ((quietClient client).execute command os) :=
  .ite rfl (.ite rfl (.ite rfl rfl))

/-! ### The stages -/

/-- The two stages find the same, and one logs it. -/
structure Stage.Presents (options : Options) (plain found : Stage) : Prop where
  devices : found.devices = plain.devices
  diagnostic : found.diagnostic = plain.diagnostic
  stderr : Logged options plain.stderr found.stderr

section Stages

variable (options : Options) (world : World) (iface : NetworkInterface)

theorem stageASubnetScan_presents : Stage.Presents options
    (stageASubnetScan options.plain world iface) (stageASubnetScan options world iface) := by
  unfold stageASubnetScan
  dsimp only
  split
  · exact ⟨rfl, rfl, .log _⟩
  · exact ⟨rfl, rfl, .log _⟩

theorem stageBLayer2_presents : Stage.Presents options (stageBLayer2 options.plain world iface)
    (stageBLayer2 options world iface) := by
  have helevation (message : Bytes) : Logged options
      (if world.elevated then [] else log options.plain message)
      (if world.elevated then [] else log options message) := by
    split
    · exact .nil
    · exact .log message
  have hobserved (observations : List L2Observation) (message : L2Observation → Bytes) :
      Logged options (observations.flatMap fun o => log options.plain (message o))
        (observations.flatMap fun o => log options (message o)) := by
    have hnone : (observations.flatMap fun o => log options.plain (message o)) = [] := by
      simp [log, Options.plain]
    rw [hnone]
    exact .flatMap message observations
  have hwindow : options.plain.layer2Window = options.layer2Window := rfl
  unfold stageBLayer2
  dsimp only
  rw [hwindow]
  split
  · exact ⟨rfl, rfl, (Logged.log _).append (helevation _)⟩
  · exact ⟨rfl, rfl, ((Logged.log _).append (helevation _)).append (hobserved _ _)⟩

/-- The same stage decides, with the same devices. -/
theorem discoverDevices_presents :
    (discoverDevices options world iface).stage =
        (discoverDevices options.plain world iface).stage ∧
      Stage.Presents options (discoverDevices options.plain world iface).found
        (discoverDevices options world iface).found := by
  have hsubnet := stageASubnetScan_presents options world iface
  have hlayer2 := stageBLayer2_presents options world iface
  unfold discoverDevices
  dsimp only
  rw [hsubnet.devices]
  split
  · exact ⟨rfl, hlayer2.devices, hlayer2.diagnostic, hsubnet.stderr.append hlayer2.stderr⟩
  · exact ⟨rfl, hsubnet⟩

end Stages

/-! ### The run -/

/-- The two outcomes are one, but for the form of the report and the added lines. -/
structure Outcome.Presents (options : Options) (plain outcome : Outcome) : Prop where
  stdout : plain.stdout = [] ∧ outcome.stdout = [] ∨
    ∃ report, plain.stdout = formatText report ∧ outcome.stdout = emit options report
  stderr : Logged options plain.stderr outcome.stderr
  exitCode : outcome.exitCode = plain.exitCode
  connected : plain.connected = outcome.connected.map quietConfig
  calls : outcome.calls = plain.calls
  parsed : outcome.parsed = plain.parsed

namespace Outcome.Presents

variable {options : Options} {plain outcome : Outcome}

theorem refuse (stderr : Bytes) (exitCode : ExitCode) :
    Presents options (refuse stderr exitCode) (refuse stderr exitCode) :=
  ⟨.inl ⟨rfl, rfl⟩, .refl stderr, rfl, rfl, rfl, rfl⟩

theorem withheld (h : outcome.Withheld) : Presents options outcome outcome := by
  refine ⟨.inl ⟨h.stdout, h.stdout⟩, .refl _, rfl, ?_, rfl, rfl⟩
  rw [h.connected]
  rfl

theorem after (h : Presents options plain outcome) {quiet loud : Bytes}
    (hadded : Logged options quiet loud) :
    Presents options (plain.after quiet) (outcome.after loud) :=
  ⟨h.stdout, hadded.append h.stderr, h.exitCode, h.connected, h.calls, h.parsed⟩

end Outcome.Presents

theorem reportInterfaces_presents (options : Options) (report : DiscoveryReport)
    (parsed : Option Bytes) : (reportInterfaces options.plain report parsed).Presents options
      (reportInterfaces options report parsed) :=
  ⟨.inr ⟨_, rfl, rfl⟩, .nil, rfl, rfl, rfl, rfl⟩

theorem runMockMode_presents (options : Options) (world : World) :
    (runMockMode options.plain world).Presents options (runMockMode options world) := by
  have hfile : options.plain.mockIfconfigFile = options.mockIfconfigFile := rfl
  unfold runMockMode
  rw [hfile]
  cases world.readFile options.mockIfconfigFile with
  | none => exact .refuse _ _
  | some contents =>
      dsimp only
      generalize (if parseIfconfigOutput contents = [] then parseIpAddrOutput contents
        else parseIfconfigOutput contents) = interfaces
      split
      · exact .refuse _ _
      · exact reportInterfaces_presents options _ none

section Run

variable (options : Options) (world : World) (iface : NetworkInterface) (stage : Bytes)
  (device : SshProbeResult)

theorem reportOutput_presents (hostKeyStatus : Bytes) {plain output : CommandOutput}
    (hsource : output.source = plain.source) (hdata : output.stdoutData = plain.stdoutData) :
    (reportOutput options.plain iface stage device hostKeyStatus plain).Presents options
      (reportOutput options iface stage device hostKeyStatus output) := by
  unfold reportOutput
  rw [hsource, hdata]
  cases plain.source with
  | none => exact .refuse _ _
  | some source =>
      dsimp only
      split
      · exact ⟨.inl ⟨rfl, rfl⟩, .refl _, rfl, rfl, rfl, rfl⟩
      · exact reportInterfaces_presents options _ _

/-- The commands give the same output, and the fallback is logged. -/
theorem runCommands_presents (client : SshClient) :
    let plain := runCommands options.plain world (quietClient client)
    let commands := runCommands options world client
    (commands.result.source = plain.result.source ∧
        commands.result.stdoutData = plain.result.stdoutData) ∧
      Logged options plain.result.stderr commands.result.stderr ∧
      plain.client = quietClient commands.client ∧ commands.calls = plain.calls := by
  have hfirst := execute_quieter client "ifconfig" (world.execute "ifconfig")
  have hsecond := execute_quieter (client.execute "ifconfig" (world.execute "ifconfig")).client
    "ip -4 addr" (world.execute "ip -4 addr")
  unfold runCommands
  dsimp only
  rw [hfirst]
  dsimp only
  rw [hsecond]
  split
  · exact ⟨⟨rfl, rfl⟩, .nil, rfl, rfl⟩
  · dsimp only
    split
    · exact ⟨⟨rfl, rfl⟩, .log _, rfl, rfl⟩
    · exact ⟨⟨rfl, rfl⟩, (Logged.log _).append (.refl _), rfl, rfl⟩

theorem reportDevice_presents (client : SshClient) :
    (reportDevice options.plain world iface stage device (quietClient client)).Presents options
      (reportDevice options world iface stage device client) := by
  obtain ⟨⟨hsource, hdata⟩, hstderr, hclient, hcalls⟩ := runCommands_presents options world client
  have houtput := (reportOutput_presents options iface stage device
    (runCommands options world client).client.hostKeyStatus hsource hdata).after hstderr
  unfold reportDevice
  dsimp only
  rw [hclient, hcalls]
  exact ⟨houtput.stdout, houtput.stderr, houtput.exitCode, houtput.connected, rfl, houtput.parsed⟩

theorem queryDevice_presents (password : Bytes) :
    (queryDevice options.plain world password iface stage device).Presents options
      (queryDevice options world password iface stage device) := by
  have hquieter : Quieter (SshClient.connectAndAuthenticate world.env none
      { config := sshConfigOf options password device } world.auth)
    (SshClient.connectAndAuthenticate world.env none
      { config := sshConfigOf options.plain password device } world.auth) :=
    connectAndAuthenticate_quieter world.env none { config := sshConfigOf options password device }
      world.auth
  unfold queryDevice
  dsimp only
  rw [hquieter]
  generalize SshClient.connectAndAuthenticate world.env none
    { config := sshConfigOf options password device } world.auth = connect
  dsimp only
  cases hresult : connect.result with
  | false => exact ⟨.inl ⟨rfl, rfl⟩, .refl _, rfl, rfl, rfl, rfl⟩
  | true =>
      have hreport := (reportDevice_presents options world iface stage device connect.client).after
        (Logged.refl (hostKeyWarning options connect.client))
      exact ⟨hreport.stdout, hreport.stderr, hreport.exitCode,
        congrArg (quietConfig (sshConfigOf options password device) :: ·) hreport.connected,
        congrArg (connect.calls ++ ·) hreport.calls, hreport.parsed⟩

theorem runOnInterface_presents (password : Bytes) :
    (runOnInterface options.plain world password iface).Presents options
      (runOnInterface options world password iface) := by
  obtain ⟨hstage, hfound⟩ := discoverDevices_presents options world iface
  have hchoice : chooseDevice options iface (discoverDevices options world iface).found =
      chooseDevice options.plain iface (discoverDevices options.plain world iface).found := by
    unfold chooseDevice
    rw [hfound.devices, hfound.diagnostic]
    rfl
  unfold runOnInterface
  dsimp only
  rw [hchoice, hstage]
  generalize hchosen : chooseDevice options.plain iface
    (discoverDevices options.plain world iface).found = choice
  have hlogged (message : Bytes) : Logged options
      (log options.plain message ++ (discoverDevices options.plain world iface).found.stderr)
      (log options message ++ (discoverDevices options world iface).found.stderr) :=
    (Logged.log message).append hfound.stderr
  cases choice with
  | error outcome =>
      exact (Outcome.Presents.withheld (chooseDevice_error hchosen)).after (hlogged _)
  | ok device =>
      exact (queryDevice_presents options world iface _ device password).after
        ((hlogged _).append (.log _))

theorem tryRun_presents :
    (tryRun options.plain world).Presents options (tryRun options world) := by
  by_cases hmock : options.mockIfconfigFile = []
  · have hplain : options.plain.mockIfconfigFile = [] := hmock
    have hsame : configuredPassword options.plain world = configuredPassword options world := rfl
    cases hpassword : configuredPassword options world with
    | error outcome =>
        rw [tryRun_of_noPassword hmock hpassword,
          tryRun_of_noPassword hplain (hsame.trans hpassword)]
        exact .withheld (configuredPassword_error hpassword)
    | ok password =>
        rw [tryRun_of_password hmock hpassword, tryRun_of_password hplain (hsame.trans hpassword)]
        cases discoverCandidateInterfaces world.env.formatMessage world.adapters with
        | error what => exact .refuse _ _
        | ok candidates =>
            have hhinted : hintedCandidates options.plain candidates =
              hintedCandidates options candidates := rfl
            dsimp only
            rw [hhinted]
            generalize hsole : soleCandidate (hintedCandidates options candidates) = sole
            cases sole with
            | error outcome => exact .withheld (soleCandidate_error hsole)
            | ok iface => exact runOnInterface_presents options world iface password
  · have hplain : options.plain.mockIfconfigFile ≠ [] := hmock
    rw [tryRun, tryRun, run, run, if_pos hmock, if_pos hplain]
    exact runMockMode_presents options world

end Run

/-- For every command line and all answers: without `--verbose` and `--json` the
program does the same. A command line that is refused is refused in the same
words; otherwise the exit code, the calls, the connections and the output that is
parsed are the same, stdout is empty in both runs or has the same report in two
forms, and stderr has everything in its order, with lines of `log` between only
where there is `--verbose`. -/
theorem main_presents (arguments : List Bytes) (world : World) :
    let plain := main (dropFlags arguments) world
    let outcome := main arguments world
    (∀ exit, parseOptions arguments {} = .error exit → outcome = plain) ∧
      ∀ options, parseOptions arguments {} = .ok options →
        plain.Presents options outcome ∧ plain.stderr.Sublist outcome.stderr ∧
          (options.verbose = false → plain.stderr = outcome.stderr) := by
  intro plain outcome
  have hparse := parseOptions_dropFlags arguments {}
  have hdefault : ({} : Options).plain = {} := rfl
  rw [hdefault] at hparse
  constructor
  · intro exit h
    rw [h] at hparse
    show main arguments world = main (dropFlags arguments) world
    rw [main, main, h, hparse]
    rfl
  · intro options h
    rw [h] at hparse
    have hpresents : plain.Presents options outcome := by
      show (main (dropFlags arguments) world).Presents options (main arguments world)
      rw [main, main, h, hparse]
      split
      · exact .refuse _ _
      · exact tryRun_presents options world
    exact ⟨hpresents, hpresents.stderr.sublist, hpresents.stderr.eq_of_not_verbose⟩

end DeviceDiscovery.Main
