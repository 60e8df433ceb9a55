import DeviceDiscovery.Foundation.LastWrite
import DeviceDiscovery.Main.TimeoutOptions

/-!
The grammar of the command line (`parse_options`).

A command line is a list of settings, each an option with the value it takes. It
is accepted exactly when it reads as such a list, and the first words that are no
setting decide how it is refused (`parseOptions_reads`). A setting writes to one
option, and the last one to each option counts (`parseOptions_lastOf`). The options
that some command line gives are those that keep to the bounds of the settings
(`reachable_iff_valid`).
-/

namespace DeviceDiscovery.Main

open Foundation

/-! ### Settings -/

inductive Flag where
  | json
  | verbose
  | strictHostKey
  deriving DecidableEq, Repr

def Flag.name : Flag → Bytes
  | json => "--json"
  | verbose => "--verbose"
  | strictHostKey => "--strict-host-key"

def Flag.store : Flag → Options → Options
  | json, options => { options with json := true }
  | verbose, options => { options with verbose := true }
  | strictHostKey, options => { options with strictHostKey := true }

/-- An option that takes any text. -/
inductive TextOption where
  | sshUser
  | sshPassword
  | sshPasswordEnv
  | interface
  | select
  | mockIfconfig
  deriving DecidableEq, Repr

def TextOption.name : TextOption → Bytes
  | sshUser => "--ssh-user"
  | sshPassword => "--ssh-password"
  | sshPasswordEnv => "--ssh-password-env"
  | interface => "--interface"
  | select => "--select"
  | mockIfconfig => "--mock-ifconfig"

def TextOption.store : TextOption → Bytes → Options → Options
  | sshUser, value, options => { options with sshUser := value }
  | sshPassword, value, options => { options with sshPassword := value, passwordFromCli := true }
  | sshPasswordEnv, value, options => { options with passwordEnv := value }
  | interface, value, options => { options with interfaceHint := value }
  | select, value, options => { options with selectCandidate := value }
  | mockIfconfig, value, options => { options with mockIfconfigFile := value }

deriving instance DecidableEq for TimeoutOption

/-- An option that is set. -/
inductive Key where
  | flag (f : Flag)
  | text (o : TextOption)
  | time (o : TimeoutOption)
  | threads
  deriving DecidableEq

namespace Key

def name : Key → Bytes
  | flag f => f.name
  | text o => o.name
  | time o => o.name
  | threads => "--threads"

/-- The options in the order of the source. -/
def all : List Key :=
  [flag .json, flag .verbose, flag .strictHostKey, threads, text .sshUser, text .sshPassword,
    text .sshPasswordEnv, text .interface, text .select, text .mockIfconfig, time .timeout,
    time .bannerTimeout, time .authTimeout, time .commandTimeout, time .layer2Window]

theorem mem_all (k : Key) : k ∈ all := by
  cases k with
  | flag f => cases f <;> decide
  | text o => cases o <;> decide
  | time o => cases o <;> decide
  | threads => decide

theorem name_injective : Function.Injective name := by
  have hnodup : (all.map name).Nodup := by decide
  intro k k' h
  exact List.inj_on_of_nodup_map hnodup (mem_all k) (mem_all k') h

end Key

/-- The times that an option can hold. -/
abbrev Milliseconds : Type := { n : ℕ // 0 < n ∧ (n : ℤ) ≤ llongMax }

abbrev ThreadCount : Type := { n : ℕ // 0 < n ∧ n ≤ 1024 }

inductive Setting where
  | flag (f : Flag)
  | text (o : TextOption) (value : Bytes)
  | time (o : TimeoutOption) (milliseconds : Milliseconds)
  | threads (count : ThreadCount)

namespace Setting

def store : Setting → Options → Options
  | flag f, options => f.store options
  | text o value, options => o.store value options
  | time o milliseconds, options => o.store milliseconds.1 options
  | threads count, options => { options with threads := count.1 }

def key : Setting → Key
  | flag f => .flag f
  | text o _ => .text o
  | time o _ => .time o
  | threads _ => .threads

/-- The largest time stands for all that are written larger. -/
def saturate (v : ℕ) (h : 0 < v) : Milliseconds :=
  ⟨min 9223372036854775807 v, by
    have hmax : llongMax = 9223372036854775807 := rfl
    omega⟩

/-- The words that a setting is written in. -/
inductive Spells : Setting → List Bytes → Prop where
  | flag (f : Flag) : Spells (.flag f) [f.name]
  | text (o : TextOption) (value : Bytes) : Spells (.text o value) [o.name, value]
  | time (o : TimeoutOption) {value : Bytes} {v : ℕ} (hvalue : DenotesDecimal value v)
      (h : 0 < v) : Spells (.time o (saturate v h)) [o.name, value]
  | threads {value : Bytes} {v : ℕ} (hvalue : DenotesDecimal value v) (h : 0 < v ∧ v ≤ 1024) :
      Spells (.threads ⟨v, h⟩) [bytes "--threads", value]

end Setting

def applySettings (settings : List Setting) (options : Options) : Options :=
  settings.foldl (fun options setting => setting.store options) options

/-- The arguments are the words of the settings. -/
inductive Reads : List Bytes → List Setting → Prop where
  | nil : Reads [] []
  | cons {setting : Setting} {words rest : List Bytes} {settings : List Setting}
      (h : setting.Spells words) (hrest : Reads rest settings) :
      Reads (words ++ rest) (setting :: settings)

/-! ### Refusals -/

def optionNames : List Bytes := Key.all.map Key.name

def usageExit (error : Bytes) : Exit := { stderr := error, exitCode := .usageError }

def textError (o : TextOption) : Bytes := bytes "Error: " ++ o.name ++ bytes " requires a value\n"

def timeError (o : TimeoutOption) : Bytes :=
  bytes "Error: " ++ o.name ++ bytes " requires a positive millisecond value\n"

def threadsError : Bytes := "Error: --threads requires a value between 1 and 1024\n"

/-- The arguments do not begin with a setting, and what comes of it. -/
inductive Refused : List Bytes → Exit → Prop where
  | help {arg : Bytes} (rest : List Bytes) (h : arg = bytes "-h" ∨ arg = bytes "--help") :
      Refused (arg :: rest) { stdout := printUsage, exitCode := .success }
  | unknown {arg : Bytes} (rest : List Bytes) (hhelp : arg ≠ bytes "-h" ∧ arg ≠ bytes "--help")
      (h : arg ∉ optionNames) :
      Refused (arg :: rest) {
        stdout := printUsage
        stderr := bytes "Error: unknown argument '" ++ arg ++ bytes "'\n"
        exitCode := .usageError }
  | textMissing (o : TextOption) : Refused [o.name] (usageExit (textError o))
  | timeMissing (o : TimeoutOption) : Refused [o.name] (usageExit (timeError o))
  | time (o : TimeoutOption) {value : Bytes} (rest : List Bytes)
      (h : ∀ v, DenotesDecimal value v → v = 0) :
      Refused (o.name :: value :: rest) (usageExit (timeError o))
  | threadsMissing : Refused [bytes "--threads"] (usageExit threadsError)
  | threads {value : Bytes} (rest : List Bytes)
      (h : ∀ v, DenotesDecimal value v → v = 0 ∨ 1024 < v) :
      Refused (bytes "--threads" :: value :: rest) (usageExit threadsError)

/-! ### The first argument -/

/-- What the first argument is, by its text. -/
inductive Classified : Bytes → Argument → Prop where
  | help {arg : Bytes} (h : arg = bytes "-h" ∨ arg = bytes "--help") : Classified arg .help
  | flag (f : Flag) : Classified f.name (.flag f.store)
  | text (o : TextOption) :
      Classified o.name (.valued (textError o) fun value => some (o.store value))
  | time (o : TimeoutOption) :
      Classified o.name (.valued (timeError o) fun value => (parsePositive value).map o.store)
  | threads : Classified (bytes "--threads") (.valued threadsError setThreads)
  | unknown {arg : Bytes} (hhelp : arg ≠ bytes "-h" ∧ arg ≠ bytes "--help")
      (h : arg ∉ optionNames) : Classified arg .unknown

theorem Classified.ite {arg : Bytes} {c : Prop} [Decidable c] {yes no : Argument}
    (hyes : c → Classified arg yes) (hno : ¬c → Classified arg no) :
    Classified arg (if c then yes else no) :=
  iteInduction (motive := Classified arg) hyes hno

theorem argumentOf_classified (arg : Bytes) : Classified arg (argumentOf arg) := by
  refine .ite .help fun hhelp => .ite ?_ fun hjson => .ite ?_ fun hverbose => .ite ?_ fun hstrict =>
    .ite ?_ fun hthreads => .ite ?_ fun huser => .ite ?_ fun hpassword => .ite ?_ fun henv =>
    .ite ?_ fun hinterface => .ite ?_ fun hselect => .ite ?_ fun hmock => .ite ?_ fun htimeout =>
    .ite ?_ fun hbanner => .ite ?_ fun hauth => .ite ?_ fun hcommand => .ite ?_ fun hlayer2 =>
    .unknown (not_or.mp hhelp) ?_
  · exact fun h => h ▸ .flag .json
  · exact fun h => h ▸ .flag .verbose
  · exact fun h => h ▸ .flag .strictHostKey
  · exact fun h => h ▸ .threads
  · exact fun h => h ▸ .text .sshUser
  · exact fun h => h ▸ .text .sshPassword
  · exact fun h => h ▸ .text .sshPasswordEnv
  · exact fun h => h ▸ .text .interface
  · exact fun h => h ▸ .text .select
  · exact fun h => h ▸ .text .mockIfconfig
  · exact fun h => h ▸ .time .timeout
  · exact fun h => h ▸ .time .bannerTimeout
  · exact fun h => h ▸ .time .authTimeout
  · exact fun h => h ▸ .time .commandTimeout
  · exact fun h => h ▸ .time .layer2Window
  · simp only [optionNames, Key.all, List.map_cons, List.map_nil, List.mem_cons, List.not_mem_nil,
      or_false, not_or]
    exact ⟨hjson, hverbose, hstrict, hthreads, huser, hpassword, henv, hinterface, hselect, hmock,
      htimeout, hbanner, hauth, hcommand, hlayer2⟩

@[simp] theorem argumentOf_flag (f : Flag) : argumentOf f.name = .flag f.store := by
  cases f <;> rfl

@[simp] theorem argumentOf_text (o : TextOption) :
    argumentOf o.name = .valued (textError o) fun value => some (o.store value) := by
  cases o <;> rfl

@[simp] theorem argumentOf_time (o : TimeoutOption) :
    argumentOf o.name = .valued (timeError o) fun value => (parsePositive value).map o.store := by
  cases o <;> rfl

theorem argumentOf_unknown {arg : Bytes} (hhelp : arg ≠ bytes "-h" ∧ arg ≠ bytes "--help")
    (h : arg ∉ optionNames) : argumentOf arg = .unknown := by
  have hname (k : Key) : k.name ∈ optionNames := List.mem_map_of_mem (Key.mem_all k)
  generalize hargument : argumentOf arg = argument
  cases hargument ▸ argumentOf_classified arg with
  | help hasked => exact absurd hasked (not_or.mpr hhelp)
  | flag f => exact absurd (hname (.flag f)) h
  | text o => exact absurd (hname (.text o)) h
  | time o => exact absurd (hname (.time o)) h
  | threads => exact absurd (hname .threads) h
  | unknown => rfl

@[simp] theorem argumentOf_threads :
    argumentOf (bytes "--threads") = .valued threadsError setThreads := by
  rfl

/-! ### Settings are read -/

theorem saturate_val (v : ℕ) (h : 0 < v) : ((Setting.saturate v h).1 : ℤ) = min llongMax v := by
  have hmax : llongMax = 9223372036854775807 := rfl
  show ((min 9223372036854775807 v : ℕ) : ℤ) = min llongMax v
  omega

theorem setThreads_of_denotesDecimal {value : Bytes} {v : ℕ} (hvalue : DenotesDecimal value v)
    (h : 0 < v ∧ v ≤ 1024) :
    setThreads value = some fun options => { options with threads := v } := by
  have hmax : llongMax = 9223372036854775807 := rfl
  have hread : parsePositive value = some (v : ℤ) := by
    rw [parsePositive_of_denotesDecimal hvalue, if_pos h.1, min_eq_right (by omega)]
  unfold setThreads
  rw [hread]
  dsimp only
  rw [if_neg (by omega), Int.toNat_natCast]

/-- A setting at the front is carried out. -/
theorem parseOptions_spells {setting : Setting} {words : List Bytes} (h : setting.Spells words)
    (rest : List Bytes) (options : Options) :
    parseOptions (words ++ rest) options = parseOptions rest (setting.store options) := by
  cases h with
  | flag f => exact parseOptions_flag (argumentOf_flag f) rest options
  | text o value => exact parseOptions_valued (argumentOf_text o) value rest options
  | time o hvalue h =>
      have hread := parsePositive_of_denotesDecimal hvalue
      rw [if_pos h, ← saturate_val _ h] at hread
      show parseOptions (o.name :: _ :: rest) options = _
      rw [parseOptions_valued (argumentOf_time o), hread]
      rfl
  | threads hvalue h =>
      show parseOptions (bytes "--threads" :: _ :: rest) options = _
      rw [parseOptions_valued argumentOf_threads, setThreads_of_denotesDecimal hvalue h]
      rfl

theorem Reads.parseOptions {words : List Bytes} {settings : List Setting}
    (h : Reads words settings) (rest : List Bytes) (options : Options) :
    parseOptions (words ++ rest) options =
      Main.parseOptions rest (applySettings settings options) := by
  induction h generalizing options with
  | nil => rfl
  | cons hspells hrest ih =>
      rw [List.append_assoc, parseOptions_spells hspells, ih]
      rfl

theorem parsePositive_eq_none {value : Bytes} (h : ∀ v, DenotesDecimal value v → v = 0) :
    parsePositive value = none := by
  rw [Option.eq_none_iff_forall_ne_some]
  intro s hs
  obtain ⟨v, hvalue, hpositive, -⟩ := parsePositive_eq_some_iff.mp hs
  have hzero := h v hvalue
  omega

theorem setThreads_eq_none {value : Bytes} (h : ∀ v, DenotesDecimal value v → v = 0 ∨ 1024 < v) :
    setThreads value = none := by
  have hmax : llongMax = 9223372036854775807 := rfl
  unfold setThreads
  cases hread : parsePositive value with
  | none => rfl
  | some s =>
      obtain ⟨v, hvalue, hpositive, rfl⟩ := parsePositive_eq_some_iff.mp hread
      have hlarge := h v hvalue
      exact if_pos (by omega)

theorem Refused.parseOptions {arguments : List Bytes} {exit : Exit} (h : Refused arguments exit)
    (options : Options) : parseOptions arguments options = .error exit := by
  cases h with
  | help rest h =>
      rcases h with rfl | rfl <;> rfl
  | unknown rest hhelp h =>
      have hunknown : argumentOf _ = .unknown := argumentOf_unknown hhelp h
      rw [Main.parseOptions, hunknown]
  | textMissing o => rw [Main.parseOptions, argumentOf_text]; rfl
  | timeMissing o => rw [Main.parseOptions, argumentOf_time]; rfl
  | time o rest h =>
      rw [parseOptions_valued (argumentOf_time o), parsePositive_eq_none h]
      rfl
  | threadsMissing => rfl
  | threads rest h =>
      rw [parseOptions_valued argumentOf_threads, setThreads_eq_none h]
      rfl

/-! ### The grammar -/

theorem Setting.Spells.words {setting : Setting} {words : List Bytes} (h : setting.Spells words) :
    ∃ values, words = setting.key.name :: values := by
  cases h with
  | flag f => exact ⟨[], rfl⟩
  | text o value => exact ⟨[value], rfl⟩
  | time o hvalue h => exact ⟨_, rfl⟩
  | threads hvalue h => exact ⟨_, rfl⟩

/-- A command line is empty, or it begins with a setting, or it is refused. -/
theorem begins (arguments : List Bytes) : arguments = [] ∨
    (∃ setting words rest, Setting.Spells setting words ∧ arguments = words ++ rest) ∨
    ∃ exit, Refused arguments exit := by
  cases arguments with
  | nil => exact .inl rfl
  | cons arg rest =>
      right
      generalize hargument : argumentOf arg = argument
      cases hargument ▸ argumentOf_classified arg with
      | help h => exact .inr ⟨_, .help rest h⟩
      | flag f => exact .inl ⟨.flag f, _, rest, .flag f, rfl⟩
      | text o =>
          cases rest with
          | nil => exact .inr ⟨_, .textMissing o⟩
          | cons value rest => exact .inl ⟨.text o value, _, rest, .text o value, rfl⟩
      | time o =>
          cases rest with
          | nil => exact .inr ⟨_, .timeMissing o⟩
          | cons value rest =>
              by_cases h : ∀ v, DenotesDecimal value v → v = 0
              · exact .inr ⟨_, .time o rest h⟩
              · push Not at h
                obtain ⟨v, hvalue, hne⟩ := h
                exact .inl ⟨_, _, rest, .time o hvalue (Nat.pos_of_ne_zero hne), rfl⟩
      | threads =>
          cases rest with
          | nil => exact .inr ⟨_, .threadsMissing⟩
          | cons value rest =>
              by_cases h : ∀ v, DenotesDecimal value v → v = 0 ∨ 1024 < v
              · exact .inr ⟨_, .threads rest h⟩
              · push Not at h
                obtain ⟨v, hvalue, hne, hle⟩ := h
                exact .inl ⟨_, _, rest, .threads hvalue ⟨Nat.pos_of_ne_zero hne, hle⟩, rfl⟩
      | unknown hhelp h => exact .inr ⟨_, .unknown rest hhelp h⟩

/-- Settings are read as long as there are any. -/
theorem reads_or_refused (arguments : List Bytes) : (∃ settings, Reads arguments settings) ∨
    ∃ words settings rest exit, arguments = words ++ rest ∧ Reads words settings ∧
      Refused rest exit := by
  obtain rfl | ⟨setting, words, rest, hspells, harguments⟩ | ⟨exit, hrefused⟩ := begins arguments
  · exact .inl ⟨[], .nil⟩
  · obtain ⟨values, hwords⟩ := hspells.words
    have hshorter : rest.length < arguments.length := by
      rw [harguments, hwords, List.length_append, List.length_cons]
      omega
    obtain ⟨settings, hreads⟩ | ⟨read, settings, left, exit, rfl, hreads, hrefused⟩ :=
      reads_or_refused rest
    · exact .inl ⟨setting :: settings, harguments ▸ .cons hspells hreads⟩
    · refine .inr ⟨words ++ read, setting :: settings, left, exit, ?_, .cons hspells hreads,
        hrefused⟩
      rw [harguments, List.append_assoc]
  · exact .inr ⟨[], [], arguments, exit, rfl, .nil, hrefused⟩
termination_by arguments.length

/-- A text denotes one number, as far as it is told from the largest. -/
theorem DenotesDecimal.saturated {value : Bytes} {v v' : ℕ} (h : DenotesDecimal value v)
    (h' : DenotesDecimal value v') (hpositive : 0 < v) (hpositive' : 0 < v') :
    min llongMax (v : ℤ) = min llongMax v' := by
  have hread := parsePositive_of_denotesDecimal h
  rw [parsePositive_of_denotesDecimal h', if_pos hpositive, if_pos hpositive'] at hread
  exact (Option.some.inj hread).symm

theorem Setting.Spells.unique {setting setting' : Setting} {words words' rest rest' : List Bytes}
    (h : setting.Spells words) (h' : setting'.Spells words')
    (hsame : words ++ rest = words' ++ rest') : setting = setting' ∧ rest = rest' := by
  have hkey : setting.key = setting'.key := by
    obtain ⟨values, hwords⟩ := h.words
    obtain ⟨values', hwords'⟩ := h'.words
    rw [hwords, hwords'] at hsame
    exact Key.name_injective (List.cons.inj hsame).1
  have hvalue {name value value' : Bytes} (h : [name, value] ++ rest = [name, value'] ++ rest') :
      value = value' ∧ rest = rest' := by
    simpa using h
  cases h with
  | flag f =>
      cases h' with
      | flag f' =>
          cases hkey
          exact ⟨rfl, (List.cons.inj hsame).2⟩
      | _ => cases hkey
  | text o value =>
      cases h' with
      | text o' value' =>
          cases hkey
          obtain ⟨rfl, hrest⟩ := hvalue hsame
          exact ⟨rfl, hrest⟩
      | _ => cases hkey
  | time o hdenotes h =>
      cases h' with
      | time o' hdenotes' h' =>
          cases hkey
          obtain ⟨rfl, hrest⟩ := hvalue hsame
          have hsaturated := hdenotes.saturated hdenotes' h h'
          rw [← saturate_val _ h, ← saturate_val _ h'] at hsaturated
          exact ⟨congrArg _ (Subtype.ext (Int.ofNat_inj.mp hsaturated)), hrest⟩
      | _ => cases hkey
  | @threads _ v hdenotes h =>
      cases h' with
      | @threads _ v' hdenotes' h' =>
          obtain ⟨rfl, hrest⟩ := hvalue hsame
          have hsaturated := hdenotes.saturated hdenotes' h.1 h'.1
          have hmax : llongMax = 9223372036854775807 := rfl
          have hcount : v = v' := by omega
          exact ⟨congrArg _ (Subtype.ext hcount), hrest⟩
      | _ => cases hkey

theorem Reads.unique {arguments : List Bytes} {settings settings' : List Setting}
    (h : Reads arguments settings) (h' : Reads arguments settings') : settings = settings' := by
  induction h generalizing settings' with
  | nil =>
      generalize hnil : [] = arguments at h'
      cases h' with
      | nil => rfl
      | cons hspells hrest =>
          obtain ⟨values, rfl⟩ := hspells.words
          cases hnil
  | @cons setting words rest settings hspells hrest ih =>
      generalize hsame : words ++ rest = arguments at h'
      cases h' with
      | nil =>
          obtain ⟨values, rfl⟩ := hspells.words
          cases hsame
      | cons hspells' hrest' =>
          obtain ⟨rfl, rfl⟩ := hspells.unique hspells' hsame
          rw [ih hrest']

/-- What `parse_options` accepts, with what result, and what it refuses, with what
message: the command lines that are lists of settings, and the others by the first
words that are no setting. No command line is a list of settings in two ways. -/
theorem parseOptions_reads (arguments : List Bytes) (options : Options) :
    (∀ options', parseOptions arguments options = .ok options' ↔
      ∃ settings, Reads arguments settings ∧ options' = applySettings settings options) ∧
    (∀ exit, parseOptions arguments options = .error exit ↔
      ∃ words settings rest, arguments = words ++ rest ∧ Reads words settings ∧
        Refused rest exit) ∧
    ∀ settings settings', Reads arguments settings → Reads arguments settings' →
      settings = settings' := by
  have haccepted {settings : List Setting} (h : Reads arguments settings) :
      parseOptions arguments options = .ok (applySettings settings options) := by
    have hread := h.parseOptions [] options
    rwa [List.append_nil] at hread
  have hrefused {words rest : List Bytes} {settings : List Setting} {exit : Exit}
      (harguments : arguments = words ++ rest) (h : Reads words settings)
      (hrest : Refused rest exit) : parseOptions arguments options = .error exit := by
    rw [harguments, h.parseOptions, hrest.parseOptions]
  refine ⟨fun options' => ⟨fun h => ?_, ?_⟩, fun exit => ⟨fun h => ?_, ?_⟩, fun _ _ => Reads.unique⟩
  · obtain ⟨settings, hreads⟩ | ⟨words, settings, rest, exit, harguments, hreads, hrest⟩ :=
      reads_or_refused arguments
    · exact ⟨settings, hreads, Except.ok.inj (h.symm.trans (haccepted hreads))⟩
    · cases h.symm.trans (hrefused harguments hreads hrest)
  · rintro ⟨settings, hreads, rfl⟩
    exact haccepted hreads
  · obtain ⟨settings, hreads⟩ | ⟨words, settings, rest, exit', harguments, hreads, hrest⟩ :=
      reads_or_refused arguments
    · cases h.symm.trans (haccepted hreads)
    · rw [Except.error.inj (h.symm.trans (hrefused harguments hreads hrest))]
      exact ⟨words, settings, rest, harguments, hreads, hrest⟩
  · rintro ⟨words, settings, rest, harguments, hreads, hrest⟩
    exact hrefused harguments hreads hrest

/-! ### The last setting counts -/

theorem overwrites_store :
    Overwrites Setting.key fun (options : Options) (setting : Setting) =>
      setting.store options where
  absorb options s t hkey := by
    cases s with
    | flag f => cases t <;> cases hkey; cases f <;> rfl
    | text o value => cases t <;> cases hkey; cases o <;> rfl
    | time o milliseconds => cases t <;> cases hkey; cases o <;> rfl
    | threads count => cases t <;> cases hkey; rfl
  comm options s t hkey := by
    -- Two settings write to different fields, or to the same one under the same key.
    cases s with
    | flag f =>
        cases t with
        | flag f' => cases f <;> cases f' <;> rfl
        | text o value => cases f <;> cases o <;> rfl
        | time o milliseconds => cases f <;> cases o <;> rfl
        | threads count => cases f <;> rfl
    | text o value =>
        cases t with
        | flag f => cases f <;> cases o <;> rfl
        | text o' value' => cases o <;> cases o' <;> first | rfl | exact absurd rfl hkey
        | time o' milliseconds => cases o <;> cases o' <;> rfl
        | threads count => cases o <;> rfl
    | time o milliseconds =>
        cases t with
        | flag f => cases f <;> cases o <;> rfl
        | text o' value => cases o <;> cases o' <;> rfl
        | time o' milliseconds' => cases o <;> cases o' <;> first | rfl | exact absurd rfl hkey
        | threads count => cases o <;> rfl
    | threads count =>
        cases t with
        | flag f => cases f <;> rfl
        | text o value => cases o <;> rfl
        | time o milliseconds => cases o <;> rfl
        | threads count' => exact absurd rfl hkey

/-- Command lines with the same last setting of each option give the same options,
whatever the order, the spelling and the settings that are overwritten. -/
theorem parseOptions_lastOf {arguments other : List Bytes} {settings settings' : List Setting}
    (h : Reads arguments settings) (h' : Reads other settings')
    (hlast : ∀ k, lastOf Setting.key k settings = lastOf Setting.key k settings')
    (options : Options) : parseOptions arguments options = parseOptions other options := by
  have hread := h.parseOptions [] options
  have hread' := h'.parseOptions [] options
  rw [List.append_nil] at hread hread'
  rw [hread, hread', applySettings, applySettings, overwrites_store.foldl_eq hlast]

theorem parseOptions_lastOf_sample :
    parseOptions ["--json", "--threads", "4", "--json", "--threads", "8"] {} =
      parseOptions ["--threads", "+08", "--json"] {} := by
  have h : Reads ["--json", "--threads", "4", "--json", "--threads", "8"] [.flag .json,
      .threads ⟨4, by decide⟩, .flag .json, .threads ⟨8, by decide⟩] :=
    .cons (.flag .json) (.cons (.threads (denotesDecimal_digits (by decide)
      (forall_mem_of_all (by decide))) _) (.cons (.flag .json) (.cons (.threads
        (denotesDecimal_digits (by decide) (forall_mem_of_all (by decide))) _) .nil)))
  have h' : Reads ["--threads", "+08", "--json"] [.threads ⟨8, by decide⟩, .flag .json] :=
    .cons (.threads ⟨[], bytes "+", bytes "08", by decide, (fun _ h => nomatch h), .inr rfl,
      by decide, forall_mem_of_all (by decide), by decide⟩ _) (.cons (.flag .json) .nil)
  refine parseOptions_lastOf h h' (fun k => ?_) {}
  cases k with
  | flag f => cases f <;> rfl
  | _ => rfl

/-! ### The options there are -/

def TimeoutOption.load : TimeoutOption → Options → ℤ
  | timeout, options => options.connectTimeout
  | bannerTimeout, options => options.bannerTimeout
  | authTimeout, options => options.authTimeout
  | commandTimeout, options => options.commandTimeout
  | layer2Window, options => options.layer2Window

def TextOption.load : TextOption → Options → Bytes
  | sshUser, options => options.sshUser
  | sshPassword, options => options.sshPassword
  | sshPasswordEnv, options => options.passwordEnv
  | interface, options => options.interfaceHint
  | select, options => options.selectCandidate
  | mockIfconfig, options => options.mockIfconfigFile

@[simp] theorem TimeoutOption.load_flag (o : TimeoutOption) (f : Flag) (options : Options) :
    o.load (f.store options) = o.load options := by
  cases o <;> cases f <;> rfl

@[simp] theorem TimeoutOption.load_text (o : TimeoutOption) (o' : TextOption) (value : Bytes)
    (options : Options) : o.load (o'.store value options) = o.load options := by
  cases o <;> cases o' <;> rfl

theorem TimeoutOption.load_store (o o' : TimeoutOption) (milliseconds : ℤ) (options : Options) :
    o.load (o'.store milliseconds options) = if o = o' then milliseconds else o.load options := by
  cases o <;> cases o' <;> rfl

@[simp] theorem TextOption.load_flag (o : TextOption) (f : Flag) (options : Options) :
    o.load (f.store options) = o.load options := by
  cases o <;> cases f <;> rfl

@[simp] theorem TextOption.load_time (o : TextOption) (o' : TimeoutOption) (milliseconds : ℤ)
    (options : Options) : o.load (o'.store milliseconds options) = o.load options := by
  cases o <;> cases o' <;> rfl

theorem TextOption.load_store (o o' : TextOption) (value : Bytes) (options : Options) :
    o.load (o'.store value options) = if o = o' then value else o.load options := by
  cases o <;> cases o' <;> rfl

/-- An argument ends at its first NUL. -/
def Setting.NulFree : Setting → Prop
  | text _ value => 0 ∉ value
  | _ => True

/-- What holds of all options that a command line gives. -/
structure Options.Valid (options : Options) : Prop where
  texts : ∀ o : TextOption, 0 ∉ o.load options
  threads : 0 < options.threads ∧ options.threads ≤ 1024
  times : ∀ o : TimeoutOption, 0 < o.load options ∧ o.load options ≤ llongMax
  password : options.passwordFromCli = false → options.sshPassword = []

theorem Options.Valid.default : ({} : Options).Valid where
  texts o := by cases o <;> decide
  threads := by decide
  times o := by cases o <;> decide
  password _ := rfl

/-- A setting keeps the options valid. -/
theorem Options.Valid.store {options : Options} (h : options.Valid) {setting : Setting}
    (hsetting : setting.NulFree) : (setting.store options).Valid := by
  cases setting with
  | flag f =>
      have htexts (o : TextOption) : 0 ∉ o.load (f.store options) := by
        rw [TextOption.load_flag]
        exact h.texts o
      have htimes (o : TimeoutOption) : 0 < o.load (f.store options) ∧
          o.load (f.store options) ≤ llongMax := by
        rw [TimeoutOption.load_flag]
        exact h.times o
      cases f <;> exact ⟨htexts, h.threads, htimes, h.password⟩
  | text o value =>
      have htexts (o' : TextOption) : 0 ∉ o'.load (o.store value options) := by
        rw [TextOption.load_store]
        split
        · exact hsetting
        · exact h.texts o'
      have htimes (o' : TimeoutOption) : 0 < o'.load (o.store value options) ∧
          o'.load (o.store value options) ≤ llongMax := by
        rw [TimeoutOption.load_text]
        exact h.times o'
      cases o with
      | sshPassword => exact ⟨htexts, h.threads, htimes, fun hcli => nomatch hcli⟩
      | _ => exact ⟨htexts, h.threads, htimes, h.password⟩
  | time o milliseconds =>
      have htexts (o' : TextOption) : 0 ∉ o'.load (o.store milliseconds.1 options) := by
        rw [TextOption.load_time]
        exact h.texts o'
      have htimes (o' : TimeoutOption) : 0 < o'.load (o.store milliseconds.1 options) ∧
          o'.load (o.store milliseconds.1 options) ≤ llongMax := by
        rw [TimeoutOption.load_store]
        split
        · exact ⟨Int.natCast_pos.mpr milliseconds.2.1, milliseconds.2.2⟩
        · exact h.times o'
      cases o <;> exact ⟨htexts, h.threads, htimes, h.password⟩
  | threads count =>
      have htexts (o : TextOption) : o.load { options with threads := count.1 } =
          o.load options := by
        cases o <;> rfl
      have htimes (o : TimeoutOption) : o.load { options with threads := count.1 } =
          o.load options := by
        cases o <;> rfl
      exact ⟨fun o => htexts o ▸ h.texts o, count.2, fun o => htimes o ▸ h.times o, h.password⟩

theorem Options.Valid.applySettings {options : Options} (h : options.Valid)
    {settings : List Setting} (hsettings : ∀ setting ∈ settings, setting.NulFree) :
    (applySettings settings options).Valid := by
  induction settings generalizing options with
  | nil => exact h
  | cons setting rest ih =>
      rw [List.forall_mem_cons] at hsettings
      exact ih (h.store hsettings.1) hsettings.2

/-- The texts of the settings are arguments. -/
theorem Reads.nulFree {arguments : List Bytes} {settings : List Setting}
    (h : Reads arguments settings) (harguments : ∀ argument ∈ arguments, 0 ∉ argument) :
    ∀ setting ∈ settings, setting.NulFree := by
  induction h with
  | nil => exact fun _ hmem => nomatch hmem
  | cons hspells _ ih =>
      rw [List.forall_mem_append] at harguments
      refine List.forall_mem_cons.mpr ⟨?_, ih harguments.2⟩
      cases hspells with
      | text o value => exact harguments.1 value (by simp)
      | _ => trivial

namespace Setting

/-- A setting as one writes it. -/
def render : Setting → List Bytes
  | flag f => [f.name]
  | text o value => [o.name, value]
  | time o milliseconds => [o.name, decimal milliseconds.1]
  | threads count => [bytes "--threads", decimal count.1]

theorem denotesDecimal_decimal (n : ℕ) : DenotesDecimal (decimal n) n := by
  have h := denotesDecimal_digits (decimal_ne_nil n) fun c => isDigit_of_mem_decimal
  rwa [decimalValue_decimal] at h

theorem spells_render (setting : Setting) : setting.Spells setting.render := by
  cases setting with
  | flag f => exact .flag f
  | text o value => exact .text o value
  | time o milliseconds =>
      have hspells := Spells.time o (denotesDecimal_decimal milliseconds.1) milliseconds.2.1
      have hsame : saturate milliseconds.1 milliseconds.2.1 = milliseconds := by
        have hmax : llongMax = 9223372036854775807 := rfl
        have hle := milliseconds.2.2
        exact Subtype.ext (show min 9223372036854775807 milliseconds.1 = milliseconds.1 by omega)
      rwa [hsame] at hspells
  | threads count => exact .threads (denotesDecimal_decimal count.1) count.2

/-- No word of a setting has a NUL unless its text has. -/
theorem nulFree_render {setting : Setting} (h : setting.NulFree) :
    ∀ word ∈ setting.render, 0 ∉ word := by
  have hdecimal (n : ℕ) : 0 ∉ decimal n := by
    intro hmem
    exact absurd (isDigit_of_mem_decimal hmem) (by decide)
  have hname (o : TimeoutOption) : 0 ∉ o.name := by cases o <;> decide
  have hthreads : 0 ∉ bytes "--threads" := by decide
  cases setting with
  | flag f => cases f <;> simp only [render, List.forall_mem_singleton] <;> decide
  | text o value =>
      have hname : 0 ∉ o.name := by cases o <;> decide
      have hvalue : 0 ∉ value := h
      simpa [render] using And.intro hname hvalue
  | time o milliseconds => simpa [render] using And.intro (hname o) (hdecimal milliseconds.1)
  | threads count => simpa [render] using And.intro hthreads (hdecimal count.1)

end Setting

theorem reads_render (settings : List Setting) :
    Reads (settings.flatMap Setting.render) settings := by
  induction settings with
  | nil => exact .nil
  | cons setting rest ih => exact .cons setting.spells_render ih

/-- The settings of valid options, one for each field that some option writes. -/
def Options.settings (options : Options) (h : options.Valid) : List Setting :=
  let flags := (if options.json then [Flag.json] else []) ++
    (if options.verbose then [Flag.verbose] else []) ++
    (if options.strictHostKey then [Flag.strictHostKey] else [])
  let password := if options.passwordFromCli then [(TextOption.sshPassword, options.sshPassword)]
    else []
  let texts := [(.sshUser, options.sshUser), (.sshPasswordEnv, options.passwordEnv),
    (.interface, options.interfaceHint), (.select, options.selectCandidate),
    (.mockIfconfig, options.mockIfconfigFile)] ++ password
  let times := [TimeoutOption.timeout, .bannerTimeout, .authTimeout, .commandTimeout, .layer2Window]
  flags.map .flag ++ texts.map (fun pair => .text pair.1 pair.2) ++
    times.map (fun o => .time o ⟨(o.load options).toNat, by
      have hbounds := h.times o
      omega⟩) ++ [.threads ⟨options.threads, h.threads⟩]

theorem applySettings_settings (options : Options) (h : options.Valid) :
    applySettings (options.settings h) {} = options := by
  have htime (o : TimeoutOption) : ((o.load options).toNat : ℤ) = o.load options :=
    Int.toNat_of_nonneg (h.times o).1.le
  have hpassword := h.password
  unfold Options.settings applySettings
  dsimp only
  simp only [List.map_cons, List.map_nil, List.map_append, List.foldl_append, List.foldl_cons,
    List.foldl_nil, Setting.store, htime]
  obtain ⟨threads, sshUser, passwordEnv, sshPassword, passwordFromCli, json, verbose,
    strictHostKey, connectTimeout, bannerTimeout, authTimeout, commandTimeout, layer2Window,
    interfaceHint, selectCandidate, mockIfconfigFile⟩ := options
  cases passwordFromCli with
  | false =>
      obtain rfl : sshPassword = [] := hpassword rfl
      cases json <;> cases verbose <;> cases strictHostKey <;> rfl
  | true => cases json <;> cases verbose <;> cases strictHostKey <;> rfl

theorem nulFree_settings (options : Options) (h : options.Valid) :
    ∀ setting ∈ options.settings h, setting.NulFree := by
  intro setting hmem
  simp only [Options.settings, List.mem_append, List.mem_singleton] at hmem
  obtain ((hflag | htext) | htime) | rfl := hmem
  · obtain ⟨f, -, rfl⟩ := List.mem_map.mp hflag
    trivial
  · obtain ⟨pair, hpair, rfl⟩ := List.mem_map.mp htext
    have hvalue : pair.2 = pair.1.load options := by
      rcases List.mem_append.mp hpair with htexts | hpassword
      · simp only [List.mem_cons, List.not_mem_nil, or_false] at htexts
        rcases htexts with rfl | rfl | rfl | rfl | rfl <;> rfl
      · split at hpassword
        · rw [List.mem_singleton.mp hpassword]
          rfl
        · cases hpassword
    show 0 ∉ pair.2
    rw [hvalue]
    exact h.texts pair.1
  · obtain ⟨o, -, rfl⟩ := List.mem_map.mp htime
    trivial
  · trivial

/-- The options that a command line can give are the valid ones. -/
theorem reachable_iff_valid (options : Options) :
    (∃ arguments, (∀ argument ∈ arguments, 0 ∉ argument) ∧
      parseOptions arguments {} = .ok options) ↔ options.Valid := by
  constructor
  · rintro ⟨arguments, hnul, h⟩
    obtain ⟨settings, hreads⟩ | ⟨words, settings, rest, exit, rfl, hreads, hrest⟩ :=
      reads_or_refused arguments
    · have hsettings := hreads.nulFree hnul
      rw [← List.append_nil arguments, hreads.parseOptions] at h
      exact Except.ok.inj h ▸ Options.Valid.default.applySettings hsettings
    · rw [hreads.parseOptions, hrest.parseOptions] at h
      cases h
  · intro h
    refine ⟨(options.settings h).flatMap Setting.render, ?_, ?_⟩
    · intro argument hargument
      obtain ⟨setting, hsetting, hword⟩ := List.mem_flatMap.mp hargument
      exact Setting.nulFree_render (nulFree_settings options h setting hsetting) argument hword
    · rw [← List.append_nil (List.flatMap _ _), (reads_render _).parseOptions,
        applySettings_settings]
      rfl

end DeviceDiscovery.Main
