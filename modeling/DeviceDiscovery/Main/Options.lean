import DeviceDiscovery.Foundation.Bytes
import Mathlib.Algebra.Group.Int.Defs
import Mathlib.Order.Lattice

/-!
The command line (`main.cpp`, `config.hpp`).

The arguments are those after the program's name. An option is a row of one of
three tables, by what it takes: nothing, a text, or a positive number of
milliseconds. `--threads` and the help options are treated apart.
-/

namespace DeviceDiscovery.Main

open Foundation

/-! ### Defaults and exit codes -/

def kThreadCount : ℕ := 32
def kSshPort : UInt16 := 22
/-- Times are in milliseconds. -/
def kTcpConnectTimeout : ℤ := 750
def kSshBannerTimeout : ℤ := 1000
def kSshAuthTimeout : ℤ := 5000
def kSshCommandTimeout : ℤ := 5000
def kLayer2ListenWindow : ℤ := 4000
def kMinimumScanPrefix : ℕ := 22
def kSshUser : Bytes := "root"
def kPasswordEnvVar : Bytes := "DEVICE_SSH_PASSWORD"

inductive ExitCode where
  | success
  | usageError
  | noInterface
  | multipleInterfaces
  | noDevice
  | multipleDevices
  | sshConnectionFailed
  | sshAuthFailed
  | remoteCommandFailed
  | parseFailed
  | unexpectedInterfaceCount
  deriving DecidableEq, Repr

def ExitCode.value : ExitCode → ℕ
  | .success => 0
  | .usageError => 2
  | .noInterface => 3
  | .multipleInterfaces => 4
  | .noDevice => 5
  | .multipleDevices => 6
  | .sshConnectionFailed => 7
  | .sshAuthFailed => 8
  | .remoteCommandFailed => 9
  | .parseFailed => 10
  | .unexpectedInterfaceCount => 11

structure Options where
  threads : ℕ := kThreadCount
  sshUser : Bytes := kSshUser
  passwordEnv : Bytes := kPasswordEnvVar
  sshPassword : Bytes := []
  passwordFromCli : Bool := false
  json : Bool := false
  verbose : Bool := false
  strictHostKey : Bool := false
  connectTimeout : ℤ := kTcpConnectTimeout
  bannerTimeout : ℤ := kSshBannerTimeout
  authTimeout : ℤ := kSshAuthTimeout
  commandTimeout : ℤ := kSshCommandTimeout
  layer2Window : ℤ := kLayer2ListenWindow
  interfaceHint : Bytes := []
  selectCandidate : Bytes := []
  mockIfconfigFile : Bytes := []
  deriving DecidableEq, Repr

def usageLines : List String := [
  "Usage: device-discovery [options]",
  "",
  "Discovers the Linux device directly connected to this PC, authenticates",
  "over SSH and reports the IPv4 addresses of its network interfaces.",
  "Neither a subnet nor a target IP has to be supplied.",
  "",
  "Options:",
  "  --threads N              Worker threads for probing (default 32)",
  "  --ssh-user USER          SSH username (default root)",
  "  --ssh-password PASS      SSH password (visible in the process list;",
  "                           prefer --ssh-password-env)",
  "  --ssh-password-env VAR   Environment variable holding the password",
  "                           (default DEVICE_SSH_PASSWORD, used when",
  "                           --ssh-password is not given)",
  "  --json                   Machine readable output",
  "  --verbose                Diagnostic output on stderr",
  "  --timeout MS             TCP connect timeout (default 750)",
  "  --banner-timeout MS      SSH banner read timeout (default 1000)",
  "  --auth-timeout MS        SSH authentication timeout (default 5000)",
  "  --command-timeout MS     Remote command timeout (default 5000)",
  "  --layer2-window MS       Layer-2 listening window (default 4000)",
  "  --interface NAME         Disambiguate between candidate adapters",
  "                           (Windows adapter name, e.g. \"Ethernet 2\")",
  "  --select IP              Pick a candidate when several SSH devices answer",
  "  --strict-host-key        Abort on unknown/mismatching SSH host keys",
  "  --mock-ifconfig FILE     Offline mode: parse FILE as ifconfig output",
  "  -h, --help               Show this help"]

def printUsage : Bytes := usageLines.flatMap fun line => bytes line ++ bytes "\n"

/-! ### Numbers -/

def llongMin : ℤ := -2 ^ 63
def llongMax : ℤ := 2 ^ 63 - 1

/-- `std::strtoll` in base ten: the value, and the text from where the
conversion stopped, which is all of it when there is no number. -/
def strtoll (text : Bytes) : ℤ × Bytes :=
  let start := text.dropWhile isSpace
  let negative : Bool := start.head? = some ('-' : UInt8)
  let digits := if negative ∨ start.head? = some ('+' : UInt8) then start.tail else start
  let number := digits.takeWhile isDigit
  if number = [] then (0, text)
  else
    let value : ℤ := if negative then -decimalValue number else decimalValue number
    (max llongMin (min llongMax value), digits.dropWhile isDigit)

def parsePositive (text : Bytes) : Option ℤ :=
  let parsed := strtoll text
  if parsed.2 = text ∨ parsed.2 ≠ [] ∨ parsed.1 ≤ 0 then none else some parsed.1

/-! ### The options -/

/-- What an argument asks for. An option with a value has the setter that its
value selects, and the message for a value that is missing or refused. -/
inductive Argument where
  | help
  | flag (set : Options → Options)
  | valued (error : Bytes) (set : Bytes → Option (Options → Options))
  | unknown

/-- `next_value`. -/
def nextValue (arg : Bytes) (set : Bytes → Options → Options) : Argument :=
  .valued (bytes "Error: " ++ arg ++ bytes " requires a value\n") fun value => some (set value)

/-- `next_ms`. -/
def nextMs (arg : Bytes) (set : ℤ → Options → Options) : Argument :=
  .valued (bytes "Error: " ++ arg ++ bytes " requires a positive millisecond value\n")
    fun text => (parsePositive text).map set

def setThreads (text : Bytes) : Option (Options → Options) :=
  match parsePositive text with
  | none => none
  | some value =>
      if value > 1024 then none else some fun options => { options with threads := value.toNat }

/-- The branches of the loop of `parse_options`. -/
def argumentOf (arg : Bytes) : Argument :=
  if arg = bytes "-h" ∨ arg = bytes "--help" then .help
  else if arg = bytes "--json" then .flag fun options => { options with json := true }
  else if arg = bytes "--verbose" then .flag fun options => { options with verbose := true }
  else if arg = bytes "--strict-host-key" then
    .flag fun options => { options with strictHostKey := true }
  else if arg = bytes "--threads" then
    .valued "Error: --threads requires a value between 1 and 1024\n" setThreads
  else if arg = bytes "--ssh-user" then
    nextValue arg fun value options => { options with sshUser := value }
  else if arg = bytes "--ssh-password" then
    nextValue arg fun value options =>
      { options with sshPassword := value, passwordFromCli := true }
  else if arg = bytes "--ssh-password-env" then
    nextValue arg fun value options => { options with passwordEnv := value }
  else if arg = bytes "--interface" then
    nextValue arg fun value options => { options with interfaceHint := value }
  else if arg = bytes "--select" then
    nextValue arg fun value options => { options with selectCandidate := value }
  else if arg = bytes "--mock-ifconfig" then
    nextValue arg fun value options => { options with mockIfconfigFile := value }
  else if arg = bytes "--timeout" then
    nextMs arg fun value options => { options with connectTimeout := value }
  else if arg = bytes "--banner-timeout" then
    nextMs arg fun value options => { options with bannerTimeout := value }
  else if arg = bytes "--auth-timeout" then
    nextMs arg fun value options => { options with authTimeout := value }
  else if arg = bytes "--command-timeout" then
    nextMs arg fun value options => { options with commandTimeout := value }
  else if arg = bytes "--layer2-window" then
    nextMs arg fun value options => { options with layer2Window := value }
  else .unknown

/-- What the program prints and returns when it ends with its options. -/
structure Exit where
  stdout : Bytes := []
  stderr : Bytes := []
  exitCode : ExitCode
  deriving DecidableEq, Repr

def parseOptions : List Bytes → Options → Except Exit Options
  | [], options => .ok options
  | arg :: rest, options =>
      match argumentOf arg with
      | .help => .error { stdout := printUsage, exitCode := .success }
      | .flag set => parseOptions rest (set options)
      | .valued error set =>
          match rest with
          | [] => .error { stderr := error, exitCode := .usageError }
          | value :: rest =>
              match set value with
              | none => .error { stderr := error, exitCode := .usageError }
              | some set => parseOptions rest (set options)
      | .unknown => .error {
          stdout := printUsage
          stderr := bytes "Error: unknown argument '" ++ arg ++ bytes "'\n"
          exitCode := .usageError }

theorem parseOptions_flag {arg : Bytes} {set : Options → Options} (h : argumentOf arg = .flag set)
    (rest : List Bytes) (options : Options) :
    parseOptions (arg :: rest) options = parseOptions rest (set options) := by
  rw [parseOptions, h]

theorem parseOptions_valued {arg error : Bytes} {set : Bytes → Option (Options → Options)}
    (h : argumentOf arg = .valued error set) (value : Bytes) (rest : List Bytes)
    (options : Options) :
    parseOptions (arg :: value :: rest) options =
      match set value with
      | none => .error { stderr := error, exitCode := .usageError }
      | some set => parseOptions rest (set options) := by
  rw [parseOptions, h]

end DeviceDiscovery.Main
