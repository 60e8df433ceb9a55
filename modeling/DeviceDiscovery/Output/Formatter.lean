import DeviceDiscovery.Parser.IfconfigParser

/-!
The two reports (`output/formatter.cpp`).
-/

namespace DeviceDiscovery.Output

open Foundation DeviceDiscovery.Parser

structure DiscoveryReport where
  interfaceName : Bytes := []
  sshIp : Bytes := []
  sshBanner : Bytes := []
  hostKeyStatus : Bytes := []
  discoveryStage : Bytes := []
  interfaces : List RemoteInterface := []
  warnings : List Bytes := []
  deriving DecidableEq, Repr

/-- `std::hex << std::setw(4) << std::setfill('0')`. -/
def hexField (n : ℕ) : Bytes := List.leftpad 4 ('0' : UInt8) ((Nat.toDigits 16 n).map Char.toUInt8)

def escapeByte (c : UInt8) : Bytes :=
  if c = '"' then "\\\""
  else if c = '\\' then "\\\\"
  else if c = '\n' then "\\n"
  else if c = '\r' then "\\r"
  else if c = '\t' then "\\t"
  else if c < 0x20 then bytes "\\u" ++ hexField c.toNat
  else [c]

def jsonEscape (value : Bytes) : Bytes := value.flatMap escapeByte

/-! ### Text -/

/-- The line of one interface; the names are left-aligned in a column of
`width`. -/
def textLine (width : ℕ) (iface : RemoteInterface) : Bytes :=
  bytes "  " ++ List.rightpad (width + 2) (' ' : UInt8) iface.name ++ iface.ipv4 ++ bytes "\n"

/-- The column that holds every name. -/
def nameWidth (interfaces : List RemoteInterface) : ℕ :=
  interfaces.foldl (fun width iface => max width iface.name.length) 4

/-- What precedes the list of interfaces. -/
def textHeader (report : DiscoveryReport) : Bytes :=
  if report.sshIp = [] then "Network interfaces:\n"
  else
    let stage : Bytes := if report.discoveryStage = [] then []
      else bytes " (" ++ report.discoveryStage ++ bytes ")"
    let via : Bytes := if report.interfaceName = [] then []
      else bytes "  Via:      " ++ report.interfaceName ++ stage ++ bytes "\n"
    let hostKey : Bytes := if report.hostKeyStatus = [] then []
      else bytes "  Host key: " ++ report.hostKeyStatus ++ bytes "\n"
    bytes "Directly connected device discovered\n\n" ++
      bytes "SSH endpoint:\n" ++
      bytes "  IP:       " ++ report.sshIp ++ bytes "\n" ++
      bytes "  Banner:   " ++ report.sshBanner ++ bytes "\n" ++
      via ++ hostKey ++ bytes "\nNetwork interfaces:\n"

def formatText (report : DiscoveryReport) : Bytes :=
  let interfaces : Bytes := if report.interfaces = [] then "  (none found)\n"
    else report.interfaces.flatMap (textLine (nameWidth report.interfaces))
  let warnings : Bytes := if report.warnings = [] then []
    else bytes "\n" ++ report.warnings.flatMap fun warning =>
      bytes "WARNING: " ++ warning ++ bytes "\n"
  textHeader report ++ interfaces ++ warnings

/-! ### JSON -/

/-- A string member of the object. -/
def jsonMember (key : Bytes) (value : Bytes) : Bytes :=
  bytes "  \"" ++ key ++ bytes "\": \"" ++ jsonEscape value ++ bytes "\",\n"

/-- A list, each item on lines of its own. -/
def jsonArray (items : List Bytes) : Bytes :=
  if items = [] then "[]"
  else bytes "[\n" ++ (bytes ",\n").intercalate items ++ bytes "\n  ]"

def jsonInterface (iface : RemoteInterface) : Bytes :=
  bytes "    \x7b\n" ++
    bytes "      \"name\": \"" ++ jsonEscape iface.name ++ bytes "\",\n" ++
    bytes "      \"ipv4\": \"" ++ jsonEscape iface.ipv4 ++ bytes "\"\n" ++
    bytes "    \x7d"

def jsonWarning (warning : Bytes) : Bytes :=
  bytes "    \"" ++ jsonEscape warning ++ bytes "\""

def formatJson (report : DiscoveryReport) : Bytes :=
  bytes "\x7b\n" ++
    jsonMember "ssh_ip" report.sshIp ++
    jsonMember "ssh_banner" report.sshBanner ++
    jsonMember "local_interface" report.interfaceName ++
    jsonMember "discovery_stage" report.discoveryStage ++
    jsonMember "host_key_status" report.hostKeyStatus ++
    bytes "  \"interfaces\": " ++ jsonArray (report.interfaces.map jsonInterface) ++ bytes ",\n" ++
    bytes "  \"warnings\": " ++ jsonArray (report.warnings.map jsonWarning) ++ bytes "\n" ++
    bytes "\x7d\n"

end DeviceDiscovery.Output
