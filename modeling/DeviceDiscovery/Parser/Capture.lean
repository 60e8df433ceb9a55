import DeviceDiscovery.Parser.IfconfigParser

/-!
Captures: the device state as the three tools print it.

A device is a list of interfaces with their IPv4 addresses. A capture is one
tool's printout of it, line by line, with the parts the parsers do not look at
left free: what stands after an address, the flags, the statistics. The free
parts are structures that carry what a tool's output promises about them, so a
capture cannot be built whose free text would be read as an address.

`ifconfig` prints the net-tools and the legacy/BusyBox format from the same
lines, so one block type serves both and `Format` chooses the spelling.
-/

namespace DeviceDiscovery.Parser

open Foundation DeviceDiscovery.Platform

/-! ### The device -/

/-- An interface name: not empty, and free of white space, `:`, `@` and `/`. -/
structure InterfaceName where
  text : Bytes
  nonempty : text ≠ []
  plain : ∀ c ∈ text, isSpace c = false ∧ c ≠ ':' ∧ c ≠ '@' ∧ c ≠ '/'

structure Interface where
  name : InterfaceName
  addresses : List Address

abbrev Device := List Interface

def Interface.reports (i : Interface) : List RemoteInterface :=
  i.addresses.map fun a => ⟨i.name.text, inetNtop a⟩

/-- What a parser should return for a device: the (name, address) pairs of the
interfaces that are not loopback devices, in device order, each pair once. -/
def Device.expected (d : Device) : List RemoteInterface :=
  ((d.filter fun i => !isLoopbackInterfaceName i.name.text).flatMap Interface.reports).eraseDups

/-- Nothing is lost, and nothing is attributed to another interface. -/
theorem Device.mem_expected {d : Device} {r : RemoteInterface} :
    r ∈ d.expected ↔ ∃ i ∈ d, isLoopbackInterfaceName i.name.text = false ∧
      ∃ a ∈ i.addresses, r = ⟨i.name.text, inetNtop a⟩ := by
  simp only [Device.expected, List.mem_eraseDups, List.mem_flatMap, List.mem_filter,
    Bool.not_eq_true', Interface.reports, List.mem_map, and_assoc, eq_comm (b := r)]

theorem Device.nodup_expected (d : Device) : d.expected.Nodup := nodup_eraseDups _

/-! ### Free text -/

/-- A token that decides nothing in `extract_inet_address`. -/
def IsQuiet (token : Bytes) : Prop := token ≠ bytes "inet" ∧ hasAddrPrefix token = false

instance : DecidablePred IsQuiet := fun token =>
  inferInstanceAs (Decidable (token ≠ bytes "inet" ∧ hasAddrPrefix token = false))

/-- The rest of a line after a token: nothing, or white space and more. -/
structure Tail where
  text : Bytes
  cut : text.head?.all isSpace = true
  oneLine : ('\n' : UInt8) ∉ text

/-- The rest of a line that names no address. -/
structure QuietTail extends Tail where
  quiet : ∀ token ∈ tokens text, IsQuiet token

/-- The blanks a line is indented by. -/
structure Indent where
  text : Bytes
  nonempty : text ≠ []
  blank : ∀ c ∈ text, c = ' ' ∨ c = '\t'

/-- Text without white space, possibly empty, such as the value of a flag. -/
structure Value where
  text : Bytes
  plain : ∀ c ∈ text, isSpace c = false

/-! ### The formats of `ifconfig` -/

inductive Format | netTools | legacy
  deriving DecidableEq, Repr

/-- The first word of a detail line that carries no IPv4 address. -/
inductive Keyword | inet6 | ether | rx | tx | up
  deriving DecidableEq, Repr

def Keyword.text : Keyword → Bytes
  | .inet6 => "inet6"
  | .ether => "ether"
  | .rx => "RX"
  | .tx => "TX"
  | .up => "UP"

inductive DetailLine
  | inet (indent : Indent) (address : Address) (tail : Tail)
  | other (indent : Indent) (keyword : Keyword) (tail : QuietTail)

def DetailLine.address? : DetailLine → Option Address
  | .inet _ address _ => some address
  | .other _ _ _ => none

/-- One block of `ifconfig` output. `flags` and `details` are what the header
says after `flags=` or `Link encap:`, and `gap` is what the legacy format pads
the name with. -/
structure IfconfigBlock where
  name : InterfaceName
  gap : Indent
  flags : Value
  details : QuietTail
  lines : List DetailLine
  blankLines : ℕ

/-- `NAME: flags=4163<UP>  mtu 1500` or `NAME     Link encap:Ethernet  HWaddr …`. -/
def IfconfigBlock.header (b : IfconfigBlock) : Format → Bytes
  | .netTools => b.name.text ++ ":" ++ " " ++ ("flags=" ++ b.flags.text) ++ b.details.text
  | .legacy =>
      b.name.text ++ b.gap.text ++ "Link" ++ " " ++ ("encap:" ++ b.flags.text) ++ b.details.text

/-- `inet A  netmask …`, `inet addr:A  Bcast:…`, `inet6 addr: …` and the others. -/
def DetailLine.text : Format → DetailLine → Bytes
  | .netTools, .inet indent a tail => indent.text ++ "inet" ++ " " ++ inetNtop a ++ tail.text
  | .legacy, .inet indent a tail =>
      indent.text ++ "inet" ++ " " ++ ("addr:" ++ inetNtop a) ++ tail.text
  | .legacy, .other indent .inet6 tail => indent.text ++ "inet6" ++ " " ++ "addr:" ++ tail.text
  | _, .other indent keyword tail => indent.text ++ keyword.text ++ tail.text

def IfconfigBlock.text (f : Format) (b : IfconfigBlock) : List Bytes :=
  b.header f :: b.lines.map (DetailLine.text f) ++ List.replicate b.blankLines []

def IfconfigBlock.interface (b : IfconfigBlock) : Interface :=
  ⟨b.name, b.lines.filterMap DetailLine.address?⟩

/-- The whole output of `ifconfig`. -/
def renderIfconfig (f : Format) (blocks : List IfconfigBlock) : Bytes :=
  unlines ('\n' : UInt8) (blocks.flatMap (IfconfigBlock.text f))

def ifconfigDevice (blocks : List IfconfigBlock) : Device := blocks.map IfconfigBlock.interface

/-! ### The format of `ip -4 addr` -/

inductive IpAddrLine
  | inet (indent : Indent) (address : Address) (prefixLength : ℕ) (tail : Tail)
  | validLft (indent : Indent) (tail : QuietTail)

def IpAddrLine.address? : IpAddrLine → Option Address
  | .inet _ address _ _ => some address
  | .validLft _ _ => none

/-- One block of `ip -4 addr` output. `peer` is the `K` of `NAME@ifK`. -/
structure IpAddrBlock where
  index : ℕ
  name : InterfaceName
  peer : Option ℕ
  flags : Bytes
  oneLine : ('\n' : UInt8) ∉ flags
  lines : List IpAddrLine
  blankLines : ℕ

def IpAddrBlock.peerText (b : IpAddrBlock) : Bytes :=
  match b.peer with
  | none => []
  | some k => "@if" ++ decimal k

/-- `N: NAME: <…>` or `N: NAME@ifK: <…>`. -/
def IpAddrBlock.header (b : IpAddrBlock) : Bytes :=
  (decimal b.index ++ ":") ++ " " ++ (b.name.text ++ b.peerText ++ ":") ++ " <" ++ b.flags

/-- `inet A/P …` or `valid_lft …`. -/
def IpAddrLine.text : IpAddrLine → Bytes
  | .inet indent a p tail =>
      indent.text ++ "inet" ++ " " ++ (inetNtop a ++ "/" ++ decimal p) ++ tail.text
  | .validLft indent tail => indent.text ++ "valid_lft" ++ tail.text

def IpAddrBlock.text (b : IpAddrBlock) : List Bytes :=
  b.header :: b.lines.map IpAddrLine.text ++ List.replicate b.blankLines []

def IpAddrBlock.interface (b : IpAddrBlock) : Interface :=
  ⟨b.name, b.lines.filterMap IpAddrLine.address?⟩

/-- The whole output of `ip -4 addr`. -/
def renderIpAddr (blocks : List IpAddrBlock) : Bytes :=
  unlines ('\n' : UInt8) (blocks.flatMap IpAddrBlock.text)

def ipAddrDevice (blocks : List IpAddrBlock) : Device := blocks.map IpAddrBlock.interface

end DeviceDiscovery.Parser
