import Mathlib.Data.Int.Notation
import Mathlib.Data.List.DropRight
import DeviceDiscovery.Foundation.Bytes
import DeviceDiscovery.Foundation.Ledger

/-!
Winsock handles and calls (`platform/windows_sockets.cpp`).

A function of the program that talks to the operating system is modelled by a
function of the answers it gets. It returns what the source function returns
and, where the order of the calls matters, the calls it made.
-/

namespace DeviceDiscovery.Platform

open Foundation

abbrev Socket := UInt64

def kInvalidSocket : Socket := 0xFFFFFFFFFFFFFFFF

/-- The calls that take a handle and leave it open. A poll is recorded with the
timeout that `WSAPoll` gets. -/
inductive SocketCall where
  | ioctlsocket
  | wsaIoctl
  | bind
  | connect
  | poll (forWrite : Bool) (milliseconds : ℤ)
  | getsockopt
  | recv
  deriving DecidableEq, Repr

inductive SocketEvent where
  | socket (handle : Socket)
  | call (handle : Socket) (function : SocketCall)
  | closesocket (handle : Socket)
  deriving DecidableEq, Repr

def SocketEvent.ledger : SocketEvent → Ledger.Event Socket
  | .socket handle => .acquire handle none
  | .call handle _ => .use handle
  | .closesocket handle => .release handle

/-- `close_socket`, which also resets the handle it is given. -/
def closeSocket (handle : Socket) : List SocketEvent :=
  if handle ≠ kInvalidSocket then [.closesocket handle] else []

/-- The conversion of a count of milliseconds to the 32-bit `INT` of `WSAPoll`. -/
def toInt32 (v : ℤ) : ℤ := (BitVec.ofInt 32 v).toInt

/-- A 64-bit result: what counts of a `duration` are added and multiplied to. -/
def toInt64 (v : ℤ) : ℤ := (BitVec.ofInt 64 v).toInt

/-- `steady_clock::now() + timeout`, with the clock at `start`. The clock counts
nanoseconds and the timeout is in milliseconds; the product and the sum are both
made in 64 bits. A reading of the clock is never negative, so that what is left until
a deadline fits too. -/
def deadlineOf (start timeout : ℤ) : ℤ := toInt64 (start + toInt64 (timeout * 1000000))

/-- The longest timeout whose nanoseconds fit, and the next one. -/
example : deadlineOf 0 9223372036854 = 9223372036854000000 ∧ deadlineOf 0 9223372036855 < 0 := by
  decide

/-- The call `wait_for_socket` makes. -/
def waitForSocket (handle : Socket) (forWrite : Bool) (timeout : ℤ) : SocketEvent :=
  .call handle (.poll forWrite (toInt32 (if timeout < 0 then 0 else timeout)))

def wsaeAcces : ℤ := 10013
def wsaeWouldBlock : ℤ := 10035
def wsaeInProgress : ℤ := 10036
def wsaeMsgSize : ℤ := 10040
def wsaeNetDown : ℤ := 10050
def wsaeNetUnreach : ℤ := 10051
def wsaeTimedOut : ℤ := 10060
def wsaeConnRefused : ℤ := 10061
def wsaeHostDown : ℤ := 10064
def wsaeHostUnreach : ℤ := 10065

/-- `std::to_string` of a signed number. -/
def decimalInt : ℤ → Bytes
  | .ofNat n => decimal n
  | .negSucc n => ('-' : UInt8) :: decimal (n + 1)

/-- The end of a system message that `socket_error_text` removes. -/
def isMessageTail (c : UInt8) : Bool := c == '\r' || c == '\n' || c == ' ' || c == '.'

/-- `socket_error_text`, given the text `FormatMessageA` supplies. -/
def socketErrorText (formatMessage : ℤ → Option Bytes) (errorCode : ℤ) : Bytes :=
  match formatMessage errorCode with
  | none | some [] => bytes "Winsock error " ++ decimalInt errorCode
  | some buffer =>
      buffer.rdropWhile isMessageTail ++ bytes " (error " ++ decimalInt errorCode ++ bytes ")"

end DeviceDiscovery.Platform
