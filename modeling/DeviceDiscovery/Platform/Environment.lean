import Mathlib.Data.Int.Notation
import DeviceDiscovery.Foundation.Bytes

/-!
What the program reads from the process around it.
-/

namespace DeviceDiscovery.Platform

open Foundation

/-- The environment variables and the texts of the system's messages. -/
structure Environment where
  getenv : Bytes → Option Bytes
  formatMessage : ℤ → Option Bytes

/-- Names of environment variables are compared without regard to case, and as
C strings. -/
def SameVariable (name other : Bytes) : Prop :=
  (cString name).map toLower = (cString other).map toLower

instance (name other : Bytes) : Decidable (SameVariable name other) :=
  inferInstanceAs (Decidable ((cString name).map toLower = (cString other).map toLower))

end DeviceDiscovery.Platform
