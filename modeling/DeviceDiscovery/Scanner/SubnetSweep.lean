import DeviceDiscovery.Network.InterfaceDiscovery
import DeviceDiscovery.Scanner.SshDetector
import DeviceDiscovery.Threading.ThreadPool

/-!
The subnet sweep (`scanner/subnet_sweep.cpp`).

`enumerateSubnetHosts` is a pure function. `sweep_for_ssh` shares a thread pool
with other users: its state is the pool together with the program point of the
calling thread, which first submits one probe for each position of the address
list and then waits for the futures in the same order. The pool is not shut
down, so no call of `shutdown` is there to take a step.
-/

namespace DeviceDiscovery.Scanner

open Foundation DeviceDiscovery.Platform DeviceDiscovery.Network DeviceDiscovery.Threading

/-! ### Enumerating the hosts -/

/-- The loop from `address` up to the broadcast address. -/
def hostsFrom (own broadcast address : Address) : List Address :=
  if address < broadcast then
    if address = own then hostsFrom own broadcast (address + 1)
    else address :: hostsFrom own broadcast (address + 1)
  else []
  termination_by broadcast.toNat - address.toNat
  decreasing_by
    all_goals
      have hlt : address.toNat < broadcast.toNat := by assumption
      have := broadcast.isLt
      rw [BitVec.toNat_add, Nat.mod_eq_of_lt (by simp; omega)]
      simp
      omega

def enumerateSubnetHosts (iface : NetworkInterface) (minPrefix : ℕ) : List Bytes :=
  let pre := iface.prefixLength
  if pre < minPrefix ∨ iface.mask = 0 then []
  else if pre ≥ 31 then
    -- Point-to-point links: the peer address only.
    let network := iface.network
    let count := if pre = 32 then 1 else 2
    let addresses := (List.range count).map fun i => network + BitVec.ofNat 32 i
    (addresses.filter fun address => address ≠ iface.address).map inetNtop
  else (hostsFrom iface.address iface.broadcast (iface.network + 1)).map inetNtop

/-! ### The sweep -/

/-- The result a probe contributes. An exception contributes none. -/
def detected {ε : Type*} : Except ε SshProbeResult → Option SshProbeResult
  | .ok result => if result.isSsh then some result else none
  | .error _ => none

/-- Where the calling thread of `sweep_for_ssh` is. -/
inductive SweepPc (ι : Type*) where
  /-- In the first loop: the futures so far, and the probes still to submit. -/
  | submitting (futures rest : List ι)
  /-- In the second loop: the futures still to get, and what was found. -/
  | collecting (rest : List ι) (found : List SshProbeResult)
  | returned (found : List SshProbeResult)
  /-- `submit` threw, and with it `sweep_for_ssh`. -/
  | threw
  deriving DecidableEq, Repr

/-- The calls of `submit`: `.inl j` is the sweep's for position `j`, `.inr t` is
another thread's. -/
abbrev Call (m : ℕ) (τ : Type*) := Fin m ⊕ τ

structure Sweep (m : ℕ) (τ ε : Type*) (n : ℕ) where
  pool : ThreadPool (Call m τ) Empty ε SshProbeResult n
  caller : SweepPc (Call m τ)

namespace Sweep

variable {m n : ℕ} {τ ε : Type*}

/-- The sweep's calls, in input order. -/
def calls (m : ℕ) (τ : Type*) : List (Call m τ) := (List.finRange m).map .inl

def start (pool : ThreadPool (Call m τ) Empty ε SshProbeResult n) : Sweep m τ ε n :=
  ⟨pool, .submitting [] (calls m τ)⟩

inductive Action (m : ℕ) (τ : Type*) (n : ℕ) where
  | caller
  | pool (a : ThreadPool.Action (Call m τ) Empty n)
  deriving DecidableEq, Repr

variable [DecidableEq τ]

/-- The calling thread. A call of `submit` that has queued its task goes on with
the pool's `notifyOne`; `future.get()` blocks until the result is there. -/
def callerStep (s : Sweep m τ ε n) : Option (Sweep m τ ε n) :=
  match s.caller with
  | .submitting futures (i :: rest) =>
      match s.pool.submits i with
      | .idle => (s.pool.submitLock i).map fun pool => { s with pool := pool }
      | .pushed => none
      | .returned => some { s with caller := .submitting (futures ++ [i]) rest }
      | .threw => some { s with caller := .threw }
  | .submitting futures [] => some { s with caller := .collecting futures [] }
  | .collecting (i :: rest) found =>
      match s.pool.futures i with
      | none => none
      | some (.ok result) =>
          let found := if result.isSsh then found ++ [result] else found
          some { s with caller := .collecting rest found }
      | some (.error _) => some { s with caller := .collecting rest found }
  | .collecting [] found => some { s with caller := .returned found }
  | .returned _ | .threw => none

/-- The other threads leave the sweep's calls alone. -/
def isForeign : ThreadPool.Action (Call m τ) Empty n → Bool
  | .submitLock (.inl _) => false
  | _ => true

def step (task : Call m τ → Except ε SshProbeResult) (s : Sweep m τ ε n) :
    Action m τ n → Option (Sweep m τ ε n)
  | .caller => s.callerStep
  | .pool a =>
      if isForeign a then (ThreadPool.step task s.pool a).map fun pool => { s with pool := pool }
      else none

def Action.internal : Action m τ n → Bool
  | .caller => true
  | .pool a => a.internal

end Sweep

/-- The sweep as a plain loop over the positions. -/
def sequentialSweep {ε : Type*} {m : ℕ} (probe : Fin m → Except ε SshProbeResult) :
    List SshProbeResult :=
  (List.finRange m).filterMap fun j => detected (probe j)

end DeviceDiscovery.Scanner
