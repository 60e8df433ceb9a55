import DeviceDiscovery.Main.PasswordGate
import DeviceDiscovery.Scanner.PoolSweep
import Mathlib.Data.Fintype.Defs

/-!
The two stages on the thread pool (`main.cpp`, `run`).

`run` starts the pool, sweeps the subnet, sweeps the stations on the link when
the subnet had no server, and shuts the pool down before it goes on; the pool's
destructor shuts it down once more. The main thread is one party of the system,
the workers are the others. In every interleaving the decision is the one of the
sequential `discoverDevices`, the stages do not overlap, and when the main
thread goes on no other thread is left.
-/

namespace DeviceDiscovery.Main

open Foundation DeviceDiscovery.Platform DeviceDiscovery.Network DeviceDiscovery.Scanner
  DeviceDiscovery.Threading

/-! ### The main thread -/

/-- The calls of `submit` of a run, each by its position in the sweep: `.inl` for
stage A, `.inr` for stage B. -/
abbrev ProbeCall (a b : ℕ) := Fin a ⊕ Fin b

/-- The calls of `shutdown` of a run. -/
inductive ShutdownCall where
  | explicit
  | destructor
  deriving DecidableEq, Repr

instance : Fintype ShutdownCall := ⟨{.explicit, .destructor}, fun call => by cases call <;> simp⟩

/-- What `run` goes on with. -/
structure Decision where
  stage : Bytes
  devices : List SshProbeResult
  deriving DecidableEq, Repr

/-- Where the main thread is, from the constructor of the pool to the end of its
destructor. What `run` does between the two calls of `shutdown` leaves the pool
alone. -/
inductive MainPc (ι : Type*) where
  | subnet (sweep : SweepPc ι)
  | layer2 (sweep : SweepPc ι)
  | shutdown (call : ShutdownCall) (decision : Decision)
  | ended (decision : Decision)
  deriving DecidableEq, Repr

/-- The decision, once it is made. -/
def MainPc.decision {ι : Type*} : MainPc ι → Option Decision
  | .shutdown _ decision | .ended decision => some decision
  | .subnet _ | .layer2 _ => none

structure PoolRun (a b n : ℕ) where
  pool : ThreadPool (ProbeCall a b) ShutdownCall Bytes SshProbeResult n
  main : MainPc (ProbeCall a b)

namespace PoolRun

variable {a b n : ℕ}

def subnetCalls (a b : ℕ) : List (ProbeCall a b) := (List.finRange a).map .inl

def layer2Calls (a b : ℕ) : List (ProbeCall a b) := (List.finRange b).map .inr

def start (a b n : ℕ) : PoolRun a b n :=
  ⟨ThreadPool.start n, .subnet (startSweep (subnetCalls a b))⟩

/-- The main thread; it waits for a call of `shutdown` to return. -/
def mainStep (s : PoolRun a b n) : Option (PoolRun a b n) :=
  match s.main with
  | .subnet (.returned found) =>
      if found = [] then some { s with main := .layer2 (startSweep (layer2Calls a b)) }
      else some { s with main := .shutdown .explicit ⟨"subnet-scan", found⟩ }
  | .layer2 (.returned found) => some { s with main := .shutdown .explicit ⟨"layer2", found⟩ }
  | .subnet sweep => (sweepStep s.pool sweep).map fun next => ⟨next.1, .subnet next.2⟩
  | .layer2 sweep => (sweepStep s.pool sweep).map fun next => ⟨next.1, .layer2 next.2⟩
  | .shutdown call decision =>
      match s.pool.shutdowns call with
      | .idle => (s.pool.shutdownLock call).map fun pool => { s with pool := pool }
      | .returned =>
          match call with
          | .explicit => some { s with main := .shutdown .destructor decision }
          | .destructor => some { s with main := .ended decision }
      | .stopped | .joining _ => none
  | .ended _ => none

inductive Action (a b n : ℕ) where
  | main
  | pool (action : ThreadPool.Action (ProbeCall a b) ShutdownCall n)
  deriving DecidableEq, Repr

def step (task : ProbeCall a b → Except Bytes SshProbeResult) (s : PoolRun a b n) :
    Action a b n → Option (PoolRun a b n)
  | .main => s.mainStep
  | .pool action =>
      if isPools action then (ThreadPool.step task s.pool action).map fun pool =>
        { s with pool := pool }
      else none

/-- All steps but the wake-ups without a reason. -/
def Action.internal : Action a b n → Bool
  | .main => true
  | .pool action => action.internal

/-! ### The decision -/

/-- The decision of a run whose stages are plain loops. -/
def decisionOf (task : ProbeCall a b → Except Bytes SshProbeResult) : Decision :=
  if foundAt task (subnetCalls a b) = [] then ⟨"layer2", foundAt task (layer2Calls a b)⟩
  else ⟨"subnet-scan", foundAt task (subnetCalls a b)⟩

/-- The probes of such a run, in order. -/
def probed (task : ProbeCall a b → Except Bytes SshProbeResult) : List (ProbeCall a b) :=
  if foundAt task (subnetCalls a b) = [] then subnetCalls a b ++ layer2Calls a b
  else subnetCalls a b

theorem calls_nodup : (subnetCalls a b ++ layer2Calls a b).Nodup := by
  apply List.Nodup.append
  · exact (List.nodup_finRange a).map Sum.inl_injective
  · exact (List.nodup_finRange b).map Sum.inr_injective
  · intro i hi hj
    obtain ⟨_, -, rfl⟩ := List.mem_map.mp hi
    obtain ⟨_, -, h⟩ := List.mem_map.mp hj
    cases h

/-! ### The invariant -/

/-- The probes of the run are done and the decision is made. -/
structure Decided (task : ProbeCall a b → Except Bytes SshProbeResult)
    (p : ThreadPool (ProbeCall a b) ShutdownCall Bytes SshProbeResult n)
    (decision : Decision) : Prop where
  decision : decision = decisionOf task
  accepted : p.accepted = probed task
  finished : ∀ i ∈ probed task, p.futures i = some (task i)

/-- What the main thread has done so far agrees with the pool. -/
def MainOk (task : ProbeCall a b → Except Bytes SshProbeResult)
    (p : ThreadPool (ProbeCall a b) ShutdownCall Bytes SshProbeResult n) :
    MainPc (ProbeCall a b) → Prop
  | .subnet sweep =>
      (∀ k, p.shutdowns k = .idle) ∧ SweepOk task [] (subnetCalls a b) p sweep
  | .layer2 sweep =>
      (∀ k, p.shutdowns k = .idle) ∧ foundAt task (subnetCalls a b) = [] ∧
        (∀ i ∈ subnetCalls a b, p.futures i = some (task i)) ∧
        SweepOk task (subnetCalls a b) (layer2Calls a b) p sweep
  | .shutdown .explicit decision =>
      Decided task p decision ∧ p.shutdowns .destructor = .idle
  | .shutdown .destructor decision =>
      Decided task p decision ∧ p.shutdowns .explicit = .returned ∧ p.stoppedBy = some .explicit
  | .ended decision =>
      Decided task p decision ∧ (∀ k, p.shutdowns k = .returned) ∧ p.stoppedBy = some .explicit

structure Inv (task : ProbeCall a b → Except Bytes SshProbeResult) (s : PoolRun a b n) : Prop where
  pool : ThreadPool.Inv task s.pool
  accepting : ∀ i, s.pool.submits i ≠ .threw
  main : MainOk task s.pool s.main

theorem Inv.start (task : ProbeCall a b → Except Bytes SshProbeResult) :
    Inv task (PoolRun.start a b n) :=
  ⟨.start task, by simp [PoolRun.start], by simp [PoolRun.start], SweepOk.start _ rfl⟩

theorem Decided.continues {task : ProbeCall a b → Except Bytes SshProbeResult}
    {p q : ThreadPool (ProbeCall a b) ShutdownCall Bytes SshProbeResult n} {decision : Decision}
    (h : Decided task p decision) (hpq : Continues p q) : Decided task q decision :=
  ⟨h.decision, hpq.accepted.trans h.accepted, fun i hi => hpq.futures i _ (h.finished i hi)⟩

theorem MainOk.continues {task : ProbeCall a b → Except Bytes SshProbeResult}
    {p q : ThreadPool (ProbeCall a b) ShutdownCall Bytes SshProbeResult n}
    {pc : MainPc (ProbeCall a b)} (h : MainOk task p pc) (hpq : Continues p q) :
    MainOk task q pc := by
  cases pc with
  | subnet sweep => exact ⟨fun k => (hpq.unstopped k).mpr (h.1 k), h.2.continues hpq⟩
  | layer2 sweep =>
      obtain ⟨hopen, hnone, hready, hsweep⟩ := h
      exact ⟨fun k => (hpq.unstopped k).mpr (hopen k), hnone,
        fun i hi => hpq.futures i _ (hready i hi), hsweep.continues hpq⟩
  | shutdown call decision =>
      cases call with
      | explicit => exact ⟨h.1.continues hpq, (hpq.unstopped _).mpr h.2⟩
      | destructor =>
          exact ⟨h.1.continues hpq, hpq.stopped _ h.2.1, hpq.stoppedBy.trans h.2.2⟩
  | ended decision =>
      exact ⟨h.1.continues hpq, fun k => hpq.stopped k (h.2.1 k), hpq.stoppedBy.trans h.2.2⟩

/-! ### Steps of the main thread -/

/-- A pool on which no call of `shutdown` has begun accepts calls. -/
theorem not_stopping {task : ProbeCall a b → Except Bytes SshProbeResult}
    {p : ThreadPool (ProbeCall a b) ShutdownCall Bytes SshProbeResult n}
    (h : ThreadPool.Inv task p) (hopen : ∀ k, p.shutdowns k = .idle) : p.stopping = false := by
  cases hstop : p.stopping with
  | false => rfl
  | true =>
      obtain ⟨k, hk⟩ := h.shutdown.stopping.mp hstop
      exact absurd (hopen k) (h.shutdown.stoppedBy k hk)

/-- All that a step of the main thread can do. -/
inductive MainEffect (task : ProbeCall a b → Except Bytes SshProbeResult)
    (p : ThreadPool (ProbeCall a b) ShutdownCall Bytes SshProbeResult n) :
    MainPc (ProbeCall a b) → ThreadPool (ProbeCall a b) ShutdownCall Bytes SshProbeResult n →
      MainPc (ProbeCall a b) → Prop where
  | subnet {sweep q sweep'} (he : SweepEffect task p sweep q sweep') :
      MainEffect task p (.subnet sweep) q (.subnet sweep')
  | layer2 {sweep q sweep'} (he : SweepEffect task p sweep q sweep') :
      MainEffect task p (.layer2 sweep) q (.layer2 sweep')
  | found {found} (hfound : found ≠ []) :
      MainEffect task p (.subnet (.returned found)) p
        (.shutdown .explicit ⟨"subnet-scan", found⟩)
  | nothing :
      MainEffect task p (.subnet (.returned [])) p (.layer2 (startSweep (layer2Calls a b)))
  | linkSwept {found} :
      MainEffect task p (.layer2 (.returned found)) p (.shutdown .explicit ⟨"layer2", found⟩)
  | lock {call decision q} (hidle : p.shutdowns call = .idle)
      (hstep : ThreadPool.step task p (.shutdownLock call) = some q) :
      MainEffect task p (.shutdown call decision) q (.shutdown call decision)
  | goOn {decision} (hreturned : p.shutdowns .explicit = .returned) :
      MainEffect task p (.shutdown .explicit decision) p (.shutdown .destructor decision)
  | destroyed {decision} (hreturned : p.shutdowns .destructor = .returned) :
      MainEffect task p (.shutdown .destructor decision) p (.ended decision)

theorem mainStep_effect {task : ProbeCall a b → Except Bytes SshProbeResult}
    {s t : PoolRun a b n} (h : Inv task s) (hstep : s.mainStep = some t) :
    MainEffect task s.pool s.main t.pool t.main := by
  obtain ⟨hpool, haccepting, hmain⟩ := h
  obtain ⟨p, pc⟩ := s
  have sweep {pc : SweepPc (ProbeCall a b)} {f : SweepPc (ProbeCall a b) → MainPc (ProbeCall a b)}
      (hopen : ∀ k, p.shutdowns k = .idle)
      (hnext : (sweepStep p pc).map (fun next => (⟨next.1, f next.2⟩ : PoolRun a b n)) = some t) :
      ∃ pc', t.main = f pc' ∧ SweepEffect task p pc t.pool pc' := by
    obtain ⟨next, hq, rfl⟩ := Option.map_eq_some_iff.mp hnext
    exact ⟨next.2, rfl, sweepStep_effect hpool (not_stopping hpool hopen) haccepting hq⟩
  cases pc with
  | subnet pc =>
      cases pc with
      | returned found =>
          simp only [mainStep] at hstep
          split at hstep
          · rename_i hnone
            cases hstep
            rw [hnone]
            exact .nothing
          · rename_i hfound
            cases hstep
            exact .found hfound
      | submitting | collecting =>
          obtain ⟨pc', hpc', he⟩ := sweep hmain.1 hstep
          rw [hpc']
          exact .subnet he
      | threw => exact hmain.2.elim
  | layer2 pc =>
      cases pc with
      | returned found =>
          cases hstep
          exact .linkSwept
      | submitting | collecting =>
          obtain ⟨pc', hpc', he⟩ := sweep hmain.1 hstep
          rw [hpc']
          exact .layer2 he
      | threw => exact hmain.2.2.2.elim
  | shutdown call decision =>
      simp only [mainStep] at hstep
      split at hstep
      · rename_i hidle
        obtain ⟨q, hq, rfl⟩ := Option.map_eq_some_iff.mp hstep
        exact .lock hidle hq
      · rename_i hreturned
        cases call with
        | explicit =>
            cases hstep
            exact .goOn hreturned
        | destructor =>
            cases hstep
            exact .destroyed hreturned
      · cases hstep
      · cases hstep
  | ended decision => cases hstep

/-- What the critical section of a call of `shutdown` leaves alone. -/
structure Locked (call : ShutdownCall)
    (p q : ThreadPool (ProbeCall a b) ShutdownCall Bytes SshProbeResult n) : Prop where
  accepted : q.accepted = p.accepted
  submits : q.submits = p.submits
  futures : q.futures = p.futures
  self : q.shutdowns call ≠ .idle
  other : ∀ k, k ≠ call → q.shutdowns k = p.shutdowns k
  stoppedBy : p.stopping = true → q.stoppedBy = p.stoppedBy

theorem Locked.of_step {task : ProbeCall a b → Except Bytes SshProbeResult}
    {p q : ThreadPool (ProbeCall a b) ShutdownCall Bytes SshProbeResult n} {call : ShutdownCall}
    (hstep : ThreadPool.step task p (.shutdownLock call) = some q) : Locked call p q := by
  cases ThreadPool.step_effect hstep with
  | already =>
      exact ⟨rfl, rfl, rfl, by simp, fun k hk => by simp [hk], fun _ => rfl⟩
  | stop _ _ hstop =>
      refine ⟨rfl, rfl, rfl, by simp, fun k hk => by simp [hk], fun h => ?_⟩
      rw [hstop] at h
      cases h

theorem Decided.locked {task : ProbeCall a b → Except Bytes SshProbeResult}
    {p q : ThreadPool (ProbeCall a b) ShutdownCall Bytes SshProbeResult n} {call : ShutdownCall}
    {decision : Decision} (h : Decided task p decision) (hpq : Locked call p q) :
    Decided task q decision :=
  ⟨h.decision, hpq.accepted.trans h.accepted, fun i hi => by rw [hpq.futures, h.finished i hi]⟩

/-- The decision when stage A has found servers, and when stage B has looked. -/
theorem Decided.of_subnet {task : ProbeCall a b → Except Bytes SshProbeResult}
    {p : ThreadPool (ProbeCall a b) ShutdownCall Bytes SshProbeResult n}
    {found : List SshProbeResult} (hfound : found ≠ [])
    (h : SweepOk task [] (subnetCalls a b) p (.returned found)) :
    Decided task p ⟨"subnet-scan", found⟩ := by
  obtain ⟨hacc, hready, rfl⟩ := h
  refine ⟨?_, ?_, ?_⟩
  · rw [decisionOf, if_neg hfound]
  · rw [probed, if_neg hfound, hacc, List.nil_append]
  · rwa [probed, if_neg hfound]

theorem Decided.of_layer2 {task : ProbeCall a b → Except Bytes SshProbeResult}
    {p : ThreadPool (ProbeCall a b) ShutdownCall Bytes SshProbeResult n}
    {found : List SshProbeResult} (hnone : foundAt task (subnetCalls a b) = [])
    (hready : ∀ i ∈ subnetCalls a b, p.futures i = some (task i))
    (h : SweepOk task (subnetCalls a b) (layer2Calls a b) p (.returned found)) :
    Decided task p ⟨"layer2", found⟩ := by
  obtain ⟨hacc, hlink, rfl⟩ := h
  refine ⟨?_, ?_, fun i hi => ?_⟩
  · rw [decisionOf, if_pos hnone]
  · rw [probed, if_pos hnone, hacc]
  · rw [probed, if_pos hnone] at hi
    exact (List.mem_append.mp hi).elim (hready i) (hlink i)

theorem Inv.mainStep {task : ProbeCall a b → Except Bytes SshProbeResult} (hn : 0 < n)
    {s t : PoolRun a b n} (h : Inv task s) (hstep : s.mainStep = some t) : Inv task t := by
  have he := mainStep_effect h hstep
  obtain ⟨hpool, haccepting, hmain⟩ := h
  obtain ⟨p, pc⟩ := s
  obtain ⟨q, pc'⟩ := t
  cases he with
  | subnet he =>
      obtain ⟨hpool', haccepting', hshutdowns, -⟩ := he.keeps hn hpool haccepting
      have hnodup : ([] ++ subnetCalls a b).Nodup := (List.nodup_append.mp calls_nodup).1
      exact ⟨hpool', haccepting', fun k => hshutdowns ▸ hmain.1 k,
        hmain.2.effect hpool hnodup he⟩
  | layer2 he =>
      obtain ⟨hpool', haccepting', hshutdowns, hfutures⟩ := he.keeps hn hpool haccepting
      obtain ⟨hopen, hnone, hready, hsweep⟩ := hmain
      exact ⟨hpool', haccepting', fun k => hshutdowns ▸ hopen k, hnone,
        fun i hi => hfutures ▸ hready i hi, hsweep.effect hpool calls_nodup he⟩
  | found hfound =>
      exact ⟨hpool, haccepting, .of_subnet hfound hmain.2, hmain.1 _⟩
  | nothing =>
      obtain ⟨hopen, hacc, hready, hnone⟩ := hmain
      exact ⟨hpool, haccepting, hopen, hnone.symm, hready, .start _ (by simpa using hacc)⟩
  | linkSwept =>
      obtain ⟨hopen, hnone, hready, hsweep⟩ := hmain
      exact ⟨hpool, haccepting, .of_layer2 hnone hready hsweep, hopen _⟩
  | @lock call decision q hidle hq =>
      have hlocked := Locked.of_step hq
      refine ⟨hpool.step hn hq, fun i => hlocked.submits ▸ haccepting i, ?_⟩
      cases call with
      | explicit =>
          exact ⟨hmain.1.locked hlocked, (hlocked.other _ (by decide)).trans hmain.2⟩
      | destructor =>
          obtain ⟨hdecided, hreturned, hby⟩ := hmain
          have hstop : p.stopping = true := hpool.shutdown.stopping.mpr ⟨_, hby⟩
          exact ⟨hdecided.locked hlocked, (hlocked.other _ (by decide)).trans hreturned,
            (hlocked.stoppedBy hstop).trans hby⟩
  | goOn hreturned =>
      -- The destructor has not begun, so it was this call that stopped the pool.
      obtain ⟨k, hk⟩ := hpool.shutdown.stopping.mp (hpool.shutdown.returned _ hreturned).1
      refine ⟨hpool, haccepting, hmain.1, hreturned, ?_⟩
      cases k with
      | explicit => exact hk
      | destructor => exact absurd hmain.2 (hpool.shutdown.stoppedBy _ hk)
  | destroyed hreturned =>
      refine ⟨hpool, haccepting, hmain.1, fun k => ?_, hmain.2.2⟩
      cases k with
      | explicit => exact hmain.2.1
      | destructor => exact hreturned

theorem Inv.step {task : ProbeCall a b → Except Bytes SshProbeResult} (hn : 0 < n)
    {s t : PoolRun a b n} {action : Action a b n} (h : Inv task s)
    (hstep : PoolRun.step task s action = some t) : Inv task t := by
  cases action with
  | main => exact h.mainStep hn hstep
  | pool action =>
      simp only [PoolRun.step] at hstep
      split at hstep
      · rename_i hpools
        obtain ⟨q, hq, rfl⟩ := Option.map_eq_some_iff.mp hstep
        have hpq := Continues.of_effect h.pool (ThreadPool.step_effect hq) hpools
        exact ⟨h.pool.step hn hq, fun i hi => h.accepting i ((hpq.threw i).mp hi),
          h.main.continues hpq⟩
      · cases hstep

theorem Inv.of_reachable {task : ProbeCall a b → Except Bytes SshProbeResult} (hn : 0 < n)
    {s : PoolRun a b n} (h : Reachable (PoolRun.step task) (PoolRun.start a b n) s) : Inv task s :=
  h.invariant (.start task) fun _ _ _ ht hstep => ht.step hn hstep

/-! ### The run comes to its end -/

/-- Where no step is left the destructor has returned. -/
theorem Inv.ended_of_stuck {task : ProbeCall a b → Except Bytes SshProbeResult}
    {s : PoolRun a b n} (h : Inv task s)
    (hstuck : Stuck (PoolRun.step task) Action.internal s) : s.main = .ended (decisionOf task) := by
  have hsettled : ThreadPool.Settled task s.pool := by
    apply h.pool.settled_of_stuck
    intro action haction
    have hpools : isPools action = true := by cases action <;> first | rfl | cases haction
    have hnone := hstuck (.pool action) haction
    simpa [PoolRun.step, hpools] using hnone
  have hmain : s.mainStep = none := hstuck .main rfl
  have hok := h.main
  obtain ⟨p, pc⟩ := s
  have stopped {call : ShutdownCall} {decision : Decision}
      (hnone : PoolRun.mainStep ⟨p, .shutdown call decision⟩ = none) : False := by
    have hcall : p.shutdowns call = .idle ∨ p.shutdowns call = .returned :=
      hsettled.shutdowns call
    rcases hcall with hidle | hreturned
    · simp only [PoolRun.mainStep, hidle, ThreadPool.shutdownLock, if_true] at hnone
      split at hnone <;> cases hnone
    · cases call <;> simp [PoolRun.mainStep, hreturned] at hnone
  cases pc with
  | subnet sweep =>
      have hsweep : sweep = .returned (foundAt task (subnetCalls a b)) := by
        apply hok.2.returned_of_stuck hsettled
        cases sweep with
        | returned => rfl
        | threw => rfl
        | submitting | collecting => exact Option.map_eq_none_iff.mp hmain
      subst hsweep
      simp only [PoolRun.mainStep] at hmain
      split at hmain <;> cases hmain
  | layer2 sweep =>
      have hsweep : sweep = .returned (foundAt task (layer2Calls a b)) := by
        apply hok.2.2.2.returned_of_stuck hsettled
        cases sweep with
        | returned => rfl
        | threw => rfl
        | submitting | collecting => exact Option.map_eq_none_iff.mp hmain
      subst hsweep
      cases hmain
  | shutdown call decision => exact (stopped hmain).elim
  | ended decision => rw [hok.1.decision]

/-- What a call of `shutdown` that has not begun may cost. -/
def lockRank (p : ThreadPool (ProbeCall a b) ShutdownCall Bytes SshProbeResult n)
    (call : ShutdownCall) : ℕ :=
  if p.shutdowns call = .idle then 2 * n + 5 else 0

/-- What the main thread still owes. -/
def mainRank (p : ThreadPool (ProbeCall a b) ShutdownCall Bytes SshProbeResult n) :
    MainPc (ProbeCall a b) → ℕ
  | .subnet sweep => sweepRank p sweep + (7 * b + 3) + (4 * n + 13)
  | .layer2 sweep => sweepRank p sweep + (4 * n + 13)
  | .shutdown .explicit _ => lockRank p .explicit + lockRank p .destructor + 2
  | .shutdown .destructor _ => lockRank p .destructor + 1
  | .ended _ => 0

def rank (s : PoolRun a b n) : ℕ := s.pool.rank + mainRank s.pool s.main

theorem lockRank_le (p : ThreadPool (ProbeCall a b) ShutdownCall Bytes SshProbeResult n)
    (call : ShutdownCall) : lockRank p call ≤ 2 * n + 5 := by
  rw [lockRank]
  split <;> omega

theorem length_calls : (subnetCalls a b).length = a ∧ (layer2Calls a b).length = b := by
  simp [subnetCalls, layer2Calls]

theorem rank_mainStep {task : ProbeCall a b → Except Bytes SshProbeResult} {s t : PoolRun a b n}
    (h : Inv task s) (hstep : s.mainStep = some t) : t.rank < s.rank := by
  have he := mainStep_effect h hstep
  obtain ⟨hpool, -, -⟩ := h
  obtain ⟨p, pc⟩ := s
  obtain ⟨q, pc'⟩ := t
  have hexplicit := lockRank_le p .explicit
  have hdestructor := lockRank_le p .destructor
  cases he with
  | subnet he | layer2 he =>
      have hlt : q.rank + _ < p.rank + _ := sweepRank_effect hpool he
      simp only [rank, mainRank]
      omega
  | found | linkSwept =>
      simp only [rank, mainRank, sweepRank_returned]
      omega
  | nothing =>
      have hstart := sweepRank_start p (layer2Calls a b)
      rw [length_calls.2] at hstart
      simp only [rank, mainRank, sweepRank_returned]
      omega
  | @lock call decision q hidle hq =>
      have he := ThreadPool.step_effect hq
      have hcost : q.rank ≤ p.rank + (2 * n + 4) := ThreadPool.rank_effect hpool.tasks he
      have hlocked := Locked.of_step hq
      have hself : lockRank q call = 0 := if_neg hlocked.self
      have hwas : lockRank p call = 2 * n + 5 := if_pos hidle
      have hother (k : ShutdownCall) (hk : k ≠ call) : lockRank q k = lockRank p k := by
        rw [lockRank, lockRank, hlocked.other k hk]
      cases call with
      | explicit =>
          simp only [rank, mainRank, hself, hwas, hother .destructor (by decide)]
          omega
      | destructor =>
          simp only [rank, mainRank, hself, hwas]
          omega
  | goOn | destroyed =>
      simp only [rank, mainRank]
      omega

theorem mainRank_continues {p q : ThreadPool (ProbeCall a b) ShutdownCall Bytes SshProbeResult n}
    (h : Continues p q) (pc : MainPc (ProbeCall a b)) : mainRank q pc = mainRank p pc := by
  have hlock (call : ShutdownCall) : lockRank q call = lockRank p call := by
    simp only [lockRank, h.unstopped]
  cases pc with
  | subnet sweep | layer2 sweep => simp only [mainRank, sweepRank_continues h]
  | shutdown call decision => cases call <;> simp only [mainRank, hlock]
  | ended decision => rfl

/-- The rank of a run, on the states of its invariant. -/
def ranking (task : ProbeCall a b → Except Bytes SshProbeResult) (hn : 0 < n) :
    Ranking (PoolRun.step task) (Inv task : PoolRun a b n → Prop) Action.internal where
  rank := rank
  cost := 2 * n + 4
  kept h hstep := h.step hn hstep
  internal_lt {s action t} h hstep haction := by
    cases action with
    | main => exact rank_mainStep h hstep
    | pool action =>
        simp only [PoolRun.step] at hstep
        split at hstep
        · rename_i hpools
          obtain ⟨q, hq, rfl⟩ := Option.map_eq_some_iff.mp hstep
          have he := ThreadPool.step_effect hq
          have hcost := ThreadPool.rank_effect h.pool.tasks he
          have hinternal : action.internal = true := haction
          rw [if_pos hinternal] at hcost
          simp only [rank, mainRank_continues (Continues.of_effect h.pool he hpools)]
          omega
        · cases hstep
  external_le {s action t} h hstep haction := by
    cases action with
    | main => cases haction
    | pool action =>
        simp only [PoolRun.step] at hstep
        split at hstep
        · rename_i hpools
          obtain ⟨q, hq, rfl⟩ := Option.map_eq_some_iff.mp hstep
          have he := ThreadPool.step_effect hq
          have hcost := ThreadPool.rank_effect h.pool.tasks he
          have hexternal : action.internal = false := haction
          rw [if_neg (by simp [hexternal])] at hcost
          simp only [rank, mainRank_continues (Continues.of_effect h.pool he hpools)]
          omega
        · cases hstep

theorem rank_start : (PoolRun.start a b n).rank ≤ 5 * n + 7 * (a + b) + 18 := by
  have hsweep := sweepRank_start (ThreadPool.start n : ThreadPool (ProbeCall a b) ShutdownCall
    Bytes SshProbeResult n) (subnetCalls a b)
  have hpool : (ThreadPool.start n : ThreadPool (ProbeCall a b) ShutdownCall
    Bytes SshProbeResult n).rank = n := ThreadPool.rank_start
  rw [length_calls.1] at hsweep
  simp only [rank, PoolRun.start, mainRank, hpool]
  omega

/-! ### The stages do not overlap -/

/-- A call of stage B that has begun comes after the whole of stage A. -/
theorem Inv.subnet_done {task : ProbeCall a b → Except Bytes SshProbeResult} {s : PoolRun a b n}
    (h : Inv task s) {j : Fin b} (hj : s.pool.submits (.inr j) ≠ .idle) :
    foundAt task (subnetCalls a b) = [] ∧
      ∀ i : Fin a, s.pool.futures (.inl i) = some (task (.inl i)) := by
  have hmem (i : Fin a) : (.inl i : ProbeCall a b) ∈ subnetCalls a b :=
    List.mem_map_of_mem (List.mem_finRange i)
  -- The call has been accepted, since none is rejected.
  have hacc : (.inr j : ProbeCall a b) ∈ s.pool.accepted := by
    rw [h.pool.tasks.mem_accepted, ThreadPool.IsAccepted]
    have hthrew := h.accepting (.inr j)
    cases hpc : s.pool.submits (.inr j) <;> simp_all
  have hnot : (.inr j : ProbeCall a b) ∉ subnetCalls a b := by simp [subnetCalls]
  have decided {decision : Decision} (hdecided : Decided task s.pool decision) :
      foundAt task (subnetCalls a b) = [] ∧
        ∀ i : Fin a, s.pool.futures (.inl i) = some (task (.inl i)) := by
    obtain ⟨-, haccepted, hfinished⟩ := hdecided
    rw [haccepted, probed] at hacc
    rw [probed] at hfinished
    split at hacc
    · rename_i hnone
      rw [if_pos hnone] at hfinished
      exact ⟨hnone, fun i => hfinished _ (List.mem_append_left _ (hmem i))⟩
    · exact absurd hacc hnot
  have hmain := h.main
  cases hpc : s.main with
  | subnet sweep =>
      rw [hpc] at hmain
      have hsub : s.pool.accepted ⊆ subnetCalls a b := by
        obtain ⟨-, hsweep⟩ := hmain
        cases sweep with
        | submitting futures rest =>
            obtain ⟨hcalls, -, haccepted⟩ := hsweep
            rw [← hcalls]
            rcases haccepted with haccepted | ⟨i, hi, haccepted⟩
            · simp [haccepted]
            · obtain ⟨rest, rfl⟩ := List.head?_eq_some_iff.mp hi
              simp [haccepted]
        | collecting | returned => simp [hsweep.1]
        | threw => exact hsweep.elim
      exact absurd (hsub hacc) hnot
  | layer2 sweep =>
      rw [hpc] at hmain
      exact ⟨hmain.2.1, fun i => hmain.2.2.1 _ (hmem i)⟩
  | shutdown call decision =>
      rw [hpc] at hmain
      cases call with
      | explicit => exact decided hmain.1
      | destructor => exact decided hmain.1
  | ended decision =>
      rw [hpc] at hmain
      exact decided hmain.1

/-- When the first call of `shutdown` has returned the workers are gone. -/
theorem Inv.drained {task : ProbeCall a b → Except Bytes SshProbeResult} (hn : 0 < n)
    {s : PoolRun a b n} (h : Inv task s) (hreturned : s.pool.shutdowns .explicit = .returned)
    (hby : s.pool.stoppedBy = some .explicit) : ThreadPool.Drained task s.pool :=
  h.pool.drained_of_exited hn ((h.pool.shutdown.returned _ hreturned).2 hby)

end PoolRun

/-! ### The run -/

section Run

variable (options : Options) (world : World) (iface : NetworkInterface)

/-- What the probes of a run end with. -/
def probeTask : ProbeCall (subnetHosts iface).length (linkHosts options world iface).length →
    Except Bytes SshProbeResult :=
  Sum.elim
    (fun j => (world.subnetProbes j).map fun os =>
      (probeSsh os ((subnetHosts iface).get j) options.connectTimeout options.bannerTimeout).1)
    (fun j => (world.linkProbes j).map fun os =>
      (probeSsh os ((linkHosts options world iface).get j) options.connectTimeout
        options.bannerTimeout).1)

theorem foundAt_probeTask :
    foundAt (probeTask options world iface) (PoolRun.subnetCalls _ _) =
        subnetDevices options world iface ∧
      foundAt (probeTask options world iface) (PoolRun.layer2Calls _ _) =
        linkDevices options world iface := by
  constructor
  · rw [foundAt, PoolRun.subnetCalls, List.filterMap_map]
    rfl
  · rw [foundAt, PoolRun.layer2Calls, List.filterMap_map]
    rfl

theorem decisionOf_probeTask :
    PoolRun.decisionOf (probeTask options world iface) =
      ⟨(discoverDevices options world iface).stage,
        (discoverDevices options world iface).found.devices⟩ := by
  obtain ⟨hsubnet, hlink⟩ := foundAt_probeTask options world iface
  rw [PoolRun.decisionOf, hsubnet, hlink, discoverDevices]
  dsimp only
  rw [stageASubnetScan_devices]
  split
  · rw [stageBLayer2_devices]
  · rw [stageASubnetScan_devices]

/-- The two stages on the pool make the decision of the sequential ones, in every
interleaving and for every number of workers; no call of `submit` throws; and the
run comes to the end of the destructor: where no step is left it is there, and
the number of its steps is bounded but for the wake-ups without a reason. -/
theorem discoverDevices_of_schedule
    (as : List (PoolRun.Action (subnetHosts iface).length (linkHosts options world iface).length
      (ThreadPool.workerThreads options.threads)))
    (s : PoolRun (subnetHosts iface).length (linkHosts options world iface).length
      (ThreadPool.workerThreads options.threads))
    (hrun : Foundation.run (PoolRun.step (probeTask options world iface)) (PoolRun.start _ _ _) as =
      some s) :
    let discovery := discoverDevices options world iface
    (∀ decision, s.main.decision = some decision →
        decision = ⟨discovery.stage, discovery.found.devices⟩) ∧
      (∀ i, s.pool.submits i ≠ .threw) ∧
      (Stuck (PoolRun.step (probeTask options world iface)) PoolRun.Action.internal s →
        s.main = .ended ⟨discovery.stage, discovery.found.devices⟩) ∧
      as.countP PoolRun.Action.internal ≤
        5 * ThreadPool.workerThreads options.threads +
          7 * ((subnetHosts iface).length + (linkHosts options world iface).length) + 18 +
          (2 * ThreadPool.workerThreads options.threads + 4) *
            as.countP (fun action => !action.internal) := by
  intro discovery
  have hn := ThreadPool.workerThreads_pos options.threads
  have hinv : PoolRun.Inv (probeTask options world iface) s :=
    .of_reachable hn (reachable_iff_run.mpr ⟨as, hrun⟩)
  refine ⟨fun decision hdecision => ?_, hinv.accepting, fun hstuck => ?_, ?_⟩
  · rw [← decisionOf_probeTask]
    have hmain := hinv.main
    cases hpc : s.main with
    | subnet | layer2 => simp [hpc, MainPc.decision] at hdecision
    | shutdown call made =>
        obtain rfl : made = decision := by simpa [hpc, MainPc.decision] using hdecision
        rw [hpc] at hmain
        cases call with
        | explicit => exact hmain.1.decision
        | destructor => exact hmain.1.decision
    | ended made =>
        obtain rfl : made = decision := by simpa [hpc, MainPc.decision] using hdecision
        rw [hpc] at hmain
        exact hmain.1.decision
  · rw [← decisionOf_probeTask]
    exact hinv.ended_of_stuck hstuck
  · have hbound := (PoolRun.ranking (probeTask options world iface) hn).countP_internal_le
      (.start _) hrun
    have hstart : (PoolRun.ranking (probeTask options world iface) hn).rank (PoolRun.start _ _ _) ≤
      _ := PoolRun.rank_start
    have hcost : (PoolRun.ranking (probeTask options world iface) hn).cost =
      2 * ThreadPool.workerThreads options.threads + 4 := rfl
    rw [hcost] at hbound
    omega

end Run

/-- A pool with one worker. -/
def singleWorker : Options := { threads := 1 }

def samplePoolWorld : World := sampleWorld "secret" noOutput

/-- The one probe is made, and the pool is shut down twice. -/
def samplePoolSchedule : List (PoolRun.Action (subnetHosts wiredInterface).length
    (linkHosts singleWorker samplePoolWorld wiredInterface).length
    (ThreadPool.workerThreads singleWorker.threads)) :=
  let probe : ProbeCall (subnetHosts wiredInterface).length
    (linkHosts singleWorker samplePoolWorld wiredInterface).length := .inl ⟨0, by decide⟩
  let worker := ThreadPool.onlyWorker
  [.main, .pool (.notifyOne probe none), .main, .pool (.workerLock worker), .main,
    .pool (.finish worker), .main, .main, .main, .main, .pool (.notifyAll .explicit),
    .pool (.workerLock worker), .pool (.join .explicit), .pool (.join .explicit), .main, .main,
    .main]

theorem samplePoolSchedule_isSome :
    (Foundation.run (PoolRun.step (probeTask singleWorker samplePoolWorld wiredInterface))
      (PoolRun.start _ _ _) samplePoolSchedule).isSome = true := by
  decide

def samplePoolEnd : PoolRun (subnetHosts wiredInterface).length
    (linkHosts singleWorker samplePoolWorld wiredInterface).length
    (ThreadPool.workerThreads singleWorker.threads) :=
  (Foundation.run (PoolRun.step (probeTask singleWorker samplePoolWorld wiredInterface))
    (PoolRun.start _ _ _) samplePoolSchedule).get samplePoolSchedule_isSome

theorem samplePoolEnd_main : samplePoolEnd.main = .ended ⟨"subnet-scan", [samplePeer]⟩ := by
  decide

theorem discoverDevices_of_schedule_sample :
    samplePoolEnd.main = .ended ⟨"subnet-scan", [samplePeer]⟩ ∧
      (discoverDevices singleWorker samplePoolWorld wiredInterface).found.devices = [samplePeer] :=
  have h := discoverDevices_of_schedule singleWorker samplePoolWorld wiredInterface
    samplePoolSchedule samplePoolEnd (Option.some_get samplePoolSchedule_isSome).symm
  have hdecision := h.1 ⟨"subnet-scan", [samplePeer]⟩ (by rw [samplePoolEnd_main]; rfl)
  ⟨samplePoolEnd_main, (congrArg Decision.devices hdecision).symm⟩

section Apart

variable (options : Options) (world : World) (iface : NetworkInterface)

/-- In every interleaving a probe of stage B begins only when every probe of
stage A has ended and none found a server. When `run` goes on after the first
call of `shutdown`, the probes made are those of stage A, followed by those of
stage B if A found none, each once and in the order of the addresses, all of them
have ended and no worker is left. -/
theorem stages_apart
    (s : PoolRun (subnetHosts iface).length (linkHosts options world iface).length
      (ThreadPool.workerThreads options.threads))
    (h : Reachable (PoolRun.step (probeTask options world iface)) (PoolRun.start _ _ _) s) :
    (∀ j, s.pool.submits (.inr j) ≠ .idle →
        subnetDevices options world iface = [] ∧
          (∀ i, s.pool.futures (.inl i) = some (probeTask options world iface (.inl i))) ∧
          ∀ w i, s.pool.workers w ≠ .running (.inl i)) ∧
      (∀ decision, s.main = .shutdown .destructor decision ∨ s.main = .ended decision →
        s.pool.accepted = (PoolRun.subnetCalls _ _ ++
            if subnetDevices options world iface = [] then PoolRun.layer2Calls _ _ else []) ∧
          s.pool.dequeued = s.pool.accepted ∧ s.pool.accepted.Nodup ∧
          ThreadPool.Drained (probeTask options world iface) s.pool) := by
  have hn := ThreadPool.workerThreads_pos options.threads
  have hinv : PoolRun.Inv (probeTask options world iface) s := .of_reachable hn h
  refine ⟨fun j hj => ?_, fun decision hdecision => ?_⟩
  · obtain ⟨hnone, hready⟩ := hinv.subnet_done hj
    rw [(foundAt_probeTask options world iface).1] at hnone
    refine ⟨hnone, hready, fun w i hw => ?_⟩
    have hpending := (hinv.pool.tasks.running w _ hw).2
    rw [hready i] at hpending
    cases hpending
  · have hgone : PoolRun.Decided (probeTask options world iface) s.pool decision ∧
        s.pool.shutdowns .explicit = .returned ∧ s.pool.stoppedBy = some .explicit := by
      have hmain := hinv.main
      rcases hdecision with hpc | hpc
      · rw [hpc] at hmain
        exact hmain
      · rw [hpc] at hmain
        exact ⟨hmain.1, hmain.2.1 _, hmain.2.2⟩
    obtain ⟨hdecided, hreturned, hby⟩ := hgone
    have hdrained := hinv.drained hn hreturned hby
    refine ⟨?_, ?_, hinv.pool.tasks.nodup, hdrained⟩
    · rw [hdecided.accepted, PoolRun.probed, (foundAt_probeTask options world iface).1]
      split <;> simp
    · rw [hinv.pool.tasks.queue, hdrained.tasks, List.append_nil]

end Apart

theorem stages_apart_sample :
    samplePoolEnd.pool.dequeued = PoolRun.subnetCalls _ _ ∧
      ThreadPool.Drained (probeTask singleWorker samplePoolWorld wiredInterface)
        samplePoolEnd.pool :=
  have h := stages_apart singleWorker samplePoolWorld wiredInterface samplePoolEnd
    (reachable_get samplePoolSchedule_isSome)
  have hend := h.2 ⟨"subnet-scan", [samplePeer]⟩ (.inr samplePoolEnd_main)
  ⟨by decide, hend.2.2.2⟩

end DeviceDiscovery.Main
