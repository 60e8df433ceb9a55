import DeviceDiscovery.Scanner.SubnetSweep
import DeviceDiscovery.Threading.Contract

/-!
The parallel sweep computes the sequential one (`sweep_for_ssh`).

The invariant ties the program point of the calling thread to the pool. What has
been collected is what a plain loop over the positions already passed would have
found, because the future of a call can only hold the result of that call's own
task (`Sweep.future_eq`). That the sweep returns at all is a ranking argument
on top of the pool's: a probe still to submit pays for the work it will cause.
-/

namespace DeviceDiscovery.Scanner

open Foundation DeviceDiscovery.Threading

variable {m n : ℕ} {τ ε : Type*}

namespace Sweep

/-- What the calling thread has done so far agrees with the pool. -/
def CallerOk (task : Call m τ → Except ε SshProbeResult)
    (pool : ThreadPool (Call m τ) Empty ε SshProbeResult n) : SweepPc (Call m τ) → Prop
  | .submitting futures rest =>
      futures ++ rest = calls m τ ∧ (∀ i ∈ futures, pool.submits i = .returned) ∧
        ∀ i ∈ rest.tail, pool.submits i = .idle
  | .collecting rest found =>
      ∃ done, done ++ rest = calls m τ ∧ (∀ i ∈ calls m τ, pool.submits i = .returned) ∧
        found = done.filterMap fun i => detected (task i)
  | .returned found => found = (calls m τ).filterMap fun i => detected (task i)
  | .threw => False

structure Inv (task : Call m τ → Except ε SshProbeResult) (s : Sweep m τ ε n) : Prop where
  pool : ThreadPool.Inv task s.pool
  accepting : ∀ i, s.pool.submits i ≠ .threw
  caller : CallerOk task s.pool s.caller

/-! ### The pool's side -/

/-- A future holds nothing but the result of its own task. -/
theorem future_eq {task : Call m τ → Except ε SshProbeResult}
    {pool : ThreadPool (Call m τ) Empty ε SshProbeResult n} (h : ThreadPool.Inv task pool)
    {i : Call m τ} {r : Except ε SshProbeResult} (hr : pool.futures i = some r) : r = task i := by
  have hmem : i ∈ pool.dequeued := h.tasks.futures i (by simp [hr])
  rcases h.tasks.dequeued i hmem with hdone | ⟨w, hw⟩
  · exact Option.some.inj (hr.symm.trans hdone)
  · have hnone := (h.tasks.running w i hw).2
    simp [hr] at hnone

/-- Nobody is there to shut the pool down. -/
theorem not_stopping {task : Call m τ → Except ε SshProbeResult}
    {pool : ThreadPool (Call m τ) Empty ε SshProbeResult n} (h : ThreadPool.Inv task pool) :
    pool.stopping = false := by
  cases hstop : pool.stopping with
  | false => rfl
  | true => exact (h.shutdown.stopping.mp hstop).choose.elim

variable [DecidableEq τ]

/-- A pool step changes calls of `submit` in two ways only: a call that was idle
leaves that point, and one that queued its task returns. -/
theorem submits_effect {task : Call m τ → Except ε SshProbeResult}
    {p q : ThreadPool (Call m τ) Empty ε SshProbeResult n}
    {a : ThreadPool.Action (Call m τ) Empty n} (he : ThreadPool.Effect task p a q) (i : Call m τ) :
    (a = .submitLock i ∧ p.submits i = .idle) ∨
      (p.submits i = .pushed ∧ q.submits i = .returned) ∨ q.submits i = p.submits i := by
  cases he with
  | reject j hidle | push j hidle | wake j _ hidle | wakeNobody j hidle =>
      by_cases hj : i = j
      · subst hj
        simp [hidle]
      · simp [hj]
  | _ => exact .inr (.inr rfl)

/-- While the pool is not shut down no call of `submit` throws. -/
theorem accepting_effect {task : Call m τ → Except ε SshProbeResult}
    {p q : ThreadPool (Call m τ) Empty ε SshProbeResult n}
    {a : ThreadPool.Action (Call m τ) Empty n} (h : ThreadPool.Inv task p)
    (he : ThreadPool.Effect task p a q) (haccepting : ∀ i, p.submits i ≠ .threw) (i : Call m τ) :
    q.submits i ≠ .threw := by
  cases he with
  | reject j hidle hstop =>
      rw [not_stopping h] at hstop
      cases hstop
  | push j | wake j | wakeNobody j =>
      by_cases hj : i = j
      · simp [hj]
      · simpa [hj] using haccepting i
  | _ => exact haccepting i

/-- A step of the pool that is not a call of `submit` by the sweep. -/
theorem CallerOk.effect {task : Call m τ → Except ε SshProbeResult}
    {p q : ThreadPool (Call m τ) Empty ε SshProbeResult n}
    {a : ThreadPool.Action (Call m τ) Empty n} (he : ThreadPool.Effect task p a q)
    (hforeign : isForeign a = true) {pc : SweepPc (Call m τ)} (h : CallerOk task p pc) :
    CallerOk task q pc := by
  have hreturned {i : Call m τ} (hi : p.submits i = .returned) : q.submits i = .returned := by
    rcases submits_effect he i with ⟨-, hidle⟩ | ⟨hpushed, -⟩ | heq
    · simp [hi] at hidle
    · simp [hi] at hpushed
    · rw [heq, hi]
  have hidle {i : Call m τ} (hmem : i ∈ calls m τ) (hi : p.submits i = .idle) :
      q.submits i = .idle := by
    obtain ⟨j, -, rfl⟩ := List.mem_map.mp hmem
    rcases submits_effect he (.inl j) with ⟨rfl, -⟩ | ⟨hpushed, -⟩ | heq
    · simp [isForeign] at hforeign
    · simp [hi] at hpushed
    · rw [heq, hi]
  cases pc with
  | submitting futures rest =>
      obtain ⟨hcalls, hfutures, hrest⟩ := h
      refine ⟨hcalls, fun i hi => hreturned (hfutures i hi), fun i hi => hidle ?_ (hrest i hi)⟩
      rw [← hcalls]
      exact List.mem_append_right _ (List.mem_of_mem_tail hi)
  | collecting rest found =>
      obtain ⟨done, hcalls, hall, hfound⟩ := h
      exact ⟨done, hcalls, fun i hi => hreturned (hall i hi), hfound⟩
  | returned found => exact h
  | threw => exact h

/-! ### Steps -/

theorem calls_nodup (m : ℕ) (τ : Type*) : (calls m τ).Nodup :=
  (List.nodup_finRange m).map Sum.inl_injective

/-- All that a step of the calling thread can do. -/
inductive CallerEffect (task : Call m τ → Except ε SshProbeResult)
    (p : ThreadPool (Call m τ) Empty ε SshProbeResult n) :
    SweepPc (Call m τ) → ThreadPool (Call m τ) Empty ε SshProbeResult n → SweepPc (Call m τ) → Prop
  where
  | push {futures rest i} (hidle : p.submits i = .idle)
      (hstep : ThreadPool.step task p (.submitLock i) = some (p.push i)) :
      CallerEffect task p (.submitting futures (i :: rest)) (p.push i)
        (.submitting futures (i :: rest))
  | submitted {futures rest i} (hreturned : p.submits i = .returned) :
      CallerEffect task p (.submitting futures (i :: rest)) p (.submitting (futures ++ [i]) rest)
  | turn {futures} : CallerEffect task p (.submitting futures []) p (.collecting futures [])
  | get {rest found i} :
      CallerEffect task p (.collecting (i :: rest) found) p
        (.collecting rest (found ++ (detected (task i)).toList))
  | finish {found} : CallerEffect task p (.collecting [] found) p (.returned found)

theorem callerStep_effect {task : Call m τ → Except ε SshProbeResult} {s t : Sweep m τ ε n}
    (h : Inv task s) (hstep : s.callerStep = some t) :
    CallerEffect task s.pool s.caller t.pool t.caller := by
  obtain ⟨hpool, haccepting, -⟩ := h
  obtain ⟨pool, pc⟩ := s
  cases pc with
  | submitting futures rest =>
      cases rest with
      | nil =>
          obtain rfl := Option.some.inj hstep
          exact .turn
      | cons i rest =>
          simp only [Sweep.callerStep] at hstep
          split at hstep
          · rename_i hidle
            obtain ⟨q, hq, rfl⟩ := Option.map_eq_some_iff.mp hstep
            -- The pool is not shut down, so the task is queued.
            obtain rfl : pool.push i = q := by
              have hstop : pool.stopping = false := not_stopping hpool
              simp only [ThreadPool.submitLock, hidle, hstop, if_true, Bool.false_eq_true,
                if_false] at hq
              exact Option.some.inj hq
            exact .push hidle hq
          · cases hstep
          · rename_i hreturned
            obtain rfl := Option.some.inj hstep
            exact .submitted hreturned
          · rename_i hthrew
            exact absurd hthrew (haccepting i)
  | collecting rest found =>
      cases rest with
      | nil =>
          obtain rfl := Option.some.inj hstep
          exact .finish
      | cons i rest =>
          simp only [Sweep.callerStep] at hstep
          split at hstep
          · cases hstep
          · rename_i result hresult
            obtain rfl := Option.some.inj hstep
            have hfound : (if result.isSsh then found ++ [result] else found) =
                found ++ (detected (task i)).toList := by
              rw [← future_eq hpool hresult, detected]
              split <;> simp
            rw [hfound]
            exact .get
          · rename_i e hresult
            obtain rfl := Option.some.inj hstep
            have hfound : found ++ (detected (task i)).toList = found := by
              rw [← future_eq hpool hresult]
              simp [detected]
            have hget : CallerEffect task pool (.collecting (i :: rest) found) pool
                (.collecting rest (found ++ (detected (task i)).toList)) :=
              .get
            rw [hfound] at hget
            exact hget
  | returned found => cases hstep
  | threw => cases hstep

/-- Queueing the task of the next call leaves the other calls as they are. -/
theorem CallerOk.push {task : Call m τ → Except ε SshProbeResult}
    {p : ThreadPool (Call m τ) Empty ε SshProbeResult n} {futures rest : List (Call m τ)}
    {i : Call m τ} (h : CallerOk task p (.submitting futures (i :: rest))) :
    CallerOk task (p.push i) (.submitting futures (i :: rest)) := by
  obtain ⟨hcalls, hfutures, hrest⟩ := h
  have hnodup : (futures ++ i :: rest).Nodup := hcalls ▸ calls_nodup m τ
  have hkept (j : Call m τ) (hj : j ≠ i) : (p.push i).submits j = p.submits j := by
    simp [hj]
  refine ⟨hcalls, fun j hj => ?_, fun j hj => ?_⟩
  · have hne : j ≠ i := by
      rintro rfl
      exact (List.nodup_append.mp hnodup).2.2 j hj j (by simp) rfl
    rw [hkept j hne]
    exact hfutures j hj
  · have hne : j ≠ i := by
      rintro rfl
      exact (List.nodup_cons.mp (List.nodup_append.mp hnodup).2.1).1 hj
    rw [hkept j hne]
    exact hrest j hj

omit [DecidableEq τ] in
/-- What has been collected grows by what the next call's task found. -/
theorem CallerOk.get {task : Call m τ → Except ε SshProbeResult}
    {p : ThreadPool (Call m τ) Empty ε SshProbeResult n} {rest : List (Call m τ)}
    {found : List SshProbeResult} {i : Call m τ}
    (h : CallerOk task p (.collecting (i :: rest) found)) :
    CallerOk task p (.collecting rest (found ++ (detected (task i)).toList)) := by
  obtain ⟨done, hcalls, hall, rfl⟩ := h
  refine ⟨done ++ [i], by simpa using hcalls, hall, ?_⟩
  rw [List.filterMap_append, List.filterMap_cons]
  cases detected (task i) with
  | none => rfl
  | some result => rfl

theorem Inv.callerStep {task : Call m τ → Except ε SshProbeResult} (hn : 0 < n)
    {s t : Sweep m τ ε n} (h : Inv task s) (hstep : s.callerStep = some t) : Inv task t := by
  have he := callerStep_effect h hstep
  obtain ⟨hpool, haccepting, hcaller⟩ := h
  obtain ⟨p, pc⟩ := s
  obtain ⟨q, pc'⟩ := t
  cases he with
  | push hidle hq =>
      exact ⟨hpool.step hn hq,
        accepting_effect hpool (ThreadPool.step_effect hq) haccepting, hcaller.push⟩
  | submitted hreturned =>
      obtain ⟨hcalls, hfutures, hrest⟩ := hcaller
      refine ⟨hpool, haccepting, by simpa using hcalls, fun j hj => ?_,
        fun j hj => hrest j (List.mem_of_mem_tail hj)⟩
      rcases List.mem_append.mp hj with hj | hj
      · exact hfutures j hj
      · rw [List.mem_singleton.mp hj]
        exact hreturned
  | turn =>
      obtain ⟨hcalls, hfutures, -⟩ := hcaller
      rw [List.append_nil] at hcalls
      exact ⟨hpool, haccepting, [], hcalls, hcalls ▸ hfutures, rfl⟩
  | get => exact ⟨hpool, haccepting, hcaller.get⟩
  | finish =>
      obtain ⟨done, hcalls, -, hfound⟩ := hcaller
      rw [List.append_nil] at hcalls
      rw [hcalls] at hfound
      exact ⟨hpool, haccepting, hfound⟩

theorem Inv.step {task : Call m τ → Except ε SshProbeResult} (hn : 0 < n) {s t : Sweep m τ ε n}
    {a : Action m τ n} (h : Inv task s) (hstep : Sweep.step task s a = some t) : Inv task t := by
  cases a with
  | caller => exact h.callerStep hn hstep
  | pool a =>
      simp only [Sweep.step] at hstep
      split at hstep
      · rename_i hforeign
        obtain ⟨q, hq, rfl⟩ := Option.map_eq_some_iff.mp hstep
        have he := ThreadPool.step_effect hq
        exact ⟨h.pool.step hn hq, accepting_effect h.pool he h.accepting,
          h.caller.effect he hforeign⟩
      · cases hstep

/-! ### The sweep returns -/

/-- A sweep with no step left has returned. -/
theorem Inv.returned_of_stuck {task : Call m τ → Except ε SshProbeResult} {s : Sweep m τ ε n}
    (h : Inv task s) (hstuck : Stuck (Sweep.step task) Action.internal s) :
    ∃ found, s.caller = .returned found := by
  have hpoolStuck : Stuck (ThreadPool.step task) ThreadPool.Action.internal s.pool := by
    intro a ha
    have hforeign : isForeign a = true := by cases a <;> first | rfl | cases ha
    have hnone := hstuck (.pool a) ha
    simpa [Sweep.step, hforeign] using hnone
  have hsettled := h.pool.settled_of_stuck hpoolStuck
  have hcaller : s.callerStep = none := hstuck .caller rfl
  have hok := h.caller
  obtain ⟨pool, pc⟩ := s
  cases pc with
  | submitting futures rest =>
      cases rest with
      | nil => cases hcaller
      | cons i rest =>
          simp only [Sweep.callerStep] at hcaller
          split at hcaller
          · rename_i hidle
            simp only [ThreadPool.submitLock, hidle, if_true] at hcaller
            split at hcaller <;> cases hcaller
          · rename_i hpushed
            exact absurd hpushed (hsettled.submits i)
          · cases hcaller
          · cases hcaller
  | collecting rest found =>
      cases rest with
      | nil => cases hcaller
      | cons i rest =>
          obtain ⟨done, hcalls, hall, -⟩ := hok
          have hmem : i ∈ calls m τ := by
            rw [← hcalls]
            simp
          have hacc : i ∈ pool.accepted := (h.pool.tasks.mem_accepted i).mpr (.inr (hall i hmem))
          have hready : pool.futures i = some (task i) := hsettled.finished i hacc
          simp only [Sweep.callerStep, hready] at hcaller
          cases htask : task i with
          | ok result => simp [htask] at hcaller
          | error e => simp [htask] at hcaller
  | returned found => exact ⟨found, rfl⟩
  | threw => exact hok.elim

/-- What the calling thread still owes: for each probe to submit the work it will
cause, and one step for each future. -/
def callerRank (pool : ThreadPool (Call m τ) Empty ε SshProbeResult n) : SweepPc (Call m τ) → ℕ
  | .submitting futures rest =>
      (rest.map fun i => if pool.submits i = .idle then 6 else 1).sum +
        (futures.length + rest.length) + 2
  | .collecting rest _ => rest.length + 1
  | .returned _ | .threw => 0

def rank (s : Sweep m τ ε n) : ℕ := s.pool.rank + callerRank s.pool s.caller

/-- The task queued costs the pool less than the call had in store. -/
theorem rank_push {task : Call m τ → Except ε SshProbeResult}
    {p : ThreadPool (Call m τ) Empty ε SshProbeResult n} (h : ThreadPool.Inv task p)
    {futures rest : List (Call m τ)} {i : Call m τ} (hidle : p.submits i = .idle) :
    (p.push i).rank + callerRank (p.push i) (.submitting futures (i :: rest)) <
      p.rank + callerRank p (.submitting futures (i :: rest)) := by
  have hfresh : i ∉ p.accepted := by
    rw [h.tasks.mem_accepted]
    simp [ThreadPool.IsAccepted, hidle]
  have hrank : (p.push i).rank = p.rank + 4 := ThreadPool.rank_push p hfresh
  have hrest : (rest.map fun j => if (p.push i).submits j = .idle then 6 else 1).sum ≤
      (rest.map fun j => if p.submits j = .idle then 6 else 1).sum := by
    apply List.sum_le_sum
    intro j _
    by_cases hj : j = i
    · simp [hj, hidle]
    · simp [hj]
  have hself : (p.push i).submits i = .pushed := by simp
  simp only [callerRank, List.map_cons, List.sum_cons, hidle, hself, hrank, if_true, reduceCtorEq,
    if_false]
  omega

theorem rank_callerStep {task : Call m τ → Except ε SshProbeResult} {s t : Sweep m τ ε n}
    (h : Inv task s) (hstep : s.callerStep = some t) : t.rank < s.rank := by
  have he := callerStep_effect h hstep
  have hpool := h.pool
  obtain ⟨p, pc⟩ := s
  obtain ⟨q, pc'⟩ := t
  cases he with
  | push hidle => exact rank_push hpool hidle
  | @submitted futures rest i hreturned =>
      have hself : p.submits i = .returned := hreturned
      simp only [rank, callerRank, List.map_cons, List.sum_cons, hself, reduceCtorEq, if_false,
        List.length_append, List.length_cons, List.length_nil]
      omega
  | turn =>
      simp only [rank, callerRank, List.map_nil, List.sum_nil, List.length_nil]
      omega
  | get =>
      simp only [rank, callerRank, List.length_cons]
      omega
  | finish =>
      simp only [rank, callerRank, List.length_nil]
      omega

/-- The other threads' steps leave the caller what it has to do. -/
theorem callerRank_effect {task : Call m τ → Except ε SshProbeResult}
    {p q : ThreadPool (Call m τ) Empty ε SshProbeResult n}
    {a : ThreadPool.Action (Call m τ) Empty n} (he : ThreadPool.Effect task p a q)
    (hforeign : isForeign a = true) {pc : SweepPc (Call m τ)} (h : CallerOk task p pc) :
    callerRank q pc = callerRank p pc := by
  cases pc with
  | submitting futures rest =>
      have hsame : (rest.map fun i => if q.submits i = .idle then 6 else 1) =
          rest.map fun i => if p.submits i = .idle then 6 else 1 := by
        apply List.map_congr_left
        intro i hi
        have hmem : i ∈ calls m τ := by
          rw [← h.1]
          exact List.mem_append_right _ hi
        obtain ⟨j, -, rfl⟩ := List.mem_map.mp hmem
        rcases submits_effect he (.inl j) with ⟨rfl, -⟩ | ⟨hpushed, hret⟩ | heq
        · simp [isForeign] at hforeign
        · simp [hpushed, hret]
        · rw [heq]
      simp only [callerRank, hsame]
  | collecting rest found => rfl
  | returned found => rfl
  | threw => rfl

/-- The rank of a sweep. Steps of other users of the pool, and wake-ups without a
reason, are the environment's. -/
def ranking (task : Call m τ → Except ε SshProbeResult) (hn : 0 < n) :
    Ranking (Sweep.step task) (Inv task : Sweep m τ ε n → Prop) Action.internal where
  rank := rank
  cost := 2 * n + 4
  kept h hstep := h.step hn hstep
  internal_lt {s a t} h hstep ha := by
    cases a with
    | caller => exact rank_callerStep h hstep
    | pool a =>
        simp only [Sweep.step] at hstep
        split at hstep
        · rename_i hforeign
          obtain ⟨q, hq, rfl⟩ := Option.map_eq_some_iff.mp hstep
          have he := ThreadPool.step_effect hq
          have hpool := ThreadPool.rank_effect h.pool.tasks he
          have hcaller := callerRank_effect he hforeign h.caller
          have hinternal : a.internal = true := ha
          rw [if_pos hinternal] at hpool
          simp only [rank, hcaller]
          omega
        · cases hstep
  external_le {s a t} h hstep ha := by
    cases a with
    | caller => cases ha
    | pool a =>
        simp only [Sweep.step] at hstep
        split at hstep
        · rename_i hforeign
          obtain ⟨q, hq, rfl⟩ := Option.map_eq_some_iff.mp hstep
          have he := ThreadPool.step_effect hq
          have hpool := ThreadPool.rank_effect h.pool.tasks he
          have hcaller := callerRank_effect he hforeign h.caller
          have hexternal : a.internal = false := ha
          rw [if_neg (by simp [hexternal])] at hpool
          simp only [rank, hcaller]
          omega
        · cases hstep

theorem Inv.start {task : Call m τ → Except ε SshProbeResult}
    {pool : ThreadPool (Call m τ) Empty ε SshProbeResult n} (hn : 0 < n)
    (hpool : Reachable (ThreadPool.step task) (ThreadPool.start n) pool)
    (hidle : ∀ j, pool.submits (.inl j) = .idle) : Inv task (Sweep.start pool) := by
  have haccepting : ThreadPool.Inv task pool ∧ ∀ i, pool.submits i ≠ .threw := by
    refine hpool.invariant (P := fun p => ThreadPool.Inv task p ∧ ∀ i, p.submits i ≠ .threw)
      ⟨.start task, by simp⟩ ?_
    rintro p a q ⟨hp, haccepting⟩ hstep
    exact ⟨hp.step hn hstep, accepting_effect hp (ThreadPool.step_effect hstep) haccepting⟩
  refine ⟨haccepting.1, haccepting.2, rfl, by simp, ?_⟩
  intro i hi
  obtain ⟨j, -, rfl⟩ := List.mem_map.mp (List.mem_of_mem_tail hi)
  exact hidle j

end Sweep

/-- What was found at the sweep's calls is what the plain loop finds. -/
theorem filterMap_calls (probe : Fin m → Except ε SshProbeResult)
    (other : τ → Except ε SshProbeResult) :
    ((Sweep.calls m τ).filterMap fun i => detected (Sum.elim probe other i)) =
      sequentialSweep probe := by
  rw [Sweep.calls, List.filterMap_map]
  rfl

/-- What a sweep returns, whatever the schedule was. -/
theorem Sweep.Inv.found_eq {probe : Fin m → Except ε SshProbeResult}
    {other : τ → Except ε SshProbeResult} {s : Sweep m τ ε n}
    (h : Sweep.Inv (Sum.elim probe other) s) {found : List SshProbeResult}
    (hreturned : s.caller = .returned found) : found = sequentialSweep probe := by
  have hok := h.caller
  rw [hreturned] at hok
  rw [← filterMap_calls probe other]
  exact hok

/-- A probe that throws takes away its own position only. -/
theorem sequentialSweep_of_error {probe : Fin m → Except ε SshProbeResult} {j : Fin m} {e : ε}
    (h : probe j = .error e) : sequentialSweep probe =
      ((List.finRange m).filter fun i => i ≠ j).filterMap fun i => detected (probe i) := by
  rw [sequentialSweep, List.filterMap_filter]
  apply List.filterMap_congr
  intro i _
  by_cases hi : i = j
  · simp [hi, h, detected]
  · simp [hi]

/-- For every address list, every outcome of the probes, every number of workers
and every interleaving with the workers and with other users of the pool: when
`sweep_for_ssh` returns it has found exactly what the plain loop finds, it never
throws, and it returns: where no step is left it has returned, and the steps of a
run are bounded by its rank and the steps of the environment. -/
theorem sweepForSsh_eq_sequential [DecidableEq τ] (workerCount : ℕ) (addresses : List Bytes)
    (probe : Fin addresses.length → Except ε SshProbeResult) (other : τ → Except ε SshProbeResult)
    (pool : ThreadPool (Call addresses.length τ) Empty ε SshProbeResult
      (ThreadPool.workerThreads workerCount))
    (hpool : Reachable (ThreadPool.step (Sum.elim probe other))
      (ThreadPool.start (ThreadPool.workerThreads workerCount)) pool)
    (hidle : ∀ j, pool.submits (.inl j) = .idle) (as : List (Sweep.Action addresses.length τ
      (ThreadPool.workerThreads workerCount)))
    (s : Sweep addresses.length τ ε (ThreadPool.workerThreads workerCount))
    (hrun : run (Sweep.step (Sum.elim probe other)) (Sweep.start pool) as = some s) :
    (∀ found, s.caller = .returned found → found = sequentialSweep probe) ∧
      s.caller ≠ .threw ∧
      (Stuck (Sweep.step (Sum.elim probe other)) Sweep.Action.internal s →
        s.caller = .returned (sequentialSweep probe)) ∧
      as.countP Sweep.Action.internal ≤ (Sweep.start pool).rank +
        (2 * ThreadPool.workerThreads workerCount + 4) *
          as.countP (fun a => !a.internal) ∧
      ∀ j e, probe j = .error e → sequentialSweep probe =
        ((List.finRange addresses.length).filter fun i => i ≠ j).filterMap
          fun i => detected (probe i) := by
  have hn := ThreadPool.workerThreads_pos workerCount
  have hstart := Sweep.Inv.start hn hpool hidle
  have hinv : Sweep.Inv (Sum.elim probe other) s :=
    run_induction (P := fun _ s => Sweep.Inv (Sum.elim probe other) s) hstart
      (fun _ _ _ _ _ h hstep => h.step hn hstep) as s hrun
  refine ⟨fun _ => hinv.found_eq, ?_, ?_, ?_, fun j e he => sequentialSweep_of_error he⟩
  · intro hthrew
    have hok := hinv.caller
    rw [hthrew] at hok
    exact hok
  · intro hstuck
    obtain ⟨found, h⟩ := hinv.returned_of_stuck hstuck
    rw [h, hinv.found_eq h]
  · exact le_trans (Nat.le_add_right _ _) ((Sweep.ranking _ hn).countP_internal_le hstart hrun)

/-- Two positions with the same address: one answers as an SSH server, the other
one's probe throws. -/
def sampleAddresses : List Bytes := ["10.0.0.2", "10.0.0.2"]

def sampleProbe (j : Fin sampleAddresses.length) : Except String SshProbeResult :=
  if j.val = 0 then .ok ⟨"10.0.0.2", .sshDetected, "SSH-2.0-dropbear"⟩ else .error "bad_alloc"

def sampleSweepSchedule :
    List (Sweep.Action sampleAddresses.length Empty (ThreadPool.workerThreads 1)) :=
  let worker := ThreadPool.onlyWorker
  let probe (j : Fin sampleAddresses.length) : Call sampleAddresses.length Empty := .inl j
  let first := probe ⟨0, by decide⟩
  let second := probe ⟨1, by decide⟩
  [.caller, .pool (.notifyOne first none), .caller, .pool (.workerLock worker), .caller,
    .pool (.notifyOne second none), .caller, .caller, .pool (.finish worker),
    .pool (.workerLock worker), .caller, .pool (.finish worker), .caller, .caller]

theorem sampleSweepSchedule_isSome :
    (run (Sweep.step (Sum.elim sampleProbe Empty.elim))
      (Sweep.start (ThreadPool.start (ThreadPool.workerThreads 1))) sampleSweepSchedule).isSome =
        true := by
  decide

def sampleSweepEnd :
    Sweep sampleAddresses.length Empty String (ThreadPool.workerThreads 1) :=
  (run (Sweep.step (Sum.elim sampleProbe Empty.elim))
    (Sweep.start (ThreadPool.start (ThreadPool.workerThreads 1))) sampleSweepSchedule).get
      sampleSweepSchedule_isSome

theorem sweepForSsh_eq_sequential_sample :
    sampleSweepEnd.caller = .returned [⟨"10.0.0.2", .sshDetected, "SSH-2.0-dropbear"⟩] ∧
      sequentialSweep sampleProbe = [⟨"10.0.0.2", .sshDetected, "SSH-2.0-dropbear"⟩] :=
  have h := sweepForSsh_eq_sequential 1 sampleAddresses sampleProbe Empty.elim
    (ThreadPool.start _) .start (fun _ => rfl) sampleSweepSchedule sampleSweepEnd
    (Option.some_get sampleSweepSchedule_isSome).symm
  have hret : sampleSweepEnd.caller =
      .returned [⟨"10.0.0.2", .sshDetected, "SSH-2.0-dropbear"⟩] := by
    decide
  ⟨hret, (h.1 _ hret).symm⟩

end DeviceDiscovery.Scanner
