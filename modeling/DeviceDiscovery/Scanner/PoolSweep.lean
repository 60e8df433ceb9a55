import DeviceDiscovery.Scanner.SubnetSweep
import DeviceDiscovery.Threading.Contract

/-!
A sweep by the only thread that uses the pool (`sweep_for_ssh`, as `run` calls
it).

One pool serves the sweeps of a run one after another and is then shut down, so
the calls of earlier sweeps and the calls of `shutdown` stand beside those of the
sweep under way. A step of the pool's threads leaves all that the calling thread
has done as it is (`Continues`), and what the sweep has done is told by the list
of the accepted calls (`SweepOk`).
-/

namespace DeviceDiscovery.Scanner

open Foundation DeviceDiscovery.Threading

variable {ι κ ε : Type*} {n : ℕ}

/-! ### The calling thread -/

/-- A sweep of the given calls begins. The callers return early when there is
nothing to probe. -/
def startSweep (calls : List ι) : SweepPc ι :=
  if calls.isEmpty then .returned [] else .submitting [] calls

/-- One step of the calling thread in `sweep_for_ssh`. A call of `submit` that
has queued its task goes on with the pool's `notifyOne`; `future.get()` blocks
until the result is there. -/
def sweepStep [DecidableEq ι] (pool : ThreadPool ι κ ε SshProbeResult n) :
    SweepPc ι → Option (ThreadPool ι κ ε SshProbeResult n × SweepPc ι)
  | .submitting futures (i :: rest) =>
      match pool.submits i with
      | .idle => (pool.submitLock i).map fun pool => (pool, .submitting futures (i :: rest))
      | .pushed => none
      | .returned => some (pool, .submitting (futures ++ [i]) rest)
      | .threw => some (pool, .threw)
  | .submitting futures [] => some (pool, .collecting futures [])
  | .collecting (i :: rest) found =>
      match pool.futures i with
      | none => none
      | some (.ok result) =>
          some (pool, .collecting rest (if result.isSsh then found ++ [result] else found))
      | some (.error _) => some (pool, .collecting rest found)
  | .collecting [] found => some (pool, .returned found)
  | .returned _ | .threw => none

/-- What the plain loop finds at the given calls. -/
def foundAt (task : ι → Except ε SshProbeResult) (calls : List ι) :
    List SshProbeResult :=
  calls.filterMap fun i => detected (task i)

/-! ### Steps of the pool's threads -/

/-- The calls of `submit` and of `shutdown` begin in the thread that makes them. -/
def isPools : ThreadPool.Action ι κ n → Bool
  | .submitLock _ | .shutdownLock _ => false
  | _ => true

/-- What the calling thread has done is still there. -/
structure Continues (p q : ThreadPool ι κ ε SshProbeResult n) : Prop where
  accepted : q.accepted = p.accepted
  idle : ∀ i, q.submits i = .idle ↔ p.submits i = .idle
  threw : ∀ i, q.submits i = .threw ↔ p.submits i = .threw
  returned : ∀ i, p.submits i = .returned → q.submits i = .returned
  futures : ∀ i r, p.futures i = some r → q.futures i = some r
  unstopped : ∀ k, q.shutdowns k = .idle ↔ p.shutdowns k = .idle
  stopped : ∀ k, p.shutdowns k = .returned → q.shutdowns k = .returned
  stoppedBy : q.stoppedBy = p.stoppedBy

section Pools

variable [DecidableEq ι] [DecidableEq κ]

theorem submits_of_effect {task : ι → Except ε SshProbeResult}
    {p q : ThreadPool ι κ ε SshProbeResult n} {a : ThreadPool.Action ι κ n}
    (he : ThreadPool.Effect task p a q) (hpools : isPools a = true) {i : ι}
    (hi : p.submits i = .returned) : q.submits i = .returned := by
  cases he with
  | reject | push => cases hpools
  | wake j _ hpushed | wakeNobody j hpushed =>
      have hj : i ≠ j := by
        rintro rfl
        simp [hi] at hpushed
      simpa [hj] using hi
  | _ => exact hi

/-- A future that is set is not written again. -/
theorem futures_of_effect {task : ι → Except ε SshProbeResult}
    {p q : ThreadPool ι κ ε SshProbeResult n} {a : ThreadPool.Action ι κ n}
    (h : ThreadPool.Inv task p) (he : ThreadPool.Effect task p a q) {i : ι}
    {r : Except ε SshProbeResult} (hi : p.futures i = some r) : q.futures i = some r := by
  cases he with
  | complete w j hw =>
      have hj : i ≠ j := by
        rintro rfl
        simp [(h.tasks.running w i hw).2] at hi
      simpa [hj] using hi
  | _ => exact hi

theorem shutdowns_of_effect {task : ι → Except ε SshProbeResult}
    {p q : ThreadPool ι κ ε SshProbeResult n} {a : ThreadPool.Action ι κ n}
    (he : ThreadPool.Effect task p a q) (hpools : isPools a = true) (k : κ) :
    (q.shutdowns k = .idle ↔ p.shutdowns k = .idle) ∧
      (p.shutdowns k = .returned → q.shutdowns k = .returned) := by
  have moved {p : ThreadPool ι κ ε SshProbeResult n} {l : κ} {pc : ShutdownPc}
      (hold : p.shutdowns l ≠ .idle) (hnew : pc ≠ .idle) (hlast : p.shutdowns l ≠ .returned) :
      ((p.setShutdown l pc).shutdowns k = .idle ↔ p.shutdowns k = .idle) ∧
        (p.shutdowns k = .returned → (p.setShutdown l pc).shutdowns k = .returned) := by
    by_cases hk : k = l
    · subst hk
      simp [hold, hnew, hlast]
    · simp [hk]
  cases he with
  | already | stop => cases hpools
  | notifyAll l hl => exact moved (p := p.wakeAll) (by simp [hl]) (by simp) (by simp [hl])
  | join l j hj hl =>
      exact moved (p := p.setJoined ⟨j, hj⟩) (by simp [hl]) (by simp) (by simp [hl])
  | pass l j hj hl | joined l j hl => exact moved (by simp [hl]) (by simp) (by simp [hl])
  | _ => exact ⟨Iff.rfl, id⟩

theorem Continues.of_effect {task : ι → Except ε SshProbeResult}
    {p q : ThreadPool ι κ ε SshProbeResult n} {a : ThreadPool.Action ι κ n}
    (h : ThreadPool.Inv task p) (he : ThreadPool.Effect task p a q) (hpools : isPools a = true) :
    Continues p q := by
  have hcalls : q.accepted = p.accepted ∧ ∀ i, (q.submits i = .threw ↔ p.submits i = .threw) ∧
      (q.submits i = .idle ↔ p.submits i = .idle) := by
    rcases ThreadPool.accepted_effect he with ⟨-, hacc, hpcs⟩ | ⟨i, -, hsubmitted, -⟩
    · exact ⟨hacc, hpcs⟩
    · cases a <;> simp [ThreadPool.Action.submitted, isPools] at hsubmitted hpools
  have hby : q.stoppedBy = p.stoppedBy := by
    cases he <;> first | rfl | cases hpools
  exact ⟨hcalls.1, fun i => (hcalls.2 i).2, fun i => (hcalls.2 i).1,
    fun i => submits_of_effect he hpools, fun i r => futures_of_effect h he,
    fun k => (shutdowns_of_effect he hpools k).1, fun k => (shutdowns_of_effect he hpools k).2,
    hby⟩

end Pools

/-! ### What the calling thread has done -/

/-- The sweep of `calls` agrees with a pool that had accepted the calls `before`
when the sweep began. -/
def SweepOk (task : ι → Except ε SshProbeResult) (before calls : List ι)
    (p : ThreadPool ι κ ε SshProbeResult n) : SweepPc ι → Prop
  | .submitting futures rest =>
      futures ++ rest = calls ∧ (∀ i ∈ futures, p.submits i = .returned) ∧
        (p.accepted = before ++ futures ∨
          ∃ i, rest.head? = some i ∧ p.accepted = before ++ futures ++ [i])
  | .collecting rest found =>
      p.accepted = before ++ calls ∧ ∃ done, done ++ rest = calls ∧
        (∀ i ∈ done, p.futures i = some (task i)) ∧ found = foundAt task done
  | .returned found =>
      p.accepted = before ++ calls ∧ (∀ i ∈ calls, p.futures i = some (task i)) ∧
        found = foundAt task calls
  | .threw => False

theorem SweepOk.start {task : ι → Except ε SshProbeResult} {before : List ι} (calls : List ι)
    {p : ThreadPool ι κ ε SshProbeResult n} (h : p.accepted = before) :
    SweepOk task before calls p (startSweep calls) := by
  cases calls with
  | nil => exact ⟨by simp [h], by simp, rfl⟩
  | cons i calls => exact ⟨rfl, by simp, .inl (by simp [h])⟩

theorem SweepOk.continues {task : ι → Except ε SshProbeResult} {before calls : List ι}
    {p q : ThreadPool ι κ ε SshProbeResult n} {pc : SweepPc ι} (h : SweepOk task before calls p pc)
    (hpq : Continues p q) : SweepOk task before calls q pc := by
  cases pc with
  | submitting futures rest =>
      obtain ⟨hcalls, hreturned, hacc⟩ := h
      refine ⟨hcalls, fun i hi => hpq.returned i (hreturned i hi), ?_⟩
      rwa [hpq.accepted]
  | collecting rest found =>
      obtain ⟨hacc, done, hcalls, hready, hfound⟩ := h
      exact ⟨hpq.accepted.trans hacc, done, hcalls, fun i hi => hpq.futures i _ (hready i hi),
        hfound⟩
  | returned found =>
      obtain ⟨hacc, hready, hfound⟩ := h
      exact ⟨hpq.accepted.trans hacc, fun i hi => hpq.futures i _ (hready i hi), hfound⟩
  | threw => exact h

/-- All that a step of the calling thread can do to a pool that accepts calls. -/
inductive SweepEffect [DecidableEq ι] [DecidableEq κ] (task : ι → Except ε SshProbeResult)
    (p : ThreadPool ι κ ε SshProbeResult n) :
    SweepPc ι → ThreadPool ι κ ε SshProbeResult n → SweepPc ι → Prop where
  | push {futures rest i} (hidle : p.submits i = .idle)
      (hstep : ThreadPool.step task p (.submitLock i) = some (p.push i)) :
      SweepEffect task p (.submitting futures (i :: rest)) (p.push i)
        (.submitting futures (i :: rest))
  | submitted {futures rest i} (hreturned : p.submits i = .returned) :
      SweepEffect task p (.submitting futures (i :: rest)) p (.submitting (futures ++ [i]) rest)
  | turn {futures} : SweepEffect task p (.submitting futures []) p (.collecting futures [])
  | get {rest found i} (hready : p.futures i = some (task i)) :
      SweepEffect task p (.collecting (i :: rest) found) p
        (.collecting rest (found ++ (detected (task i)).toList))
  | finish {found} : SweepEffect task p (.collecting [] found) p (.returned found)

/-- A future holds nothing but the result of its own task. -/
theorem future_eq_task {task : ι → Except ε SshProbeResult}
    {p : ThreadPool ι κ ε SshProbeResult n} (h : ThreadPool.Inv task p) {i : ι}
    {r : Except ε SshProbeResult} (hr : p.futures i = some r) : p.futures i = some (task i) := by
  have hmem : i ∈ p.dequeued := h.tasks.futures i (by simp [hr])
  rcases h.tasks.dequeued i hmem with hdone | ⟨w, hw⟩
  · exact hdone
  · have hnone := (h.tasks.running w i hw).2
    simp [hr] at hnone

theorem sweepStep_effect [DecidableEq ι] [DecidableEq κ] {task : ι → Except ε SshProbeResult}
    {p q : ThreadPool ι κ ε SshProbeResult n} {pc pc' : SweepPc ι} (h : ThreadPool.Inv task p)
    (hopen : p.stopping = false) (haccepting : ∀ i, p.submits i ≠ .threw)
    (hstep : sweepStep p pc = some (q, pc')) : SweepEffect task p pc q pc' := by
  cases pc with
  | submitting futures rest =>
      cases rest with
      | nil =>
          cases hstep
          exact .turn
      | cons i rest =>
          simp only [sweepStep] at hstep
          split at hstep
          · rename_i hidle
            have hlock : p.submitLock i = some (p.push i) := by
              simp [ThreadPool.submitLock, hidle, hopen]
            rw [hlock, Option.map_some] at hstep
            cases hstep
            exact .push hidle hlock
          · cases hstep
          · rename_i hreturned
            cases hstep
            exact .submitted hreturned
          · rename_i hthrew
            exact absurd hthrew (haccepting i)
  | collecting rest found =>
      cases rest with
      | nil =>
          cases hstep
          exact .finish
      | cons i rest =>
          -- The future holds what the task ended with.
          have get {r : Except ε SshProbeResult} {found' : List SshProbeResult}
              (hr : p.futures i = some r) (hfound : found' = found ++ (detected r).toList) :
              SweepEffect task p (.collecting (i :: rest) found) p (.collecting rest found') := by
            have hready := future_eq_task h hr
            rw [hr] at hready
            rw [hfound, Option.some.inj hready]
            exact .get (by rw [hr, hready])
          simp only [sweepStep] at hstep
          split at hstep
          · cases hstep
          · rename_i result hresult
            cases hstep
            apply get hresult
            rw [detected]
            split <;> simp
          · rename_i e hresult
            cases hstep
            exact get hresult (by simp [detected])
  | returned found => cases hstep
  | threw => cases hstep

/-- A step of the calling thread neither sets a future nor stops the pool. -/
theorem SweepEffect.keeps [DecidableEq ι] [DecidableEq κ] {task : ι → Except ε SshProbeResult}
    {p q : ThreadPool ι κ ε SshProbeResult n} {pc pc' : SweepPc ι} (hn : 0 < n)
    (h : ThreadPool.Inv task p) (haccepting : ∀ i, p.submits i ≠ .threw)
    (he : SweepEffect task p pc q pc') :
    ThreadPool.Inv task q ∧ (∀ i, q.submits i ≠ .threw) ∧ q.shutdowns = p.shutdowns ∧
      q.futures = p.futures := by
  cases he with
  | @push futures rest i hidle hstep =>
      refine ⟨h.step hn hstep, fun j => ?_, rfl, rfl⟩
      by_cases hj : j = i
      · simp [hj]
      · simpa [hj] using haccepting j
  | submitted | turn | get | finish => exact ⟨h, haccepting, rfl, rfl⟩

theorem foundAt_concat (task : ι → Except ε SshProbeResult) (done : List ι) (i : ι) :
    foundAt task (done ++ [i]) = foundAt task done ++ (detected (task i)).toList := by
  rw [foundAt, List.filterMap_append, List.filterMap_cons, ← foundAt]
  cases detected (task i) <;> rfl

/-- A step of the calling thread keeps the account of its sweep. -/
theorem SweepOk.effect [DecidableEq ι] [DecidableEq κ] {task : ι → Except ε SshProbeResult}
    {before calls : List ι} {p q : ThreadPool ι κ ε SshProbeResult n} {pc pc' : SweepPc ι}
    (h : ThreadPool.Inv task p) (hnodup : (before ++ calls).Nodup)
    (hok : SweepOk task before calls p pc) (he : SweepEffect task p pc q pc') :
    SweepOk task before calls q pc' := by
  cases he with
  | @push futures rest i hidle =>
      obtain ⟨hcalls, hreturned, hacc⟩ := hok
      have hfresh : i ∉ p.accepted := by
        rw [h.tasks.mem_accepted]
        simp [ThreadPool.IsAccepted, hidle]
      refine ⟨hcalls, fun j hj => ?_, .inr ⟨i, rfl, ?_⟩⟩
      · have hne : j ≠ i := by
          rintro rfl
          simp [hreturned j hj] at hidle
        simpa [hne] using hreturned j hj
      · rcases hacc with hacc | ⟨j, hj, hacc⟩
        · simp [hacc]
        · obtain rfl : i = j := Option.some.inj hj
          simp [hacc] at hfresh
  | @submitted futures rest i hi =>
      obtain ⟨hcalls, hreturned, hacc⟩ := hok
      refine ⟨by simpa using hcalls, fun j hj => ?_, .inl ?_⟩
      · rcases List.mem_append.mp hj with hj | hj
        · exact hreturned j hj
        · rw [List.mem_singleton.mp hj]
          exact hi
      · have hmem : i ∈ p.accepted := (h.tasks.mem_accepted i).mpr (.inr hi)
        rcases hacc with hacc | ⟨j, hj, hacc⟩
        · -- The call has not been made before, so it would not be accepted yet.
          rw [← hcalls, ← List.append_assoc, List.nodup_append] at hnodup
          exact absurd rfl (hnodup.2.2 i (hacc ▸ hmem) i (by simp))
        · obtain rfl : i = j := Option.some.inj hj
          rw [hacc, List.append_assoc]
  | turn =>
      obtain ⟨hcalls, -, hacc⟩ := hok
      rw [List.append_nil] at hcalls
      rcases hacc with hacc | ⟨i, hi, -⟩
      · exact ⟨by rw [hacc, hcalls], [], hcalls, by simp, rfl⟩
      · cases hi
  | @get rest found i hready =>
      obtain ⟨hacc, done, hcalls, hdone, hfound⟩ := hok
      refine ⟨hacc, done ++ [i], by simpa using hcalls, fun j hj => ?_, ?_⟩
      · rcases List.mem_append.mp hj with hj | hj
        · exact hdone j hj
        · rw [List.mem_singleton.mp hj]
          exact hready
      · rw [hfound, foundAt_concat]
  | finish =>
      obtain ⟨hacc, done, hcalls, hdone, hfound⟩ := hok
      rw [List.append_nil] at hcalls
      rw [hcalls] at hdone hfound
      exact ⟨hacc, hdone, hfound⟩

/-! ### The sweep returns -/

/-- A sweep without a step left, on a pool that has nothing left to do either. -/
theorem SweepOk.returned_of_stuck [DecidableEq ι] {task : ι → Except ε SshProbeResult}
    {before calls : List ι} {p : ThreadPool ι κ ε SshProbeResult n} {pc : SweepPc ι}
    (hsettled : ThreadPool.Settled task p) (h : SweepOk task before calls p pc)
    (hstuck : sweepStep p pc = none) : pc = .returned (foundAt task calls) := by
  cases pc with
  | submitting futures rest =>
      cases rest with
      | nil => cases hstuck
      | cons i rest =>
          simp only [sweepStep] at hstuck
          split at hstuck
          · rename_i hidle
            rw [ThreadPool.submitLock, if_pos hidle] at hstuck
            split at hstuck <;> cases hstuck
          · rename_i hpushed
            exact absurd hpushed (hsettled.submits i)
          · cases hstuck
          · cases hstuck
  | collecting rest found =>
      cases rest with
      | nil => cases hstuck
      | cons i rest =>
          obtain ⟨hacc, done, hcalls, -⟩ := h
          have hmem : i ∈ p.accepted := by
            rw [hacc, ← hcalls]
            simp
          simp only [sweepStep, hsettled.finished i hmem] at hstuck
          cases htask : task i with
          | ok result => simp [htask] at hstuck
          | error e => simp [htask] at hstuck
  | returned found => rw [h.2.2]
  | threw => exact h.elim

/-- What the calling thread still owes: for each probe to submit the work it will
cause, and one step for each future. -/
def sweepRank (p : ThreadPool ι κ ε SshProbeResult n) : SweepPc ι → ℕ
  | .submitting futures rest =>
      (rest.map fun i => if p.submits i = .idle then 6 else 1).sum +
        (futures.length + rest.length) + 2
  | .collecting rest _ => rest.length + 1
  | .returned _ | .threw => 0

theorem sweepRank_returned (p : ThreadPool ι κ ε SshProbeResult n) (found : List SshProbeResult) :
    sweepRank p (.returned found) = 0 := rfl

theorem sweepRank_start (p : ThreadPool ι κ ε SshProbeResult n) (calls : List ι) :
    sweepRank p (startSweep calls) ≤ 7 * calls.length + 2 := by
  have hsum (calls : List ι) :
      (calls.map fun i => if p.submits i = .idle then 6 else 1).sum ≤ 6 * calls.length := by
    induction calls with
    | nil => exact Nat.le_refl 0
    | cons i calls ih =>
        simp only [List.map_cons, List.sum_cons, List.length_cons]
        split <;> omega
  cases calls with
  | nil => exact Nat.zero_le _
  | cons i calls =>
      have h := hsum (i :: calls)
      show _ + (([] : List ι).length + (i :: calls).length) + 2 ≤ _
      rw [List.length_nil]
      omega

theorem sweepRank_continues {p q : ThreadPool ι κ ε SshProbeResult n} (h : Continues p q)
    (pc : SweepPc ι) : sweepRank q pc = sweepRank p pc := by
  cases pc with
  | submitting futures rest => simp only [sweepRank, h.idle]
  | collecting | returned | threw => rfl

/-- The task queued costs the pool less than the call had in store. -/
theorem sweepRank_effect [DecidableEq ι] [DecidableEq κ] [Fintype κ]
    {task : ι → Except ε SshProbeResult} {p q : ThreadPool ι κ ε SshProbeResult n}
    {pc pc' : SweepPc ι} (h : ThreadPool.Inv task p) (he : SweepEffect task p pc q pc') :
    q.rank + sweepRank q pc' < p.rank + sweepRank p pc := by
  cases he with
  | @push futures rest i hidle =>
      have hfresh : i ∉ p.accepted := by
        rw [h.tasks.mem_accepted]
        simp [ThreadPool.IsAccepted, hidle]
      have hrank : (p.push i).rank = p.rank + 4 := ThreadPool.rank_push p hfresh
      have hrest : (rest.map fun j => if (p.push i).submits j = .idle then 6 else 1).sum ≤
          (rest.map fun j => if p.submits j = .idle then 6 else 1).sum := by
        apply List.sum_le_sum
        intro j _
        by_cases hj : j = i
        · simp [hj, hidle]
        · simp [hj]
      have hself : (p.push i).submits i = .pushed := by simp
      simp only [sweepRank, List.map_cons, List.sum_cons, hidle, hself, hrank, if_true,
        reduceCtorEq, if_false]
      omega
  | @submitted futures rest i hreturned =>
      simp only [sweepRank, List.map_cons, List.sum_cons, hreturned, reduceCtorEq, if_false,
        List.length_append, List.length_cons, List.length_nil]
      omega
  | turn =>
      simp only [sweepRank, List.map_nil, List.sum_nil, List.length_nil]
      omega
  | get | finish =>
      simp only [sweepRank, List.length_cons, List.length_nil]
      omega

end DeviceDiscovery.Scanner
