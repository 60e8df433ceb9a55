import Mathlib.Algebra.Order.BigOperators.Group.Finset
import DeviceDiscovery.Threading.Invariant

/-!
The pool never waits for nothing.

A step is internal when it is owed by a call or a worker that is under way. Where
no internal step is left, every accepted task has finished and no call of
`shutdown` is waiting (`Inv.settled_of_stuck`). The pool does come to such a
point: each internal step lowers `rank`, and only new calls and spurious wake-ups
raise it (`ranking`).
-/

namespace DeviceDiscovery.Threading.ThreadPool

open Foundation

variable {ι κ ε α : Type*} {n : ℕ}

/-- Nothing is queued or running, and no call waits. -/
structure Settled (task : ι → Except ε α) (p : ThreadPool ι κ ε α n) : Prop where
  tasks : p.tasks = []
  finished : ∀ i ∈ p.accepted, p.futures i = some (task i)
  submits : ∀ i, p.submits i ≠ .pushed
  shutdowns : ∀ k, p.shutdowns k = .idle ∨ p.shutdowns k = .returned

theorem workerLock_ne_none [DecidableEq ι] {p : ThreadPool ι κ ε α n} {w : Fin n}
    (hw : p.workers w = .waiting) : p.workerLock w ≠ none := by
  rw [workerLock, if_pos hw]
  split
  · simp
  · split
    · split <;> simp
    · simp

theorem notifyOne_ne_none [DecidableEq ι] {p : ThreadPool ι κ ε α n} {i : ι}
    (hi : p.submits i = .pushed) : ∃ woken, p.notifyOne i woken ≠ none := by
  by_cases hnobody : ∀ w, p.workers w ≠ .asleep
  · exact ⟨none, by simp [notifyOne, hi, hnobody]⟩
  · simp only [not_forall, not_not] at hnobody
    obtain ⟨w, hw⟩ := hnobody
    exact ⟨some w, by simp [notifyOne, hi, hw]⟩

theorem join_ne_none [DecidableEq ι] [DecidableEq κ] {p : ThreadPool ι κ ε α n} {k : κ} {j : ℕ}
    (hk : p.shutdowns k = .joining j) (hexited : ∀ w, p.workers w = .exited) :
    p.join k ≠ none := by
  simp only [join, hk, hexited, if_true]
  split
  · split <;> simp
  · simp

section Stuck

variable [DecidableEq ι] [DecidableEq κ]

/-- A worker that owes no step is asleep or has exited. -/
theorem asleep_or_exited_of_stuck {task : ι → Except ε α} {p : ThreadPool ι κ ε α n}
    (hstuck : Stuck (step task) Action.internal p) (w : Fin n) :
    p.workers w = .asleep ∨ p.workers w = .exited := by
  cases hw : p.workers w with
  | waiting => exact absurd (hstuck (.workerLock w) rfl) (workerLock_ne_none hw)
  | asleep => exact .inl rfl
  | running i =>
      have hnone : p.finish task w = none := hstuck (.finish w) rfl
      simp [finish, hw] at hnone
  | exited => exact .inr rfl

theorem Inv.settled_of_stuck {task : ι → Except ε α} {p : ThreadPool ι κ ε α n} (h : Inv task p)
    (hstuck : Stuck (ThreadPool.step task) Action.internal p) : Settled task p := by
  have hworkers := asleep_or_exited_of_stuck hstuck
  have hsubmits (i : ι) : p.submits i ≠ .pushed := by
    intro hi
    obtain ⟨woken, hne⟩ := notifyOne_ne_none hi
    exact hne (hstuck (.notifyOne i woken) rfl)
  have hstopped (k : κ) : p.shutdowns k ≠ .stopped := by
    intro hk
    have hnone : p.notifyAll k = none := hstuck (.notifyAll k) rfl
    simp [notifyAll, hk] at hnone
  -- No worker is awake and no notification is pending, so nothing is queued.
  have htasks : p.tasks = [] := by
    by_contra hne
    rcases h.wake.notified hne with ⟨w, hawake⟩ | ⟨i, hi⟩ | ⟨k, hk⟩
    · exact (hworkers w).elim hawake.1 hawake.2
    · exact hsubmits i hi
    · exact hstopped k hk
  refine ⟨htasks, ?_, hsubmits, ?_⟩
  · intro i hi
    rw [h.tasks.queue, htasks, List.append_nil] at hi
    rcases h.tasks.dequeued i hi with hdone | ⟨w, hw⟩
    · exact hdone
    · rcases hworkers w with hw' | hw' <;> simp [hw] at hw'
  · intro k
    cases hk : p.shutdowns k with
    | idle => exact .inl rfl
    | stopped => exact absurd hk (hstopped k)
    | joining j =>
        -- After the stop no worker sleeps, so all have exited and can be joined.
        have hstop : p.stopping = true := h.shutdown.stopping.mpr ⟨k, (h.shutdown.joining k j hk).1⟩
        have hexited (w : Fin n) : p.workers w = .exited := by
          rcases hworkers w with hw | hw
          · obtain ⟨l, hl⟩ := h.wake.asleep w hw hstop
            exact absurd hl (hstopped l)
          · exact hw
        exact absurd (hstuck (.join k) rfl) (join_ne_none hk hexited)
    | returned => exact .inr rfl

end Stuck

/-! ### The rank -/

def workerWeight : WorkerPc ι → ℕ
  | .waiting => 1
  | .asleep => 0
  | .running _ => 2
  | .exited => 0

def submitWeight : SubmitPc → ℕ
  | .pushed => 2
  | _ => 0

def shutdownWeight (n : ℕ) : ShutdownPc → ℕ
  | .stopped => 2 * n + 2
  | .joining j => n - j + 1
  | _ => 0

def workerRank (p : ThreadPool ι κ ε α n) : ℕ := ∑ w, workerWeight (p.workers w)

def submitRank [DecidableEq ι] (p : ThreadPool ι κ ε α n) : ℕ :=
  ∑ i ∈ p.accepted.toFinset, submitWeight (p.submits i)

def shutdownRank [Fintype κ] (p : ThreadPool ι κ ε α n) : ℕ :=
  ∑ k, shutdownWeight n (p.shutdowns k)

/-- What the threads under way still owe. -/
def rank [DecidableEq ι] [Fintype κ] (p : ThreadPool ι κ ε α n) : ℕ :=
  2 * p.tasks.length + p.workerRank + p.submitRank + p.shutdownRank

theorem workerRank_setWorker (p : ThreadPool ι κ ε α n) (w : Fin n) (pc : WorkerPc ι) :
    (p.setWorker w pc).workerRank + workerWeight (p.workers w) = p.workerRank + workerWeight pc :=
  sum_weight_update _ _ _ (Finset.mem_univ w) pc

theorem workerRank_wakeAll [DecidableEq ι] (p : ThreadPool ι κ ε α n) :
    p.wakeAll.workerRank ≤ p.workerRank + n := by
  calc p.wakeAll.workerRank ≤ ∑ w, (workerWeight (p.workers w) + 1) := by
        apply Finset.sum_le_sum
        intro w _
        by_cases hw : p.workers w = .asleep <;> simp [hw, workerWeight]
    _ = p.workerRank + n := by
        rw [Finset.sum_add_distrib]
        simp [workerRank]

theorem shutdownRank_setShutdown [Fintype κ] [DecidableEq κ] (p : ThreadPool ι κ ε α n) (k : κ)
    (pc : ShutdownPc) :
    (p.setShutdown k pc).shutdownRank + shutdownWeight n (p.shutdowns k) =
      p.shutdownRank + shutdownWeight n pc :=
  sum_weight_update _ _ _ (Finset.mem_univ k) pc

section Rank

variable [DecidableEq ι]

theorem submitRank_setSubmit (p : ThreadPool ι κ ε α n) {i : ι} (hi : i ∈ p.accepted)
    (pc : SubmitPc) :
    (p.setSubmit i pc).submitRank + submitWeight (p.submits i) = p.submitRank + submitWeight pc :=
  sum_weight_update _ _ _ (List.mem_toFinset.mpr hi) pc

theorem submitRank_setSubmit_of_notMem (p : ThreadPool ι κ ε α n) {i : ι} (hi : i ∉ p.accepted)
    (pc : SubmitPc) : (p.setSubmit i pc).submitRank = p.submitRank := by
  apply Finset.sum_congr rfl
  intro j hj
  have hne : j ≠ i := fun hji => hi (hji ▸ List.mem_toFinset.mp hj)
  simp [hne]

theorem submitRank_push (p : ThreadPool ι κ ε α n) {i : ι} (hi : i ∉ p.accepted) :
    (p.push i).submitRank = p.submitRank + 2 := by
  have hset : (p.push i).accepted.toFinset = insert i p.accepted.toFinset := by
    ext j
    simp
  have hrest := submitRank_setSubmit_of_notMem p hi .pushed
  have hi' : i ∉ p.accepted.toFinset := by simpa using hi
  rw [submitRank, hset, Finset.sum_insert hi', ← hrest, Nat.add_comm]
  simp [submitRank, submitWeight]

variable [Fintype κ]

theorem rank_setWorker (p : ThreadPool ι κ ε α n) (w : Fin n) (pc : WorkerPc ι) :
    (p.setWorker w pc).rank + workerWeight (p.workers w) = p.rank + workerWeight pc := by
  have h := workerRank_setWorker p w pc
  have hrest : (p.setWorker w pc).rank =
      2 * p.tasks.length + (p.setWorker w pc).workerRank + p.submitRank + p.shutdownRank := rfl
  rw [hrest, rank]
  omega

theorem rank_setSubmit (p : ThreadPool ι κ ε α n) {i : ι} (hi : i ∈ p.accepted) (pc : SubmitPc) :
    (p.setSubmit i pc).rank + submitWeight (p.submits i) = p.rank + submitWeight pc := by
  have h := submitRank_setSubmit p hi pc
  have hrest : (p.setSubmit i pc).rank =
      2 * p.tasks.length + p.workerRank + (p.setSubmit i pc).submitRank + p.shutdownRank := rfl
  rw [hrest, rank]
  omega

theorem rank_setSubmit_of_notMem (p : ThreadPool ι κ ε α n) {i : ι} (hi : i ∉ p.accepted)
    (pc : SubmitPc) : (p.setSubmit i pc).rank = p.rank := by
  have hrest : (p.setSubmit i pc).rank =
      2 * p.tasks.length + p.workerRank + (p.setSubmit i pc).submitRank + p.shutdownRank := rfl
  rw [hrest, submitRank_setSubmit_of_notMem p hi pc, rank]

theorem rank_setShutdown [DecidableEq κ] (p : ThreadPool ι κ ε α n) (k : κ) (pc : ShutdownPc) :
    (p.setShutdown k pc).rank + shutdownWeight n (p.shutdowns k) =
      p.rank + shutdownWeight n pc := by
  have h := shutdownRank_setShutdown p k pc
  have hrest : (p.setShutdown k pc).rank =
      2 * p.tasks.length + p.workerRank + p.submitRank + (p.setShutdown k pc).shutdownRank := rfl
  rw [hrest, rank]
  omega

theorem rank_push (p : ThreadPool ι κ ε α n) {i : ι} (hi : i ∉ p.accepted) :
    (p.push i).rank = p.rank + 4 := by
  have hrest : (p.push i).rank = 2 * (p.tasks ++ [i]).length + p.workerRank +
      (p.push i).submitRank + p.shutdownRank := rfl
  rw [hrest, submitRank_push p hi, List.length_append, List.length_singleton, rank]
  omega

/-- A queued task weighs as much as a running one. -/
theorem rank_pop (p : ThreadPool ι κ ε α n) (w : Fin n) {front : ι} {rest : List ι}
    (htasks : p.tasks = front :: rest) :
    (p.pop w front rest).rank + workerWeight (p.workers w) = p.rank := by
  have h := workerRank_setWorker p w (.running front)
  have hrest : (p.pop w front rest).rank = 2 * rest.length +
      (p.setWorker w (.running front)).workerRank + p.submitRank + p.shutdownRank := rfl
  rw [hrest, rank, htasks, List.length_cons]
  simp only [workerWeight] at h ⊢
  omega

theorem rank_wakeAll (p : ThreadPool ι κ ε α n) : p.wakeAll.rank ≤ p.rank + n := by
  have h := workerRank_wakeAll p
  have hrest : p.wakeAll.rank =
      2 * p.tasks.length + p.wakeAll.workerRank + p.submitRank + p.shutdownRank := rfl
  rw [hrest, rank]
  omega

variable [DecidableEq κ]

/-- What a step makes of the rank. -/
theorem rank_effect {task : ι → Except ε α} {p q : ThreadPool ι κ ε α n} {a : Action ι κ n}
    (h : QueueInv task p) (he : Effect task p a q) :
    if a.internal then q.rank < p.rank else q.rank ≤ p.rank + (2 * n + 4) := by
  have hfresh {i : ι} (hi : p.submits i = .idle) : i ∉ p.accepted := by
    rw [h.mem_accepted]
    simp [IsAccepted, hi]
  have hmem {i : ι} (hi : p.submits i = .pushed) : i ∈ p.accepted :=
    (h.mem_accepted i).mpr (.inl hi)
  cases he with
  | reject i hidle =>
      have hr := rank_setSubmit_of_notMem p (hfresh hidle) .threw
      simp only [Action.internal, Bool.false_eq_true, if_false]
      omega
  | push i hidle =>
      have hr := rank_push p (hfresh hidle)
      simp only [Action.internal, Bool.false_eq_true, if_false]
      omega
  | wake i w hpushed hw =>
      have hwoken := rank_setWorker p w .waiting
      have hret := rank_setSubmit (p.setWorker w .waiting) (hmem hpushed) .returned
      simp only [setWorker_submits, hpushed, hw, workerWeight, submitWeight] at hwoken hret
      simp only [Action.internal, if_true]
      omega
  | wakeNobody i hpushed =>
      have hret := rank_setSubmit p (hmem hpushed) .returned
      simp only [hpushed, submitWeight] at hret
      simp only [Action.internal, if_true]
      omega
  | sleep w hw =>
      have hr := rank_setWorker p w .asleep
      simp only [hw, workerWeight] at hr
      simp only [Action.internal, if_true]
      omega
  | exit w hw =>
      have hr := rank_setWorker p w .exited
      simp only [hw, workerWeight] at hr
      simp only [Action.internal, if_true]
      omega
  | pop w front rest hw htasks =>
      have hr := rank_pop p w htasks
      simp only [hw, workerWeight] at hr
      simp only [Action.internal, if_true]
      omega
  | complete w i hw =>
      have hr : (p.complete task w i).rank + _ = _ := rank_setWorker p w .waiting
      simp only [hw, workerWeight] at hr
      simp only [Action.internal, if_true]
      omega
  | spurious w hw =>
      have hr := rank_setWorker p w .waiting
      simp only [hw, workerWeight] at hr
      simp only [Action.internal, Bool.false_eq_true, if_false]
      omega
  | already k hidle =>
      have hr := rank_setShutdown p k .returned
      simp only [hidle, shutdownWeight] at hr
      simp only [Action.internal, Bool.false_eq_true, if_false]
      omega
  | stop k hidle =>
      have hr : (p.stop k).rank + _ = _ := rank_setShutdown p k .stopped
      simp only [hidle, shutdownWeight] at hr
      simp only [Action.internal, Bool.false_eq_true, if_false]
      omega
  | notifyAll k hk =>
      have hwoken := rank_wakeAll p
      have hr := rank_setShutdown p.wakeAll k (.joining 0)
      simp only [wakeAll_shutdowns, hk, shutdownWeight] at hr
      simp only [Action.internal, if_true]
      omega
  | join k j hj hk =>
      have hr : ((p.setJoined ⟨j, hj⟩).setShutdown k (.joining (j + 1))).rank + _ = _ :=
        rank_setShutdown p k (.joining (j + 1))
      simp only [hk, shutdownWeight] at hr
      simp only [Action.internal, if_true]
      omega
  | pass k j hj hk =>
      have hr := rank_setShutdown p k (.joining (j + 1))
      simp only [hk, shutdownWeight] at hr
      simp only [Action.internal, if_true]
      omega
  | joined k j hk =>
      have hr := rank_setShutdown p k .returned
      simp only [hk, shutdownWeight] at hr
      simp only [Action.internal, if_true]
      omega

/-- The rank of the pool, on the states of its invariant. -/
def ranking (task : ι → Except ε α) (hn : 0 < n) :
    Ranking (step task) (Inv task : ThreadPool ι κ ε α n → Prop) Action.internal where
  rank := rank
  cost := 2 * n + 4
  kept h hstep := h.step hn hstep
  internal_lt h hstep ha := by
    have hr := rank_effect h.tasks (step_effect hstep)
    rwa [if_pos ha] at hr
  external_le h hstep ha := by
    have hr := rank_effect h.tasks (step_effect hstep)
    rwa [if_neg (by simp [ha])] at hr

end Rank

end DeviceDiscovery.Threading.ThreadPool
