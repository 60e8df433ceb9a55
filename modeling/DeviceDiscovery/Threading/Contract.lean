import DeviceDiscovery.Threading.Progress

/-!
What the thread pool promises its callers (`threading/thread_pool.hpp`,
`tests/test_thread_pool.cpp`).

The results hold after every list of steps, so for every number of workers and
of calling threads and for every interleaving.
-/

namespace DeviceDiscovery.Threading.ThreadPool

open Foundation

variable {ι κ ε α : Type*} {n : ℕ}

/-- The call whose critical section of `submit` a step is. -/
def Action.submitted : Action ι κ n → Option ι
  | .submitLock i => some i
  | _ => none

/-- Accepted tasks leave the queue once each and in the order in which their
calls held the mutex. -/
structure Fifo (as : List (Action ι κ n)) (p : ThreadPool ι κ ε α n) : Prop where
  accepted : p.accepted = (as.filterMap Action.submitted).filter fun i => p.submits i ≠ .threw
  nodup : p.accepted.Nodup
  returned : ∀ i, p.submits i = .returned → i ∈ p.accepted
  dequeued : p.dequeued <+: p.accepted

/-- The call `i` left no trace in the pool. -/
structure Untouched (i : ι) (p : ThreadPool ι κ ε α n) : Prop where
  accepted : i ∉ p.accepted
  dequeued : i ∉ p.dequeued
  running : ∀ w, p.workers w ≠ .running i
  futures : p.futures i = none

/-- The queue is drained and all workers are gone. -/
structure Drained (task : ι → Except ε α) (p : ThreadPool ι κ ε α n) : Prop where
  tasks : p.tasks = []
  finished : ∀ i ∈ p.accepted, p.futures i = some (task i)
  exited : ∀ w, p.workers w = .exited

/-! ### Consequences of the invariant -/

/-- A call that threw has no task in the pool. -/
theorem Inv.untouched_of_threw {task : ι → Except ε α} {p : ThreadPool ι κ ε α n}
    (h : Inv task p) {i : ι} (hi : p.submits i = .threw) : Untouched i p := by
  have hacc : i ∉ p.accepted := by
    rw [h.tasks.mem_accepted]
    simp [IsAccepted, hi]
  have hdeq : i ∉ p.dequeued := by
    intro hmem
    rw [h.tasks.queue] at hacc
    exact hacc (List.mem_append_left _ hmem)
  refine ⟨hacc, hdeq, fun w hw => hdeq (h.tasks.running w i hw).1, ?_⟩
  by_contra hne
  exact hdeq (h.tasks.futures i hne)

/-- When all workers are gone nothing is left to do. -/
theorem Inv.drained_of_exited {task : ι → Except ε α} (hn : 0 < n) {p : ThreadPool ι κ ε α n}
    (h : Inv task p) (hexited : ∀ w, p.workers w = .exited) : Drained task p := by
  have htasks : p.tasks = [] := (h.wake.exited ⟨0, hn⟩ (hexited _)).2
  refine ⟨htasks, ?_, hexited⟩
  intro i hi
  rw [h.tasks.queue, htasks, List.append_nil] at hi
  rcases h.tasks.dequeued i hi with hdone | ⟨w, hw⟩
  · exact hdone
  · simp [hexited] at hw

/-- A single call of `shutdown` is the one that set `stopping_`. -/
theorem Inv.exited_of_returned {task : ι → Except ε α} {p : ThreadPool ι Unit ε α n}
    (h : Inv task p) (hret : p.shutdowns () = .returned) (w : Fin n) : p.workers w = .exited := by
  obtain ⟨hstop, hall⟩ := h.shutdown.returned () hret
  obtain ⟨k, hk⟩ := h.shutdown.stopping.mp hstop
  exact hall hk w

theorem rank_start [DecidableEq ι] [Fintype κ] : (start n : ThreadPool ι κ ε α n).rank = n := by
  simp [rank, workerRank, submitRank, shutdownRank, workerWeight, shutdownWeight]

/-! ### First in, first out -/

section Steps

variable [DecidableEq ι] [DecidableEq κ]

/-- A step that is not a critical section of `submit` moves no call between
`idle`, accepted and `threw`, and one that is moves only its own. -/
theorem accepted_effect {task : ι → Except ε α} {p q : ThreadPool ι κ ε α n} {a : Action ι κ n}
    (he : Effect task p a q) :
    (a.submitted = none ∧ q.accepted = p.accepted ∧
        ∀ i, (q.submits i = .threw ↔ p.submits i = .threw) ∧
          (q.submits i = .idle ↔ p.submits i = .idle)) ∨
      ∃ i pc, a.submitted = some i ∧ p.submits i = .idle ∧ pc ≠ .idle ∧
        q.submits = Function.update p.submits i pc ∧
        q.accepted = p.accepted ++ if pc = .threw then [] else [i] := by
  have hreturned {i : ι} (hi : p.submits i = .pushed) (j : ι) :
      ((p.setSubmit i .returned).submits j = .threw ↔ p.submits j = .threw) ∧
        ((p.setSubmit i .returned).submits j = .idle ↔ p.submits j = .idle) := by
    by_cases hj : j = i
    · subst hj
      simp [hi]
    · simp [hj]
  cases he with
  | reject i hidle => exact .inr ⟨i, .threw, rfl, hidle, by simp, rfl, by simp⟩
  | push i hidle => exact .inr ⟨i, .pushed, rfl, hidle, by simp, rfl, by simp⟩
  | wake i w hpushed => exact .inl ⟨rfl, rfl, hreturned hpushed⟩
  | wakeNobody i hpushed => exact .inl ⟨rfl, rfl, hreturned hpushed⟩
  | _ => exact .inl ⟨rfl, rfl, fun _ => ⟨Iff.rfl, Iff.rfl⟩⟩

/-- The accepted calls are those that took the lock, in that order, less those
that threw. -/
theorem accepted_of_run {task : ι → Except ε α} {as : List (Action ι κ n)}
    {p : ThreadPool ι κ ε α n} (h : run (step task) (start n) as = some p) :
    p.accepted = (as.filterMap Action.submitted).filter fun i => p.submits i ≠ .threw := by
  have hkey : (∀ i ∈ as.filterMap Action.submitted, p.submits i ≠ .idle) ∧
      p.accepted = (as.filterMap Action.submitted).filter fun i => p.submits i ≠ .threw := by
    refine run_induction (P := fun as p => (∀ i ∈ as.filterMap Action.submitted,
      p.submits i ≠ .idle) ∧ p.accepted =
        (as.filterMap Action.submitted).filter fun i => p.submits i ≠ .threw)
      ⟨by simp, by simp⟩ ?_ as p h
    rintro as p a q - ⟨hbusy, hacc⟩ hstep
    rcases accepted_effect (step_effect hstep) with
      ⟨hnone, hkept, hpcs⟩ | ⟨i, pc, hsome, hidle, hpc, hsubmits, hgrown⟩
    · simp only [List.filterMap_append, List.filterMap_cons, List.filterMap_nil, hnone,
        List.append_nil, ne_eq, (hpcs _).1, (hpcs _).2, hkept]
      exact ⟨hbusy, hacc⟩
    · -- The call was idle, so it is none of the earlier ones.
      have hother (j : ι) (hj : j ∈ as.filterMap Action.submitted) :
          q.submits j = p.submits j := by
        have hne : j ≠ i := fun hji => hbusy j hj (hji ▸ hidle)
        rw [hsubmits, Function.update_of_ne hne]
      have hself : q.submits i = pc := by rw [hsubmits, Function.update_self]
      have hold : ((as.filterMap Action.submitted).filter fun j => q.submits j ≠ .threw) =
          (as.filterMap Action.submitted).filter fun j => p.submits j ≠ .threw := by
        apply List.filter_congr
        intro j hj
        rw [hother j hj]
      simp only [List.filterMap_append, List.filterMap_cons, List.filterMap_nil, hsome,
        List.filter_append, hold]
      refine ⟨?_, ?_⟩
      · intro j hj
        rcases List.mem_append.mp hj with hj | hj
        · rw [hother j hj]
          exact hbusy j hj
        · rw [List.mem_singleton.mp hj, hself]
          exact hpc
      · rw [hgrown, hacc]
        by_cases hthrew : pc = .threw <;> simp [hself, hthrew]
  exact hkey.2

/-! ### Calls after the stop -/

theorem threw_of_effect {task : ι → Except ε α} {p q : ThreadPool ι κ ε α n} {a : Action ι κ n}
    (he : Effect task p a q) {i : ι} (hi : p.submits i = .threw) : q.submits i = .threw := by
  rcases accepted_effect he with ⟨-, -, hpcs⟩ | ⟨j, pc, -, hidle, -, hsubmits, -⟩
  · exact (hpcs i).1.mpr hi
  · have hne : i ≠ j := by
      rintro rfl
      simp [hi] at hidle
    rw [hsubmits, Function.update_of_ne hne, hi]

/-! ### The contract -/

theorem workerThreads_pos (workerCount : ℕ) : 0 < workerThreads workerCount :=
  Nat.lt_of_lt_of_le Nat.zero_lt_one (Nat.le_max_left 1 workerCount)

/-- With one call of `shutdown`, in every interleaving: accepted tasks are taken
once and in the order of the lock, and all of them are in the end; a call after
the stop throws and its task never enters the pool; and when `shutdown` returns
the pool is drained. The work left after a run is bounded by the steps of its
environment. -/
theorem fifo_and_drained (workerCount : ℕ) (task : ι → Except ε α)
    (as : List (Action ι Unit (workerThreads workerCount)))
    (p : ThreadPool ι Unit ε α (workerThreads workerCount))
    (hrun : run (step task) (start (workerThreads workerCount)) as = some p) :
    Fifo as p ∧
      (Stuck (step task) Action.internal p → p.dequeued = p.accepted ∧ Settled task p) ∧
      as.countP Action.internal ≤ workerThreads workerCount +
        (2 * workerThreads workerCount + 4) * as.countP (fun a => !a.internal) ∧
      (∀ i, p.stopping = true → p.submits i = .idle →
        ∃ q, step task p (.submitLock i) = some q ∧ q.submits i = .threw ∧ q.tasks = p.tasks ∧
          ∀ r, Reachable (step task) q r → Untouched i r) ∧
      (p.shutdowns () = .returned → Drained task p) := by
  have hn := workerThreads_pos workerCount
  have hreach : Reachable (step task) (start (workerThreads workerCount)) p :=
    reachable_iff_run.mpr ⟨as, hrun⟩
  have hinv : Inv task p := .of_reachable hn hreach
  refine ⟨?_, ?_, ?_, ?_, ?_⟩
  · refine ⟨accepted_of_run hrun, hinv.tasks.nodup, ?_, ?_⟩
    · exact fun i hi => (hinv.tasks.mem_accepted i).mpr (.inr hi)
    · rw [hinv.tasks.queue]
      exact List.prefix_append _ _
  · intro hstuck
    have hsettled := hinv.settled_of_stuck hstuck
    refine ⟨?_, hsettled⟩
    rw [hinv.tasks.queue, hsettled.tasks, List.append_nil]
  · have hbound := (ranking task hn).countP_internal_le (.start task) hrun
    have hstart : (ranking task hn).rank (start (workerThreads workerCount)) = _ :=
      rank_start (ι := ι) (κ := Unit) (ε := ε) (α := α)
    rw [hstart] at hbound
    exact le_trans (Nat.le_add_right _ _) hbound
  · intro i hstop hidle
    have hthrow : step task p (.submitLock i) = some (p.setSubmit i .threw) := by
      simp [step, submitLock, hidle, hstop]
    refine ⟨_, hthrow, by simp, rfl, fun r hr => ?_⟩
    have hthrew : r.submits i = .threw :=
      hr.invariant (P := fun q => q.submits i = .threw) (by simp)
        fun _ _ _ ht hstep => threw_of_effect (step_effect hstep) ht
    exact (Inv.of_reachable hn ((hreach.next hthrow).trans hr)).untouched_of_threw hthrew
  · exact fun hret => hinv.drained_of_exited hn (hinv.exited_of_returned hret)

def onlyWorker : Fin (workerThreads 1) := ⟨0, workerThreads_pos 1⟩

/-- One worker that runs a task that throws, and the stop. -/
def sampleSchedule : List (Action Bool Unit (workerThreads 1)) :=
  let worker := onlyWorker
  [.workerLock worker, .submitLock true, .notifyOne true (some worker), .workerLock worker,
    .shutdownLock (), .finish worker, .notifyAll (), .workerLock worker, .join (), .join ()]

def sampleTask : Bool → Except String Unit := fun _ => .error "boom"

theorem sampleSchedule_isSome :
    (run (step sampleTask) (start (workerThreads 1)) sampleSchedule).isSome = true := by
  decide

def sampleEnd : ThreadPool Bool Unit String Unit (workerThreads 1) :=
  (run (step sampleTask) (start (workerThreads 1)) sampleSchedule).get sampleSchedule_isSome

theorem fifo_and_drained_sample :
    Fifo sampleSchedule sampleEnd ∧ Drained sampleTask sampleEnd ∧
      ∃ q, step sampleTask sampleEnd (.submitLock false) = some q ∧ q.submits false = .threw ∧
        q.tasks = sampleEnd.tasks ∧ ∀ r, Reachable (step sampleTask) q r → Untouched false r :=
  have hrun : run (step sampleTask) (start (workerThreads 1)) sampleSchedule = some sampleEnd :=
    (Option.some_get sampleSchedule_isSome).symm
  have h := fifo_and_drained 1 sampleTask sampleSchedule sampleEnd hrun
  ⟨h.1, h.2.2.2.2 (by decide), h.2.2.2.1 false (by decide) (by decide)⟩

/-- In every reachable state, with any number of calls of `shutdown`: a task in
the queue has an awake worker or a pending notification, and after the stop no
worker sleeps unless `notify_all` is pending. So no state is stuck with work to
do or with a call of `shutdown` waiting. -/
theorem no_lost_wakeup (workerCount : ℕ) (task : ι → Except ε α)
    {p : ThreadPool ι κ ε α (workerThreads workerCount)}
    (h : Reachable (step task) (start (workerThreads workerCount)) p) :
    (p.tasks ≠ [] → (∃ w, p.workers w ≠ .asleep ∧ p.workers w ≠ .exited) ∨
        (∃ i, p.submits i = .pushed) ∨ ∃ k, p.shutdowns k = .stopped) ∧
      (p.stopping = true → (∃ w, p.workers w = .asleep) → ∃ k, p.shutdowns k = .stopped) ∧
      (Stuck (step task) Action.internal p → Settled task p) := by
  have hinv : Inv task p := .of_reachable (workerThreads_pos workerCount) h
  refine ⟨hinv.wake.notified, ?_, hinv.settled_of_stuck⟩
  rintro hstop ⟨w, hw⟩
  exact hinv.wake.asleep w hw hstop

theorem no_lost_wakeup_sample :
    sampleEnd.stopping = true ∧ ¬ ∃ w, sampleEnd.workers w = .asleep :=
  have h := no_lost_wakeup 1 sampleTask (reachable_get sampleSchedule_isSome)
  have hnobody : ¬ ∃ k, sampleEnd.shutdowns k = .stopped := by
    rintro ⟨k, hk⟩
    cases k
    exact absurd hk (by decide)
  ⟨by decide, fun hasleep => hnobody (h.2.1 (by decide) hasleep)⟩

end Steps

end DeviceDiscovery.Threading.ThreadPool
