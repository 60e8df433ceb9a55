import DeviceDiscovery.Threading.Contract

/-!
Several calls of `shutdown` at a time (`threading/thread_pool.cpp`).

Only the call that sets `stopping_` waits for the workers. A call that finds it
set returns at once, and what its caller then knows of the pool is what was so
already. Here it is determined for every run what such calls may find, so that
each return comes after the drain.
-/

namespace DeviceDiscovery.Threading.ThreadPool

open Foundation

variable {ι κ ε α : Type*} {n : ℕ} [DecidableEq ι] [DecidableEq κ]

/-- In every state of the run the pool is drained once a call of `shutdown` has
returned. -/
def EachReturnDrained (task : ι → Except ε α) (as : List (Action ι κ n)) : Prop :=
  ∀ before, before <+: as → ∀ p, run (step task) (start n) before = some p →
    ∀ k, p.shutdowns k = .returned → Drained task p

/-- What the calls of `shutdown` that return early, because `stopping_` is set, find
the pool in. -/
def EarlyReturnsFind (P : ThreadPool ι κ ε α n → Prop) (task : ι → Except ε α)
    (as : List (Action ι κ n)) : Prop :=
  ∀ before k, before ++ [.shutdownLock k] <+: as → ∀ p,
    run (step task) (start n) before = some p → p.shutdowns k = .idle → p.stopping = true → P p

/-- All workers have left `worker_loop`. -/
def WorkersExited (p : ThreadPool ι κ ε α n) : Prop := ∀ w, p.workers w = .exited

/-- The call that set `stopping_` has returned. -/
def FirstReturned (p : ThreadPool ι κ ε α n) : Prop :=
  ∃ first, p.stoppedBy = some first ∧ p.shutdowns first = .returned

/-! ### One step -/

/-- A call returns early, or at the end of its loop over the workers. -/
theorem returned_of_effect {task : ι → Except ε α} {p q : ThreadPool ι κ ε α n} {a : Action ι κ n}
    (he : Effect task p a q) {k : κ} (hk : q.shutdowns k = .returned) :
    p.shutdowns k = .returned ∨
      (q.workers = p.workers ∧ a = .shutdownLock k ∧ p.shutdowns k = .idle ∧ p.stopping = true) ∨
      (q.workers = p.workers ∧ ∃ j, p.shutdowns k = .joining j ∧ n ≤ j) := by
  -- A call that moves to another point has not returned by it.
  have hmoved {l : κ} {pc : ShutdownPc} (hpc : pc ≠ .returned)
      (h : Function.update p.shutdowns l pc k = .returned) : p.shutdowns k = .returned := by
    by_cases hl : k = l
    · subst hl
      rw [Function.update_self] at h
      exact absurd h hpc
    · rwa [Function.update_of_ne hl] at h
  cases he with
  | already l hidle hstop =>
      by_cases hl : k = l
      · subst hl
        exact .inr (.inl ⟨rfl, rfl, hidle, hstop⟩)
      · exact .inl (by simpa [hl] using hk)
  | joined l j hjoining hj =>
      by_cases hl : k = l
      · subst hl
        exact .inr (.inr ⟨rfl, j, hjoining, hj⟩)
      · exact .inl (by simpa [hl] using hk)
  | stop l | notifyAll l | join l | pass l => exact .inl (hmoved (by simp) hk)
  | _ => exact .inl hk

/-- When the early returns find the workers gone, so does every return. -/
theorem exited_of_effect_of_returned {task : ι → Except ε α} {p q : ThreadPool ι κ ε α n}
    {a : Action ι κ n} (hinv : Inv task p)
    (hreturned : ∀ k, p.shutdowns k = .returned → WorkersExited p) (he : Effect task p a q)
    (hearly : ∀ k, a = .shutdownLock k → p.shutdowns k = .idle → p.stopping = true →
      WorkersExited p) {k : κ} (hk : q.shutdowns k = .returned) : WorkersExited q := by
  obtain hold | ⟨-, ha, hidle, hstop⟩ | ⟨-, j, hjoining, hj⟩ := returned_of_effect he hk
  · exact fun w => exited_of_effect he (hreturned k hold w)
  · exact fun w => exited_of_effect he (hearly k ha hidle hstop w)
  · intro w
    exact exited_of_effect he ((hinv.shutdown.joining k j hjoining).2 w (by omega))

/-! ### Runs -/

theorem exited_of_earlyReturns {task : ι → Except ε α} (hn : 0 < n) {as : List (Action ι κ n)}
    (h : EarlyReturnsFind WorkersExited task as) : ∀ p, run (step task) (start n) as = some p →
      ∀ k, p.shutdowns k = .returned → WorkersExited p := by
  -- The invariant is carried along for the call that waits: it has joined all workers.
  have hkey : ∀ before p, run (step task) (start n) before = some p →
      Inv task p ∧ (before <+: as → ∀ k, p.shutdowns k = .returned → WorkersExited p) := by
    refine run_induction (P := fun before p => Inv task p ∧ (before <+: as → ∀ k,
      p.shutdowns k = .returned → WorkersExited p)) ⟨.start task, ?_⟩ ?_
    · intro _ k hk
      cases hk
    · rintro before p a q hrun ⟨hinv, hreturned⟩ hstep
      refine ⟨hinv.step hn hstep, fun hprefix k hk => ?_⟩
      have hbefore : before <+: as := (List.prefix_append before [a]).trans hprefix
      refine exited_of_effect_of_returned hinv (hreturned hbefore) (step_effect hstep) ?_ hk
      rintro l rfl hidle hstop
      exact h before l hprefix p hrun hidle hstop
  intro p hrun
  exact (hkey as p hrun).2 (List.prefix_refl as)

/-- When every return of `shutdown` comes after the drain, for any number of calls and
in every run: exactly when the calls that return early find all workers gone. They do
when the call that set `stopping_` has returned by then. -/
theorem each_return_drained_iff (workerCount : ℕ) (task : ι → Except ε α)
    (as : List (Action ι κ (workerThreads workerCount))) :
    (EachReturnDrained task as ↔ EarlyReturnsFind WorkersExited task as) ∧
      (EarlyReturnsFind FirstReturned task as → EachReturnDrained task as) := by
  have hn := workerThreads_pos workerCount
  have hinv {before : List (Action ι κ (workerThreads workerCount))}
      {p : ThreadPool ι κ ε α (workerThreads workerCount)}
      (hrun : run (step task) (start _) before = some p) : Inv task p :=
    .of_reachable hn (reachable_iff_run.mpr ⟨before, hrun⟩)
  have hiff : EachReturnDrained task as ↔ EarlyReturnsFind WorkersExited task as := by
    constructor
    · -- An early return is a step of its own, and leaves the workers as they are.
      intro h before k hprefix p hrun hidle hstop
      have hstep : step task p (.shutdownLock k) = some (p.setShutdown k .returned) := by
        simp [step, shutdownLock, hidle, hstop]
      have hnext := run_concat_eq_some.mpr ⟨p, hrun, hstep⟩
      exact (h _ hprefix _ hnext k (by simp)).exited
    · intro h before hprefix p hrun k hk
      have hearly : EarlyReturnsFind WorkersExited task before :=
        fun early l hl => h early l (hl.trans hprefix)
      exact (hinv hrun).drained_of_exited hn (exited_of_earlyReturns hn hearly p hrun k hk)
  refine ⟨hiff, fun h => hiff.mpr fun before k hprefix p hrun hidle hstop => ?_⟩
  obtain ⟨first, hfirst, hreturned⟩ := h before k hprefix p hrun hidle hstop
  exact ((hinv hrun).shutdown.returned first hreturned).2 hfirst

/-- Two calls, the second while the only worker runs a task. -/
def overlappingSchedule : List (Action Unit Bool (workerThreads 1)) :=
  let worker := onlyWorker
  [.submitLock (), .notifyOne () none, .workerLock worker, .shutdownLock false,
    .shutdownLock true]

def overlappingTask : Unit → Except String Unit := fun _ => .ok ()

theorem overlappingSchedule_isSome :
    (run (step overlappingTask) (start (workerThreads 1)) overlappingSchedule).isSome = true := by
  decide

/-- The second call has returned, and the task is not finished. -/
theorem second_shutdown_returns_early :
    let p := (run (step overlappingTask) (start (workerThreads 1)) overlappingSchedule).get
      overlappingSchedule_isSome
    p.shutdowns true = .returned ∧ p.workers ⟨0, workerThreads_pos 1⟩ = .running () ∧
      p.accepted = [()] ∧ p.futures () = none ∧
      ¬EachReturnDrained overlappingTask overlappingSchedule := by
  refine ⟨by decide, by decide, by decide, by decide, fun h => ?_⟩
  have hrun := (Option.some_get overlappingSchedule_isSome).symm
  have hdrained := h _ (List.prefix_refl _) _ hrun true (by decide)
  exact absurd (hdrained.exited ⟨0, workerThreads_pos 1⟩) (by decide)

end DeviceDiscovery.Threading.ThreadPool
