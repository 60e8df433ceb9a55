import DeviceDiscovery.Threading.ThreadPool

/-!
What every interleaving keeps (`threading/thread_pool.cpp`).

The invariant has three parts. `QueueInv` is about the tasks: the accepted ones
are the dequeued ones followed by the queued ones, and a dequeued one either has
its result stored or is being run by exactly one worker. `ShutdownInv` is about
the call that set `stopping_`: it alone notifies all workers and joins them, and
what it has joined has exited. `WakeInv` is about the condition variable: no
worker exits before the queue is drained, no worker sleeps through a stop, and a
task in the queue is never left to sleeping workers alone.
-/

namespace DeviceDiscovery.Threading.ThreadPool

open Foundation

variable {ι κ ε α : Type*} {n : ℕ}

/-- A call of `submit` that queued its task. -/
def IsAccepted (p : ThreadPool ι κ ε α n) (i : ι) : Prop :=
  p.submits i = .pushed ∨ p.submits i = .returned

/-- A worker that is neither asleep nor gone. -/
def IsAwake (p : ThreadPool ι κ ε α n) (w : Fin n) : Prop :=
  p.workers w ≠ .asleep ∧ p.workers w ≠ .exited

/-- A notification that is still to be issued. -/
def NotifyPending (p : ThreadPool ι κ ε α n) : Prop :=
  (∃ i, p.submits i = .pushed) ∨ ∃ k, p.shutdowns k = .stopped

/-- The tasks of accepted calls, from the queue to the future. -/
structure QueueInv (task : ι → Except ε α) (p : ThreadPool ι κ ε α n) : Prop where
  queue : p.accepted = p.dequeued ++ p.tasks
  nodup : p.accepted.Nodup
  mem_accepted : ∀ i, i ∈ p.accepted ↔ p.IsAccepted i
  running : ∀ w i, p.workers w = .running i → i ∈ p.dequeued ∧ p.futures i = none
  running_unique : ∀ w v i, p.workers w = .running i → p.workers v = .running i → w = v
  dequeued : ∀ i ∈ p.dequeued, p.futures i = some (task i) ∨ ∃ w, p.workers w = .running i
  futures : ∀ i, p.futures i ≠ none → i ∈ p.dequeued

/-- The calls of `shutdown` and the workers they join. -/
structure ShutdownInv (p : ThreadPool ι κ ε α n) : Prop where
  stopping : p.stopping = true ↔ ∃ k, p.stoppedBy = some k
  stopped : ∀ k, p.shutdowns k = .stopped → p.stoppedBy = some k
  joining : ∀ k j, p.shutdowns k = .joining j →
    p.stoppedBy = some k ∧ ∀ w : Fin n, w.val < j → p.workers w = .exited
  joined : ∀ w, p.joinable w = false → p.workers w = .exited
  returned : ∀ k, p.shutdowns k = .returned →
    p.stopping = true ∧ (p.stoppedBy = some k → ∀ w, p.workers w = .exited)
  stoppedBy : ∀ k, p.stoppedBy = some k → p.shutdowns k ≠ .idle

/-- The condition variable. -/
structure WakeInv (p : ThreadPool ι κ ε α n) : Prop where
  exited : ∀ w, p.workers w = .exited → p.stopping = true ∧ p.tasks = []
  asleep : ∀ w, p.workers w = .asleep → p.stopping = true → ∃ k, p.shutdowns k = .stopped
  notified : p.tasks ≠ [] → (∃ w, p.IsAwake w) ∨ p.NotifyPending

theorem QueueInv.start (task : ι → Except ε α) :
    QueueInv task (ThreadPool.start n : ThreadPool ι κ ε α n) := by
  constructor <;> simp [IsAccepted]

theorem ShutdownInv.start : ShutdownInv (ThreadPool.start n : ThreadPool ι κ ε α n) := by
  constructor <;> simp

theorem WakeInv.start : WakeInv (ThreadPool.start n : ThreadPool ι κ ε α n) := by
  constructor <;> simp

/-! ### Tasks -/

/-- A step that leaves the queue and the futures alone, starts and ends no task
and accepts no call. -/
theorem QueueInv.congr {task : ι → Except ε α} {p q : ThreadPool ι κ ε α n} (h : QueueInv task p)
    (htasks : q.tasks = p.tasks) (hacc : q.accepted = p.accepted)
    (hdeq : q.dequeued = p.dequeued) (hfut : q.futures = p.futures)
    (hcalls : ∀ i, q.IsAccepted i ↔ p.IsAccepted i)
    (hrun : ∀ w i, q.workers w = .running i ↔ p.workers w = .running i) : QueueInv task q where
  queue := by rw [hacc, hdeq, htasks, h.queue]
  nodup := by rw [hacc]; exact h.nodup
  mem_accepted i := by rw [hacc, hcalls, h.mem_accepted]
  running w i hw := by rw [hdeq, hfut]; exact h.running w i ((hrun w i).mp hw)
  running_unique w v i hw hv :=
    h.running_unique w v i ((hrun w i).mp hw) ((hrun v i).mp hv)
  dequeued i hi := by
    rw [hdeq] at hi
    rw [hfut]
    simp only [hrun]
    exact h.dequeued i hi
  futures i hi := by
    rw [hfut] at hi
    rw [hdeq]
    exact h.futures i hi

/-- A worker that moves between two points outside the tasks. -/
theorem setWorker_running_iff {p : ThreadPool ι κ ε α n} {w : Fin n} {pc : WorkerPc ι}
    (hold : ∀ i, p.workers w ≠ .running i) (hnew : ∀ i, pc ≠ .running i) (v : Fin n) (i : ι) :
    (p.setWorker w pc).workers v = .running i ↔ p.workers v = .running i := by
  by_cases hv : v = w
  · subst hv
    simp [hold, hnew]
  · simp [hv]

theorem QueueInv.setWorker {task : ι → Except ε α} {p : ThreadPool ι κ ε α n} {w : Fin n}
    {pc : WorkerPc ι} (h : QueueInv task p) (hold : ∀ i, p.workers w ≠ .running i)
    (hnew : ∀ i, pc ≠ .running i) : QueueInv task (p.setWorker w pc) :=
  h.congr rfl rfl rfl rfl (fun _ => Iff.rfl) (setWorker_running_iff hold hnew)

theorem QueueInv.pop {task : ι → Except ε α} {p : ThreadPool ι κ ε α n} {w : Fin n} {front : ι}
    {rest : List ι} (h : QueueInv task p) (hw : p.workers w = .waiting)
    (htasks : p.tasks = front :: rest) : QueueInv task (p.pop w front rest) := by
  have hqueue : p.accepted = p.dequeued ++ front :: rest := by rw [h.queue, htasks]
  -- A queued task has not been dequeued before, so no worker runs it yet.
  have hfresh : front ∉ p.dequeued := by
    have hnodup := h.nodup
    rw [hqueue, List.nodup_append] at hnodup
    intro hmem
    exact hnodup.2.2 front hmem front (by simp) rfl
  have hold (v : Fin n) : p.workers v ≠ .running front := fun hv => hfresh (h.running v _ hv).1
  have hnone : p.futures front = none := by
    by_contra hsome
    exact hfresh (h.futures front hsome)
  have hrun (v : Fin n) (i : ι) : (p.pop w front rest).workers v = .running i ↔
      (v = w ∧ i = front) ∨ p.workers v = .running i := by
    by_cases hv : v = w
    · subst hv
      simp [hw, eq_comm]
    · simp [hv]
  refine ⟨?_, h.nodup, h.mem_accepted, ?_, ?_, ?_, ?_⟩
  · simp [hqueue]
  · intro v i hv
    rcases (hrun v i).mp hv with ⟨-, rfl⟩ | hv
    · exact ⟨by simp, hnone⟩
    · exact ⟨List.mem_append_left _ (h.running v i hv).1, (h.running v i hv).2⟩
  · intro v u i hv hu
    rcases (hrun v i).mp hv with ⟨hvw, hvi⟩ | hv' <;> rcases (hrun u i).mp hu with ⟨huw, hui⟩ | hu'
    · rw [hvw, huw]
    · exact absurd (hvi ▸ hu') (hold u)
    · exact absurd (hui ▸ hv') (hold v)
    · exact h.running_unique v u i hv' hu'
  · intro i hi
    simp only [hrun]
    rcases List.mem_append.mp hi with hi | hi
    · refine (h.dequeued i hi).imp_right ?_
      rintro ⟨v, hv⟩
      exact ⟨v, .inr hv⟩
    · exact .inr ⟨w, .inl ⟨rfl, List.mem_singleton.mp hi⟩⟩
  · intro i hi
    exact List.mem_append_left _ (h.futures i hi)

section Tasks

variable [DecidableEq ι]

/-- A call of `submit` that changes its program point and not whether its task
was accepted. -/
theorem QueueInv.setSubmit {task : ι → Except ε α} {p : ThreadPool ι κ ε α n} {i : ι}
    {pc : SubmitPc} (h : QueueInv task p)
    (hpc : (pc = .pushed ∨ pc = .returned) ↔ p.IsAccepted i) :
    QueueInv task (p.setSubmit i pc) := by
  refine h.congr rfl rfl rfl rfl ?_ (fun _ _ => Iff.rfl)
  intro j
  by_cases hj : j = i
  · subst hj
    simpa [IsAccepted] using hpc
  · simp [IsAccepted, hj]

theorem QueueInv.push {task : ι → Except ε α} {p : ThreadPool ι κ ε α n} {i : ι}
    (h : QueueInv task p) (hidle : p.submits i = .idle) : QueueInv task (p.push i) := by
  have hfresh : i ∉ p.accepted := by
    rw [h.mem_accepted]
    simp [IsAccepted, hidle]
  refine ⟨?_, ?_, ?_, h.running, h.running_unique, h.dequeued, h.futures⟩
  · simp [h.queue]
  · simpa [List.nodup_append] using ⟨h.nodup, fun a ha hai => hfresh (hai ▸ ha)⟩
  · intro j
    by_cases hj : j = i
    · subst hj
      simp [IsAccepted]
    · have hkept := h.mem_accepted j
      simp only [IsAccepted] at hkept
      simp [IsAccepted, hj, hkept]

theorem QueueInv.complete {task : ι → Except ε α} {p : ThreadPool ι κ ε α n} {w : Fin n} {i : ι}
    (h : QueueInv task p) (hw : p.workers w = .running i) :
    QueueInv task (p.complete task w i) := by
  have hrun (v : Fin n) (j : ι) : (p.complete task w i).workers v = .running j ↔
      v ≠ w ∧ p.workers v = .running j := by
    by_cases hv : v = w
    · subst hv
      simp
    · simp [hv]
  have hfut (j : ι) (hj : j ≠ i) : (p.complete task w i).futures j = p.futures j := by
    simp [hj]
  refine ⟨h.queue, h.nodup, h.mem_accepted, ?_, ?_, ?_, ?_⟩
  · intro v j hv
    obtain ⟨hne, hold⟩ := (hrun v j).mp hv
    have hj : j ≠ i := fun hji => hne (h.running_unique v w i (hji ▸ hold) hw)
    rw [hfut j hj]
    exact h.running v j hold
  · intro v u j hv hu
    exact h.running_unique v u j ((hrun v j).mp hv).2 ((hrun u j).mp hu).2
  · intro j hj
    simp only [hrun]
    by_cases hji : j = i
    · subst hji
      exact .inl (by simp)
    · rw [hfut j hji]
      refine (h.dequeued j hj).imp_right ?_
      rintro ⟨v, hv⟩
      refine ⟨v, ?_, hv⟩
      rintro rfl
      exact hji (by simpa using hv.symm.trans hw)
  · intro j hj
    by_cases hji : j = i
    · exact hji ▸ (h.running w i hw).1
    · rw [hfut j hji] at hj
      exact h.futures j hj

theorem QueueInv.effect [DecidableEq κ] {task : ι → Except ε α} {p q : ThreadPool ι κ ε α n}
    {a : Action ι κ n} (h : QueueInv task p) (he : Effect task p a q) : QueueInv task q := by
  cases he with
  | reject i hidle => exact h.setSubmit (by simp [IsAccepted, hidle])
  | push i hidle => exact h.push hidle
  | wake i w hpushed hw =>
      exact (h.setWorker (by simp [hw]) (by simp)).setSubmit (by simp [IsAccepted, hpushed])
  | wakeNobody i hpushed => exact h.setSubmit (by simp [IsAccepted, hpushed])
  | sleep w hw | exit w hw | spurious w hw => exact h.setWorker (by simp [hw]) (by simp)
  | pop w front rest hw htasks => exact h.pop hw htasks
  | complete w i hw => exact h.complete hw
  | notifyAll k =>
      refine h.congr rfl rfl rfl rfl (fun _ => Iff.rfl) ?_
      intro w i
      by_cases hw : p.workers w = .asleep <;> simp [hw]
  | already k | stop k | join k | pass k | joined k =>
      exact h.congr rfl rfl rfl rfl (fun _ => Iff.rfl) (fun _ _ => Iff.rfl)

end Tasks

/-! ### Calls of `shutdown` -/

/-- A worker that has left `worker_loop` does not come back. -/
theorem exited_of_effect [DecidableEq ι] [DecidableEq κ] {task : ι → Except ε α}
    {p q : ThreadPool ι κ ε α n} {a : Action ι κ n} (he : Effect task p a q) {w : Fin n}
    (hw : p.workers w = .exited) : q.workers w = .exited := by
  have hmoved {v : Fin n} {pc : WorkerPc ι} (hv : p.workers v ≠ .exited) :
      (p.setWorker v pc).workers w = .exited := by
    have hne : w ≠ v := fun h => hv (h ▸ hw)
    simp [hne, hw]
  cases he with
  | wake i v _ hv | spurious v hv | sleep v hv | exit v hv | pop v _ _ hv | complete v i hv =>
      exact hmoved (by simp [hv])
  | notifyAll k => simp [hw]
  | _ => exact hw

/-- A step that is not one of a call of `shutdown`. -/
theorem ShutdownInv.congr {p q : ThreadPool ι κ ε α n} (h : ShutdownInv p)
    (hstop : q.stopping = p.stopping) (hby : q.stoppedBy = p.stoppedBy)
    (hcalls : q.shutdowns = p.shutdowns) (hjoinable : q.joinable = p.joinable)
    (hexited : ∀ w, p.workers w = .exited → q.workers w = .exited) : ShutdownInv q where
  stopping := by rw [hstop, hby]; exact h.stopping
  stopped := by rw [hcalls, hby]; exact h.stopped
  joining k j hk := by
    rw [hcalls] at hk
    rw [hby]
    exact (h.joining k j hk).imp_right fun hall w hw => hexited w (hall w hw)
  joined w hw := by
    rw [hjoinable] at hw
    exact hexited w (h.joined w hw)
  returned k hk := by
    rw [hcalls] at hk
    rw [hstop, hby]
    exact (h.returned k hk).imp_right fun hall hk w => hexited w (hall hk w)
  stoppedBy := by rw [hby, hcalls]; exact h.stoppedBy

/-- The call that set `stopping_` moves to its next point. -/
theorem ShutdownInv.setShutdown [DecidableEq κ] {p : ThreadPool ι κ ε α n} {k : κ} {pc : ShutdownPc}
    (h : ShutdownInv p) (hby : p.stoppedBy = some k) (hpc : pc = .returned ∨ ∃ j, pc = .joining j)
    (hjoining : ∀ j, pc = .joining j → ∀ w : Fin n, w.val < j → p.workers w = .exited)
    (hreturned : pc = .returned → ∀ w, p.workers w = .exited) :
    ShutdownInv (p.setShutdown k pc) := by
  have hstop : p.stopping = true := h.stopping.mpr ⟨k, hby⟩
  refine ⟨h.stopping, ?_, ?_, h.joined, ?_, ?_⟩
  all_goals intro l
  all_goals by_cases hl : l = k
  · subst hl
    exact fun _ => hby
  · simpa [hl] using h.stopped l
  · subst hl
    intro j hj
    exact ⟨hby, hjoining j (by simpa using hj)⟩
  · simpa [hl] using h.joining l
  · subst hl
    intro hret
    exact ⟨hstop, fun _ => hreturned (by simpa using hret)⟩
  · simpa [hl] using h.returned l
  · subst hl
    intro _
    rcases hpc with rfl | ⟨j, rfl⟩ <;> simp
  · simpa [hl] using h.stoppedBy l

theorem ShutdownInv.effect [DecidableEq ι] [DecidableEq κ] {task : ι → Except ε α}
    {p q : ThreadPool ι κ ε α n} {a : Action ι κ n} (h : ShutdownInv p)
    (he : Effect task p a q) : ShutdownInv q := by
  have hexited (w : Fin n) : p.workers w = .exited → q.workers w = .exited := exited_of_effect he
  cases he with
  | already k hidle hstop =>
      obtain ⟨first, hfirst⟩ := h.stopping.mp hstop
      have hne : first ≠ k := fun heq => h.stoppedBy first hfirst (heq ▸ hidle)
      refine ⟨h.stopping, ?_, ?_, h.joined, ?_, ?_⟩
      all_goals intro l
      all_goals by_cases hl : l = k
      · simp [hl]
      · simpa [hl] using h.stopped l
      · simp [hl]
      · simpa [hl] using h.joining l
      · subst hl
        exact fun _ => ⟨hstop, fun hby => absurd (Option.some.inj (hfirst.symm.trans hby)) hne⟩
      · simpa [hl] using h.returned l
      · simp [hl]
      · simpa [hl] using h.stoppedBy l
  | stop k hidle hstop =>
      have hnobody (l : κ) : p.stoppedBy ≠ some l := by
        intro hl
        have htrue := h.stopping.mpr ⟨l, hl⟩
        simp [hstop] at htrue
      refine ⟨by simp, ?_, ?_, h.joined, ?_, ?_⟩
      all_goals intro l
      all_goals by_cases hl : l = k
      · simp [hl]
      · intro hst
        exact absurd (h.stopped l (by simpa [hl] using hst)) (hnobody l)
      · simp [hl]
      · intro j hj
        exact absurd (h.joining l j (by simpa [hl] using hj)).1 (hnobody l)
      · simp [hl]
      · intro hret
        have htrue := (h.returned l (by simpa [hl] using hret)).1
        simp [hstop] at htrue
      · simp [hl]
      · intro hby
        exact absurd (by simpa using hby.symm) hl
  | notifyAll k hk =>
      have hwoken : ShutdownInv p.wakeAll := h.congr rfl rfl rfl rfl hexited
      exact hwoken.setShutdown (h.stopped k hk) (.inr ⟨0, rfl⟩) (by simp) (by simp)
  | join k j hj hk hjoinable hw =>
      obtain ⟨hby, hbefore⟩ := h.joining k j hk
      have hjoined : ShutdownInv (p.setJoined ⟨j, hj⟩) := by
        refine ⟨h.stopping, h.stopped, h.joining, ?_, h.returned, h.stoppedBy⟩
        intro w hfalse
        by_cases hwj : w = ⟨j, hj⟩
        · exact hwj ▸ hw
        · exact h.joined w (by simpa [hwj] using hfalse)
      refine hjoined.setShutdown hby (.inr ⟨j + 1, rfl⟩) ?_ (by simp)
      rintro i hi w hlt
      obtain rfl : j + 1 = i := by simpa using hi
      by_cases hwj : w.val = j
      · have : w = ⟨j, hj⟩ := Fin.ext hwj
        exact this ▸ hw
      · exact hbefore w (by omega)
  | pass k j hj hk hjoinable =>
      obtain ⟨hby, hbefore⟩ := h.joining k j hk
      refine h.setShutdown hby (.inr ⟨j + 1, rfl⟩) ?_ (by simp)
      rintro i hi w hlt
      obtain rfl : j + 1 = i := by simpa using hi
      by_cases hwj : w.val = j
      · have : w = ⟨j, hj⟩ := Fin.ext hwj
        exact this ▸ h.joined _ hjoinable
      · exact hbefore w (by omega)
  | joined k j hk hle =>
      obtain ⟨hby, hbefore⟩ := h.joining k j hk
      exact h.setShutdown hby (.inl rfl) (by simp) fun _ w => hbefore w (by omega)
  | _ => exact h.congr rfl rfl rfl rfl hexited

/-! ### The condition variable -/

/-- With tasks in the queue no worker has exited, so one that does not sleep is
awake. -/
theorem WakeInv.exists_awake {p : ThreadPool ι κ ε α n} (h : WakeInv p) (hn : 0 < n)
    (htasks : p.tasks ≠ []) (hnobody : ∀ w, p.workers w ≠ .asleep) : ∃ w, p.IsAwake w :=
  ⟨⟨0, hn⟩, hnobody _, fun hexited => htasks (h.exited _ hexited).2⟩

/-- A worker that is woken, or comes back from a task. -/
theorem WakeInv.setWorker {p : ThreadPool ι κ ε α n} {w : Fin n} {pc : WorkerPc ι}
    (h : WakeInv p) (hasleep : pc ≠ .asleep) (hexited : pc ≠ .exited) :
    WakeInv (p.setWorker w pc) := by
  refine ⟨?_, ?_, ?_⟩
  · intro v
    by_cases hv : v = w
    · subst hv
      simp [hexited]
    · simpa [hv] using h.exited v
  · intro v
    by_cases hv : v = w
    · subst hv
      simp [hasleep]
    · simpa [hv] using h.asleep v
  · exact fun _ => .inl ⟨w, by simp [IsAwake, hasleep, hexited]⟩

/-- A call of `submit` that leaves when some worker is awake to take its task. -/
theorem WakeInv.setSubmit_of_awake [DecidableEq ι] {p : ThreadPool ι κ ε α n} {i : ι}
    {pc : SubmitPc} (h : WakeInv p) (hawake : p.tasks ≠ [] → ∃ w, p.IsAwake w) :
    WakeInv (p.setSubmit i pc) :=
  ⟨h.exited, h.asleep, fun htasks => .inl (hawake htasks)⟩

/-- A call of `submit` that had no notification to issue. -/
theorem WakeInv.setSubmit [DecidableEq ι] {p : ThreadPool ι κ ε α n} {i : ι} {pc : SubmitPc}
    (h : WakeInv p) (hi : p.submits i ≠ .pushed) : WakeInv (p.setSubmit i pc) := by
  refine ⟨h.exited, h.asleep, fun htasks => (h.notified htasks).imp_right ?_⟩
  rintro (⟨j, hj⟩ | hstopped)
  · have hne : j ≠ i := fun hji => hi (hji ▸ hj)
    exact .inl ⟨j, by simp [hne, hj]⟩
  · exact .inr hstopped

/-- A call of `shutdown` that had no notification to issue. -/
theorem WakeInv.setShutdown [DecidableEq κ] {p : ThreadPool ι κ ε α n} {k : κ}
    {pc : ShutdownPc} (h : WakeInv p) (hk : p.shutdowns k ≠ .stopped) :
    WakeInv (p.setShutdown k pc) := by
  have hkept {l : κ} (hl : p.shutdowns l = .stopped) :
      (p.setShutdown k pc).shutdowns l = .stopped := by
    have hne : l ≠ k := fun hlk => hk (hlk ▸ hl)
    simp [hne, hl]
  refine ⟨h.exited, ?_, fun htasks => (h.notified htasks).imp_right ?_⟩
  · intro w hw hstop
    obtain ⟨l, hl⟩ := h.asleep w hw hstop
    exact ⟨l, hkept hl⟩
  · rintro (hpushed | ⟨l, hl⟩)
    · exact .inl hpushed
    · exact .inr ⟨l, hkept hl⟩

theorem WakeInv.effect [DecidableEq ι] [DecidableEq κ] {task : ι → Except ε α}
    {p q : ThreadPool ι κ ε α n} {a : Action ι κ n} (hn : 0 < n) (h : WakeInv p)
    (he : Effect task p a q) : WakeInv q := by
  cases he with
  | reject i hidle => exact h.setSubmit (by simp [hidle])
  | push i hidle hstop =>
      -- Before a stop no worker has exited, and the new task is announced.
      refine ⟨fun w hw => ?_, fun w _ htrue => ?_, fun _ => .inr (.inl ⟨i, by simp⟩)⟩
      · have htrue := (h.exited w hw).1
        simp [hstop] at htrue
      · simp [hstop] at htrue
  | wake i w =>
      have hwoken : WakeInv (p.setWorker w .waiting) := h.setWorker (by simp) (by simp)
      exact hwoken.setSubmit_of_awake fun _ => ⟨w, by simp [IsAwake]⟩
  | wakeNobody i hpushed hnobody =>
      exact h.setSubmit_of_awake fun htasks => h.exists_awake hn htasks hnobody
  | sleep w hw hstop htasks =>
      refine ⟨fun v hv => ?_, fun v _ htrue => ?_, fun hne => absurd htasks hne⟩
      · have hvw : v ≠ w := by
          rintro rfl
          simp at hv
        exact h.exited v (by simpa [hvw] using hv)
      · simp [hstop] at htrue
  | exit w hw hstop htasks =>
      refine ⟨fun v _ => ⟨hstop, htasks⟩, fun v hv _ => ?_, fun hne => absurd htasks hne⟩
      have hvw : v ≠ w := by
        rintro rfl
        simp at hv
      exact h.asleep v (by simpa [hvw] using hv) hstop
  | pop w front rest hw htasks =>
      have hrunning : WakeInv (p.setWorker w (.running front)) := h.setWorker (by simp) (by simp)
      refine ⟨fun v hv => ?_, hrunning.asleep, fun _ => .inl ⟨w, by simp [IsAwake]⟩⟩
      have hnil : p.tasks = [] := (hrunning.exited v hv).2
      simp [htasks] at hnil
  | complete w i =>
      have hback : WakeInv (p.setWorker w .waiting) := h.setWorker (by simp) (by simp)
      exact ⟨hback.exited, hback.asleep, hback.notified⟩
  | spurious w => exact h.setWorker (by simp) (by simp)
  | already k hidle => exact h.setShutdown (by simp [hidle])
  | stop k =>
      refine ⟨fun w hw => ⟨rfl, (h.exited w hw).2⟩, fun _ _ _ => ⟨k, by simp⟩, fun _ => ?_⟩
      exact .inr (.inr ⟨k, by simp⟩)
  | notifyAll k =>
      have hnobody (w : Fin n) : p.wakeAll.workers w ≠ .asleep := by
        by_cases hw : p.workers w = .asleep <;> simp [hw]
      have hexited (w : Fin n) (hw : p.wakeAll.workers w = .exited) : p.workers w = .exited := by
        by_cases hasleep : p.workers w = .asleep
        · simp [hasleep] at hw
        · simpa [hasleep] using hw
      refine ⟨fun w hw => h.exited w (hexited w hw), fun w hw => absurd hw (hnobody w), ?_⟩
      intro htasks
      exact .inl ⟨⟨0, hn⟩, hnobody _, fun hw => htasks (h.exited _ (hexited _ hw)).2⟩
  | join k j hj hk =>
      have hmoved : WakeInv (p.setShutdown k (.joining (j + 1))) := h.setShutdown (by simp [hk])
      exact ⟨hmoved.exited, hmoved.asleep, hmoved.notified⟩
  | pass k j hj hk | joined k j hk => exact h.setShutdown (by simp [hk])

/-! ### All three together -/

/-- The invariant of the pool. -/
structure Inv (task : ι → Except ε α) (p : ThreadPool ι κ ε α n) : Prop where
  tasks : QueueInv task p
  shutdown : ShutdownInv p
  wake : WakeInv p

theorem Inv.start (task : ι → Except ε α) :
    Inv task (ThreadPool.start n : ThreadPool ι κ ε α n) :=
  ⟨.start task, .start, .start⟩

section Steps

variable [DecidableEq ι] [DecidableEq κ]

theorem Inv.step {task : ι → Except ε α} (hn : 0 < n) {p q : ThreadPool ι κ ε α n}
    {a : Action ι κ n} (h : Inv task p) (hstep : ThreadPool.step task p a = some q) :
    Inv task q :=
  have he := step_effect hstep
  ⟨h.tasks.effect he, h.shutdown.effect he, h.wake.effect hn he⟩

theorem Inv.of_reachable {task : ι → Except ε α} (hn : 0 < n) {p : ThreadPool ι κ ε α n}
    (h : Reachable (ThreadPool.step task) (ThreadPool.start n) p) : Inv task p :=
  h.invariant (.start task) fun _ _ _ hp hstep => hp.step hn hstep

end Steps

end DeviceDiscovery.Threading.ThreadPool
