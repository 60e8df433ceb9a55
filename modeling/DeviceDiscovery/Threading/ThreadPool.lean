import DeviceDiscovery.Foundation.Transition

/-!
The thread pool (`threading/thread_pool.cpp`, `threading/thread_pool.hpp`).

The state holds the queue, the flag `stopping_`, and the program point of every
thread that takes part: the workers in `worker_loop`, the calls of `submit` and
the calls of `shutdown`. A step is what one thread does between two points where
another thread can be seen to interfere: a critical section of the mutex, a
notification (issued after the mutex is released), the end of a task, or the
return of one `join`. An interleaving is a list of steps.

A sleeping worker leaves `cv_` when a notification picks it or spuriously. It
then takes the mutex again and tests the predicate, and nothing else happens in
between, so it is once more at the point `waiting`.

`ι` names the calls of `submit`, from any number of threads, including the
tasks' own; a call runs once, so it also names its task and its future. `κ`
names the calls of `shutdown`, the destructor's among them. Tasks return a value
or throw, and the packaged task stores either in the future.
-/

namespace DeviceDiscovery.Threading

open Foundation

/-- Where a worker is in `worker_loop`. -/
inductive WorkerPc (ι : Type*) where
  /-- About to take the mutex and test the predicate of `cv_.wait`. -/
  | waiting
  | asleep
  | running (call : ι)
  | exited
  deriving DecidableEq, Repr

/-- Where a call of `submit` is. -/
inductive SubmitPc where
  | idle
  /-- The task is queued and `notify_one` is still to be issued. -/
  | pushed
  | returned
  | threw
  deriving DecidableEq, Repr

/-- Where a call of `shutdown` is. -/
inductive ShutdownPc where
  | idle
  /-- `stopping_` is set and `notify_all` is still to be issued. -/
  | stopped
  /-- In the loop over the workers, at the worker of this number. -/
  | joining (worker : ℕ)
  | returned
  deriving DecidableEq, Repr

/-- The pool and the threads that use it. The last three fields record the
history and decide nothing: the calls that queued their task in the order in
which they held the mutex, the tasks taken from the queue in that order, and
the call of `shutdown` that set `stopping_`. -/
structure ThreadPool (ι κ ε α : Type*) (n : ℕ) where
  tasks : List ι
  stopping : Bool
  workers : Fin n → WorkerPc ι
  joinable : Fin n → Bool
  submits : ι → SubmitPc
  shutdowns : κ → ShutdownPc
  futures : ι → Option (Except ε α)
  accepted : List ι
  dequeued : List ι
  stoppedBy : Option κ

namespace ThreadPool

variable {ι κ ε α : Type*} {n : ℕ}

/-- The number of workers the constructor starts. -/
def workerThreads (workerCount : ℕ) : ℕ := max 1 workerCount

/-- The pool after its constructor. -/
@[simps] def start (n : ℕ) : ThreadPool ι κ ε α n where
  tasks := []
  stopping := false
  workers := fun _ => .waiting
  joinable := fun _ => true
  submits := fun _ => .idle
  shutdowns := fun _ => .idle
  futures := fun _ => none
  accepted := []
  dequeued := []
  stoppedBy := none

variable [DecidableEq ι] [DecidableEq κ]

@[simps] def setWorker (p : ThreadPool ι κ ε α n) (w : Fin n) (pc : WorkerPc ι) :
    ThreadPool ι κ ε α n :=
  { p with workers := Function.update p.workers w pc }

@[simps] def setSubmit (p : ThreadPool ι κ ε α n) (i : ι) (pc : SubmitPc) : ThreadPool ι κ ε α n :=
  { p with submits := Function.update p.submits i pc }

@[simps] def setShutdown (p : ThreadPool ι κ ε α n) (k : κ) (pc : ShutdownPc) :
    ThreadPool ι κ ε α n :=
  { p with shutdowns := Function.update p.shutdowns k pc }

/-! ### `submit` -/

/-- `tasks_.emplace` on behalf of the call `i`. -/
@[simps] def push (p : ThreadPool ι κ ε α n) (i : ι) : ThreadPool ι κ ε α n :=
  { p.setSubmit i .pushed with tasks := p.tasks ++ [i], accepted := p.accepted ++ [i] }

/-- The critical section of `submit`. -/
def submitLock (p : ThreadPool ι κ ε α n) (i : ι) : Option (ThreadPool ι κ ε α n) :=
  if p.submits i = .idle then
    if p.stopping then some (p.setSubmit i .threw)
    else some (p.push i)
  else none

/-- `cv_.notify_one()`: one of the sleeping workers is woken, or there is none. -/
def notifyOne (p : ThreadPool ι κ ε α n) (i : ι) (woken : Option (Fin n)) :
    Option (ThreadPool ι κ ε α n) :=
  if p.submits i = .pushed then
    match woken with
    | some w =>
        if p.workers w = .asleep then some ((p.setWorker w .waiting).setSubmit i .returned)
        else none
    | none => if ∀ w, p.workers w ≠ .asleep then some (p.setSubmit i .returned) else none
  else none

/-! ### `worker_loop` -/

/-- The worker takes the front of the queue. -/
@[simps] def pop (p : ThreadPool ι κ ε α n) (w : Fin n) (front : ι) (rest : List ι) :
    ThreadPool ι κ ε α n :=
  { p.setWorker w (.running front) with tasks := rest, dequeued := p.dequeued ++ [front] }

/-- One critical section of `worker_loop`: the test of the predicate, and when
it holds what follows up to the release of the mutex. -/
def workerLock (p : ThreadPool ι κ ε α n) (w : Fin n) : Option (ThreadPool ι κ ε α n) :=
  if p.workers w = .waiting then
    if !(p.stopping || !p.tasks.isEmpty) then some (p.setWorker w .asleep)
    else
      match p.tasks with
      | [] => if p.stopping then some (p.setWorker w .exited) else some (p.setWorker w .waiting)
      | front :: rest => some (p.pop w front rest)
  else none

/-- The packaged task stores what it ended with in the future. -/
@[simps] def complete (task : ι → Except ε α) (p : ThreadPool ι κ ε α n) (w : Fin n) (i : ι) :
    ThreadPool ι κ ε α n :=
  { p.setWorker w .waiting with futures := Function.update p.futures i (some (task i)) }

/-- `task()` comes to its end. -/
def finish (task : ι → Except ε α) (p : ThreadPool ι κ ε α n) (w : Fin n) :
    Option (ThreadPool ι κ ε α n) :=
  match p.workers w with
  | .running i => some (p.complete task w i)
  | _ => none

/-- A wake-up without a notification. -/
def spuriousWake (p : ThreadPool ι κ ε α n) (w : Fin n) : Option (ThreadPool ι κ ε α n) :=
  if p.workers w = .asleep then some (p.setWorker w .waiting) else none

/-! ### `shutdown` -/

/-- The call `k` sets `stopping_`. -/
@[simps] def stop (p : ThreadPool ι κ ε α n) (k : κ) : ThreadPool ι κ ε α n :=
  { p.setShutdown k .stopped with stopping := true, stoppedBy := some k }

/-- The critical section of `shutdown`. -/
def shutdownLock (p : ThreadPool ι κ ε α n) (k : κ) : Option (ThreadPool ι κ ε α n) :=
  if p.shutdowns k = .idle then
    if p.stopping then some (p.setShutdown k .returned)
    else some (p.stop k)
  else none

/-- Every sleeping worker leaves `cv_`. -/
@[simps] def wakeAll (p : ThreadPool ι κ ε α n) : ThreadPool ι κ ε α n :=
  { p with workers := fun w => if p.workers w = .asleep then .waiting else p.workers w }

/-- `cv_.notify_all()`. -/
def notifyAll (p : ThreadPool ι κ ε α n) (k : κ) : Option (ThreadPool ι κ ε α n) :=
  if p.shutdowns k = .stopped then
    some (p.wakeAll.setShutdown k (.joining 0))
  else none

/-- The thread of a worker is joined. -/
@[simps] def setJoined (p : ThreadPool ι κ ε α n) (w : Fin n) : ThreadPool ι κ ε α n :=
  { p with joinable := Function.update p.joinable w false }

/-- One turn of the loop over the workers, or its end. A turn that has to join
waits for the worker to leave `worker_loop`. -/
def join (p : ThreadPool ι κ ε α n) (k : κ) : Option (ThreadPool ι κ ε α n) :=
  match p.shutdowns k with
  | .joining j =>
      if hj : j < n then
        let w : Fin n := ⟨j, hj⟩
        if p.joinable w then
          if p.workers w = .exited then
            some ((p.setJoined w).setShutdown k (.joining (j + 1)))
          else none
        else some (p.setShutdown k (.joining (j + 1)))
      else some (p.setShutdown k .returned)
  | _ => none

/-! ### Steps -/

inductive Action (ι κ : Type*) (n : ℕ) where
  | submitLock (i : ι)
  | notifyOne (i : ι) (woken : Option (Fin n))
  | workerLock (w : Fin n)
  | finish (w : Fin n)
  | spuriousWake (w : Fin n)
  | shutdownLock (k : κ)
  | notifyAll (k : κ)
  | join (k : κ)
  deriving DecidableEq, Repr

/-- The steps of calls and of workers that are under way. The others are the
environment's: a new call, and a wake-up without a reason. -/
def Action.internal : Action ι κ n → Bool
  | .notifyOne _ _ | .workerLock _ | .finish _ | .notifyAll _ | .join _ => true
  | .submitLock _ | .spuriousWake _ | .shutdownLock _ => false

def step (task : ι → Except ε α) (p : ThreadPool ι κ ε α n) :
    Action ι κ n → Option (ThreadPool ι κ ε α n)
  | .submitLock i => p.submitLock i
  | .notifyOne i woken => p.notifyOne i woken
  | .workerLock w => p.workerLock w
  | .finish w => p.finish task w
  | .spuriousWake w => p.spuriousWake w
  | .shutdownLock k => p.shutdownLock k
  | .notifyAll k => p.notifyAll k
  | .join k => p.join k

/-- What a step can do, guards included. The `continue` of `worker_loop` is not
among the cases: a worker that passes the predicate over an empty queue has seen
`stopping_`. -/
inductive Effect (task : ι → Except ε α) (p : ThreadPool ι κ ε α n) :
    Action ι κ n → ThreadPool ι κ ε α n → Prop where
  | reject (i : ι) : p.submits i = .idle → p.stopping = true →
      Effect task p (.submitLock i) (p.setSubmit i .threw)
  | push (i : ι) : p.submits i = .idle → p.stopping = false →
      Effect task p (.submitLock i) (p.push i)
  | wake (i : ι) (w : Fin n) : p.submits i = .pushed → p.workers w = .asleep →
      Effect task p (.notifyOne i (some w)) ((p.setWorker w .waiting).setSubmit i .returned)
  | wakeNobody (i : ι) : p.submits i = .pushed → (∀ w, p.workers w ≠ .asleep) →
      Effect task p (.notifyOne i none) (p.setSubmit i .returned)
  | sleep (w : Fin n) : p.workers w = .waiting → p.stopping = false → p.tasks = [] →
      Effect task p (.workerLock w) (p.setWorker w .asleep)
  | exit (w : Fin n) : p.workers w = .waiting → p.stopping = true → p.tasks = [] →
      Effect task p (.workerLock w) (p.setWorker w .exited)
  | pop (w : Fin n) (front : ι) (rest : List ι) : p.workers w = .waiting →
      p.tasks = front :: rest → Effect task p (.workerLock w) (p.pop w front rest)
  | complete (w : Fin n) (i : ι) : p.workers w = .running i →
      Effect task p (.finish w) (p.complete task w i)
  | spurious (w : Fin n) : p.workers w = .asleep →
      Effect task p (.spuriousWake w) (p.setWorker w .waiting)
  | already (k : κ) : p.shutdowns k = .idle → p.stopping = true →
      Effect task p (.shutdownLock k) (p.setShutdown k .returned)
  | stop (k : κ) : p.shutdowns k = .idle → p.stopping = false →
      Effect task p (.shutdownLock k) (p.stop k)
  | notifyAll (k : κ) : p.shutdowns k = .stopped →
      Effect task p (.notifyAll k) (p.wakeAll.setShutdown k (.joining 0))
  | join (k : κ) (j : ℕ) (hj : j < n) : p.shutdowns k = .joining j →
      p.joinable ⟨j, hj⟩ = true → p.workers ⟨j, hj⟩ = .exited →
      Effect task p (.join k) ((p.setJoined ⟨j, hj⟩).setShutdown k (.joining (j + 1)))
  | pass (k : κ) (j : ℕ) (hj : j < n) : p.shutdowns k = .joining j →
      p.joinable ⟨j, hj⟩ = false →
      Effect task p (.join k) (p.setShutdown k (.joining (j + 1)))
  | joined (k : κ) (j : ℕ) : p.shutdowns k = .joining j → n ≤ j →
      Effect task p (.join k) (p.setShutdown k .returned)

theorem submitLock_effect {task : ι → Except ε α} {p q : ThreadPool ι κ ε α n} {i : ι}
    (h : p.submitLock i = some q) : Effect task p (.submitLock i) q := by
  simp only [submitLock] at h
  split at h
  · rename_i hidle
    split at h
    · rename_i hstop
      cases h
      exact .reject i hidle hstop
    · rename_i hstop
      cases h
      exact .push i hidle (by simpa using hstop)
  · cases h

theorem notifyOne_effect {task : ι → Except ε α} {p q : ThreadPool ι κ ε α n} {i : ι}
    {woken : Option (Fin n)} (h : p.notifyOne i woken = some q) :
    Effect task p (.notifyOne i woken) q := by
  simp only [notifyOne] at h
  split at h
  · rename_i hpushed
    cases woken with
    | some w =>
        simp only at h
        split at h
        · rename_i hasleep
          cases h
          exact .wake i w hpushed hasleep
        · cases h
    | none =>
        simp only at h
        split at h
        · rename_i hnobody
          cases h
          exact .wakeNobody i hpushed hnobody
        · cases h
  · cases h

theorem workerLock_effect {task : ι → Except ε α} {p q : ThreadPool ι κ ε α n} {w : Fin n}
    (h : p.workerLock w = some q) : Effect task p (.workerLock w) q := by
  simp only [workerLock] at h
  split at h
  · rename_i hwaiting
    cases htasks : p.tasks with
    | nil =>
        simp only [htasks, List.isEmpty_nil, Bool.not_true, Bool.or_false] at h
        cases hstop : p.stopping with
        | true =>
            simp only [hstop] at h
            cases h
            exact .exit w hwaiting hstop htasks
        | false =>
            simp only [hstop] at h
            cases h
            exact .sleep w hwaiting hstop htasks
    | cons front rest =>
        simp only [htasks, List.isEmpty_cons, Bool.not_false, Bool.or_true, Bool.not_true] at h
        cases h
        exact .pop w front rest hwaiting htasks
  · cases h

theorem finish_effect {task : ι → Except ε α} {p q : ThreadPool ι κ ε α n} {w : Fin n}
    (h : p.finish task w = some q) : Effect task p (.finish w) q := by
  simp only [finish] at h
  split at h
  · rename_i i hrunning
    cases h
    exact .complete w i hrunning
  · cases h

theorem shutdownLock_effect {task : ι → Except ε α} {p q : ThreadPool ι κ ε α n} {k : κ}
    (h : p.shutdownLock k = some q) : Effect task p (.shutdownLock k) q := by
  simp only [shutdownLock] at h
  split at h
  · rename_i hidle
    split at h
    · rename_i hstop
      cases h
      exact .already k hidle hstop
    · rename_i hstop
      cases h
      exact .stop k hidle (by simpa using hstop)
  · cases h

theorem join_effect {task : ι → Except ε α} {p q : ThreadPool ι κ ε α n} {k : κ}
    (h : p.join k = some q) : Effect task p (.join k) q := by
  simp only [join] at h
  split at h
  · rename_i j hjoining
    split at h
    · rename_i hj
      split at h
      · rename_i hjoinable
        split at h
        · rename_i hexited
          cases h
          exact .join k j hj hjoining hjoinable hexited
        · cases h
      · rename_i hjoinable
        cases h
        exact .pass k j hj hjoining (by simpa using hjoinable)
    · rename_i hj
      cases h
      exact .joined k j hjoining (Nat.le_of_not_lt hj)
  · cases h

/-- Every step has one of the effects. -/
theorem step_effect {task : ι → Except ε α} {p q : ThreadPool ι κ ε α n} {a : Action ι κ n}
    (h : step task p a = some q) : Effect task p a q := by
  cases a with
  | submitLock i => exact submitLock_effect h
  | notifyOne i woken => exact notifyOne_effect h
  | workerLock w => exact workerLock_effect h
  | finish w => exact finish_effect h
  | spuriousWake w =>
      simp only [step, spuriousWake] at h
      split at h
      · rename_i hasleep
        cases h
        exact .spurious w hasleep
      · cases h
  | shutdownLock k => exact shutdownLock_effect h
  | notifyAll k =>
      simp only [step, notifyAll] at h
      split at h
      · rename_i hstopped
        cases h
        exact .notifyAll k hstopped
      · cases h
  | join k => exact join_effect h

end ThreadPool

end DeviceDiscovery.Threading
