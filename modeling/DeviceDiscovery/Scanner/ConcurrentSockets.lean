import DeviceDiscovery.Foundation.Interleaving
import DeviceDiscovery.Scanner.SocketLedger
import DeviceDiscovery.Threading.Contract

/-!
The sockets of probes that run at the same time (`scanner/port_scanner.cpp`,
`scanner/ssh_detector.cpp` on `threading/thread_pool.cpp`).

A probe is run by a worker, call by call, and the calls of the workers mix in any
order. The process has one table of open sockets, which all of them change, and
the system hands out a handle again once it has been closed. The answers to a
probe name its handle in advance; a schedule in which the system would hand out a
handle that is open is none (`HandsOutOpen`). What one probe does with its own
handle (`SingleSession`) is lifted to all of them by the common ledger.
-/

namespace DeviceDiscovery.Scanner

open Foundation DeviceDiscovery.Platform DeviceDiscovery.Threading

variable {ι κ ε : Type*} {n : ℕ}

/-! ### The calls of one probe -/

/-- No socket, or one socket that is closed in the end. -/
def SingleSession (calls : List SocketEvent) : Prop :=
  calls = [] ∨ ∃ handle functions, calls = session handle functions ++ [.closesocket handle]

theorem probeSsh_singleSession {os : ProbeAnswers} (hos : os.connect.ReportsError) (ip : Bytes)
    (connectTimeout bannerTimeout : ℤ) :
    SingleSession (probeSsh os ip connectTimeout bannerTimeout).2 := by
  have houtcome := tcpConnect_outcome hos ip connectTimeout
  have hprobe : (probeSsh os ip connectTimeout bannerTimeout).2 =
      if (tcpConnect os.connect ip connectTimeout).result = .connected then
        (tcpConnect os.connect ip connectTimeout).calls ++
          (readSshBanner os.banner (tcpConnect os.connect ip connectTimeout).outSocket ip
            bannerTimeout).2 ++ closeSocket (tcpConnect os.connect ip connectTimeout).outSocket
      else (tcpConnect os.connect ip connectTimeout).calls := by
    cases hresult : (tcpConnect os.connect ip connectTimeout).result <;> simp [probeSsh, hresult]
  rw [hprobe]
  generalize tcpConnect os.connect ip connectTimeout = attempt at houtcome
  cases houtcome with
  | nothing => exact .inl rfl
  | kept handle functions hvalid =>
      obtain ⟨read, hread⟩ := readLoop_calls handle
        (deadlineOf os.banner.start bannerTimeout) [] os.banner.turns
      refine .inr ⟨handle, functions ++ read, ?_⟩
      rw [if_pos rfl, readSshBanner, hread, closeSocket_of_valid hvalid, session, session,
        List.map_append, List.cons_append]
  | closed result handle functions hvalid hfailed =>
      refine .inr ⟨handle, functions, ?_⟩
      have hresult : (Attempt.closed result handle (session handle functions)).result ≠
        .connected := hfailed
      rw [if_neg hresult, Attempt.closed, closeSocket_of_valid hvalid]

namespace SingleSession

variable {calls made : List SocketEvent}

theorem closesEachOnce (h : SingleSession calls) : ClosesEachOnce calls := by
  rcases h with rfl | ⟨handle, functions, rfl⟩
  · exact closesEachOnce_nil
  · exact closesEachOnce_session handle functions

/-- At any point at most one socket is open. -/
theorem length_le_one (h : SingleSession calls) (hmade : made <+: calls)
    {live : Ledger.Live Socket}
    (hlive : run Ledger.step [] (made.map SocketEvent.ledger) = some live) : live.length ≤ 1 := by
  rcases h with rfl | ⟨handle, functions, rfl⟩
  · rw [List.prefix_nil.mp hmade] at hlive
    cases hlive
    exact Nat.zero_le 1
  · rcases List.prefix_concat_iff.mp hmade with rfl | hmade
    · have hclosed := (closesEachOnce_session handle functions).balanced
      rw [Ledger.Balanced, hlive] at hclosed
      cases hclosed
      exact Nat.zero_le 1
    · cases made with
      | nil =>
          cases hlive
          exact Nat.zero_le 1
      | cons e made =>
          obtain ⟨rfl, hrest⟩ := List.cons_prefix_cons.mp hmade
          obtain ⟨first, -, rfl⟩ := List.prefix_map_iff.mp hrest
          have hopen := run_session handle first
          rw [session, hlive] at hopen
          cases hopen
          exact Nat.le_refl 1

end SingleSession

/-! ### The system -/

/-- The task that a worker runs. -/
def runningCall {ι : Type*} : WorkerPc ι → Option ι
  | .running i => some i
  | _ => none

/-- The pool, the calls that each probe has made so far, and the open sockets:
none is recorded once a handle was used or closed that was not open. -/
structure ProbePool (ι κ ε : Type*) (n : ℕ) where
  pool : ThreadPool ι κ ε SshProbeResult n
  made : ι → List SocketEvent
  sockets : Option (Ledger.Live Socket)

/-- The system does not hand out a handle that is open. -/
def HandsOutOpen (live : Ledger.Live Socket) : SocketEvent → Prop
  | .socket handle => Ledger.IsLive live handle
  | _ => False

instance (live : Ledger.Live Socket) : DecidablePred (HandsOutOpen live)
  | .socket handle => inferInstanceAs (Decidable (Ledger.IsLive live handle))
  | .call _ _ | .closesocket _ => inferInstanceAs (Decidable False)

namespace ProbePool

def start (n : ℕ) : ProbePool ι κ ε n := ⟨ThreadPool.start n, fun _ => [], some []⟩

inductive Action (ι κ : Type*) (n : ℕ) where
  | pool (action : ThreadPool.Action ι κ n)
  /-- The worker makes the next call of its probe. -/
  | socket (worker : Fin n)
  deriving DecidableEq, Repr

/-- A task ends when its probe has made all its calls. -/
def MayEnd (calls : ι → List SocketEvent) (s : ProbePool ι κ ε n) :
    ThreadPool.Action ι κ n → Prop
  | .finish w => ∀ i ∈ runningCall (s.pool.workers w), s.made i = calls i
  | _ => True

instance [DecidableEq ι] (calls : ι → List SocketEvent) (s : ProbePool ι κ ε n) :
    DecidablePred (MayEnd calls s)
  | .finish w =>
      inferInstanceAs (Decidable (∀ i ∈ runningCall (s.pool.workers w), s.made i = calls i))
  | .submitLock _ | .notifyOne _ _ | .workerLock _ | .spuriousWake _ | .shutdownLock _
  | .notifyAll _ | .join _ => inferInstanceAs (Decidable True)

section Steps

variable [DecidableEq ι] [DecidableEq κ]

def step (task : ι → Except ε SshProbeResult) (calls : ι → List SocketEvent)
    (s : ProbePool ι κ ε n) : Action ι κ n → Option (ProbePool ι κ ε n)
  | .pool action =>
      if MayEnd calls s action then (ThreadPool.step task s.pool action).map fun pool =>
        { s with pool := pool }
      else none
  | .socket w =>
      match runningCall (s.pool.workers w), s.sockets with
      | some i, some live =>
          match (calls i)[(s.made i).length]? with
          | some e =>
              if HandsOutOpen live e then none
              else some { s with
                made := Function.update s.made i (s.made i ++ [e])
                sockets := Ledger.step live e.ledger }
          | none => none
      | _, _ => none

end Steps

/-! ### The invariant -/

/-- The sockets a worker's probe holds. -/
def heldBy (made : ι → List SocketEvent) : Option ι → Option (Ledger.Live Socket)
  | none => some []
  | some i => run Ledger.step [] ((made i).map SocketEvent.ledger)

theorem heldBy_some (made : ι → List SocketEvent) (i : ι) :
    heldBy made (some i) = run Ledger.step [] ((made i).map SocketEvent.ledger) := rfl

structure Inv (task : ι → Except ε SshProbeResult) (calls : ι → List SocketEvent)
    (s : ProbePool ι κ ε n) : Prop where
  pool : ThreadPool.Inv task s.pool
  made : ∀ i, s.made i <+: calls i
  unstarted : ∀ i, i ∉ s.pool.dequeued → s.made i = []
  ended : ∀ i, s.pool.futures i ≠ none → s.made i = calls i
  sockets : ∃ parts live, s.sockets = some live ∧ Ledger.Shares parts live ∧
    ∀ w, heldBy s.made (runningCall (s.pool.workers w)) = some (parts w)

variable {task : ι → Except ε SshProbeResult} {calls : ι → List SocketEvent}

theorem Inv.start (task : ι → Except ε SshProbeResult) (calls : ι → List SocketEvent) :
    Inv task calls (ProbePool.start n : ProbePool ι κ ε n) where
  pool := .start task
  made _ := List.nil_prefix
  unstarted _ _ := rfl
  ended _ hi := absurd rfl hi
  sockets := ⟨fun _ => [], [], rfl, .nil, fun _ => rfl⟩

section Steps

variable [DecidableEq ι]

/-- What the workers hold does not change with a step of the pool: a task begins
with no call made, and ends with nothing open. -/
theorem Inv.heldBy_of_effect [DecidableEq κ] {s : ProbePool ι κ ε n}
    {q : ThreadPool ι κ ε SshProbeResult n} {a : ThreadPool.Action ι κ n} (h : Inv task calls s)
    (hcalls : ∀ i, ClosesEachOnce (calls i)) (hmay : MayEnd calls s a)
    (he : ThreadPool.Effect task s.pool a q) (w : Fin n) :
    heldBy s.made (runningCall (q.workers w)) =
      heldBy s.made (runningCall (s.pool.workers w)) := by
  have moved {v : Fin n} {pc : WorkerPc ι}
      (hsame : heldBy s.made (runningCall pc) =
        heldBy s.made (runningCall (s.pool.workers v))) :
      heldBy s.made (runningCall ((s.pool.setWorker v pc).workers w)) =
        heldBy s.made (runningCall (s.pool.workers w)) := by
    by_cases hw : w = v
    · subst hw
      simpa using hsame
    · simp [hw]
  cases he with
  | wake i v _ hv | sleep v hv | exit v hv | spurious v hv =>
      apply moved
      rw [hv]
      rfl
  | pop v front rest hv htasks =>
      apply moved
      -- A queued task has not begun.
      have hnodup := h.pool.tasks.nodup
      rw [h.pool.tasks.queue, htasks, List.nodup_append] at hnodup
      have hfresh : front ∉ s.pool.dequeued := fun hmem =>
        hnodup.2.2 front hmem front (by simp) rfl
      rw [hv]
      show run Ledger.step [] ((s.made front).map SocketEvent.ledger) = some []
      rw [h.unstarted front hfresh]
      rfl
  | complete v i hv =>
      apply moved
      have hmade : s.made i = calls i := hmay i (by simp [hv, runningCall])
      rw [hv]
      show some [] = run Ledger.step [] ((s.made i).map SocketEvent.ledger)
      rw [hmade]
      exact (hcalls i).balanced.symm
  | notifyAll k =>
      by_cases hw : s.pool.workers w = .asleep <;> simp [hw, runningCall]
  | _ => rfl

theorem Inv.poolStep [DecidableEq κ] (hn : 0 < n) (hcalls : ∀ i, ClosesEachOnce (calls i))
    {s : ProbePool ι κ ε n} {q : ThreadPool ι κ ε SshProbeResult n}
    {a : ThreadPool.Action ι κ n} (h : Inv task calls s) (hmay : MayEnd calls s a)
    (hstep : ThreadPool.step task s.pool a = some q) :
    Inv task calls { s with pool := q } := by
  have he := ThreadPool.step_effect hstep
  have hheld := h.heldBy_of_effect hcalls hmay he
  refine ⟨h.pool.step hn hstep, h.made, fun i hi => h.unstarted i fun hmem => hi ?_, ?_, ?_⟩
  · show i ∈ q.dequeued
    cases he with
    | pop => exact List.mem_append_left _ hmem
    | _ => exact hmem
  · intro i hi
    show s.made i = calls i
    cases he with
    | complete w j hw =>
        by_cases hj : i = j
        · subst hj
          exact hmay i (by simp [hw, runningCall])
        · exact h.ended i (by simpa [hj] using hi)
    | _ => exact h.ended i hi
  · obtain ⟨parts, live, hlive, hshares, hparts⟩ := h.sockets
    exact ⟨parts, live, hlive, hshares, fun w => (hheld w).trans (hparts w)⟩

/-- The call a probe makes next is one that its own ledger allows. -/
theorem Inv.socketStep (hcalls : ∀ i, ClosesEachOnce (calls i)) {s : ProbePool ι κ ε n}
    {w : Fin n} {i : ι} {e : SocketEvent} {live : Ledger.Live Socket} (h : Inv task calls s)
    (hw : runningCall (s.pool.workers w) = some i) (hlive : s.sockets = some live)
    (hnext : (calls i)[(s.made i).length]? = some e) (hfresh : ¬HandsOutOpen live e) :
    Inv task calls { s with
      made := Function.update s.made i (s.made i ++ [e])
      sockets := Ledger.step live e.ledger } := by
  have hrunning : s.pool.workers w = .running i := by
    cases hpc : s.pool.workers w <;> simp_all [runningCall]
  obtain ⟨hdequeued, hpending⟩ := h.pool.tasks.running w i hrunning
  obtain ⟨rest, hrest⟩ := h.made i
  obtain ⟨rest, rfl⟩ : ∃ after, rest = e :: after := by
    rw [← hrest, List.getElem?_append_right (Nat.le_refl _), Nat.sub_self,
      ← List.head?_eq_getElem?] at hnext
    exact List.head?_eq_some_iff.mp hnext
  have hother {j : ι} (hj : j ≠ i) :
      Function.update s.made i (s.made i ++ [e]) j = s.made j := Function.update_of_ne hj _ _
  refine ⟨h.pool, fun j => ?_, fun j hj => ?_, fun j hj => ?_, ?_⟩
  · by_cases hj : j = i
    · subst hj
      exact ⟨rest, by simpa using hrest⟩
    · simpa [hj] using h.made j
  · have hne : j ≠ i := fun hji => hj (hji ▸ hdequeued)
    exact (hother hne).trans (h.unstarted j hj)
  · have hne : j ≠ i := fun hji => hj (hji ▸ hpending)
    exact (hother hne).trans (h.ended j hj)
  · obtain ⟨parts, live', hlive', hshares, hparts⟩ := h.sockets
    obtain rfl : live = live' := Option.some.inj (hlive.symm.trans hlive')
    have hheld := hparts w
    rw [hw] at hheld
    -- The calls of the probe are balanced, so the next one is accepted.
    obtain ⟨mine, hmine⟩ : ∃ mine, Ledger.step (parts w) e.ledger = some mine := by
      have hbalanced := (hcalls i).balanced
      rw [Ledger.Balanced, ← hrest, List.map_append, run_append, ← heldBy_some, hheld,
        Option.bind_some, List.map_cons, run_cons, Option.bind_eq_some_iff] at hbalanced
      obtain ⟨mine, hmine, -⟩ := hbalanced
      exact ⟨mine, hmine⟩
    have hnew : ∀ r parent, e.ledger = .acquire r parent → ¬Ledger.IsLive live r := by
      intro r parent hacquire
      cases e <;> cases hacquire
      exact hfresh
    obtain ⟨after, hafter, hshared⟩ := hshares.step w hnew hmine
    refine ⟨_, after, hafter, hshared, fun v => ?_⟩
    by_cases hv : v = w
    · subst hv
      rw [Function.update_self, hw]
      show run Ledger.step [] ((Function.update s.made i (s.made i ++ [e]) i).map
        SocketEvent.ledger) = some mine
      rw [Function.update_self, List.map_append, run_append, ← heldBy_some, hheld,
        Option.bind_some]
      simpa [run_cons] using hmine
    · rw [Function.update_of_ne hv, ← hparts v]
      cases hpc : s.pool.workers v with
      | running j =>
          have hne : j ≠ i := by
            rintro rfl
            exact hv (h.pool.tasks.running_unique v w j hpc hrunning)
          show run Ledger.step [] ((Function.update s.made i (s.made i ++ [e]) j).map
            SocketEvent.ledger) = run Ledger.step [] ((s.made j).map SocketEvent.ledger)
          rw [hother hne]
      | waiting | asleep | exited => rfl

theorem Inv.step [DecidableEq κ] (hn : 0 < n) (hcalls : ∀ i, ClosesEachOnce (calls i))
    {s t : ProbePool ι κ ε n} {a : Action ι κ n} (h : Inv task calls s)
    (hstep : ProbePool.step task calls s a = some t) : Inv task calls t := by
  cases a with
  | pool a =>
      simp only [ProbePool.step] at hstep
      split at hstep
      · rename_i hmay
        obtain ⟨q, hq, rfl⟩ := Option.map_eq_some_iff.mp hstep
        exact h.poolStep hn hcalls hmay hq
      · cases hstep
  | socket w =>
      simp only [ProbePool.step] at hstep
      split at hstep
      · rename_i i live hw hlive
        split at hstep
        · rename_i e hnext
          split at hstep
          · cases hstep
          · rename_i hfresh
            cases hstep
            exact h.socketStep hcalls hw hlive hnext hfresh
        · cases hstep
      · cases hstep

theorem Inv.of_reachable [DecidableEq κ] (hn : 0 < n) (hcalls : ∀ i, ClosesEachOnce (calls i))
    {s : ProbePool ι κ ε n} (h : Reachable (ProbePool.step task calls) (ProbePool.start n) s) :
    Inv task calls s :=
  h.invariant (.start task calls) fun _ _ _ ht hstep => ht.step hn hcalls hstep

/-- The calls that were made are one trace, in which those of the probes mix and no
handle is handed out while it is open. -/
theorem exists_trace [DecidableEq κ] {s : ProbePool ι κ ε n}
    (h : Reachable (ProbePool.step task calls) (ProbePool.start n) s) :
    ∃ trace, Interleaves s.made trace ∧ Ledger.AcquiresFresh (trace.map SocketEvent.ledger) ∧
      s.sockets = run Ledger.step [] (trace.map SocketEvent.ledger) := by
  refine h.invariant (P := fun s => ∃ trace, Interleaves s.made trace ∧
    Ledger.AcquiresFresh (trace.map SocketEvent.ledger) ∧
      s.sockets = run Ledger.step [] (trace.map SocketEvent.ledger)) ⟨[], .nil, .nil, rfl⟩ ?_
  rintro s a t ⟨trace, hmixed, hfresh, hsockets⟩ hstep
  cases a with
  | pool a =>
      simp only [ProbePool.step] at hstep
      split at hstep
      · obtain ⟨q, -, rfl⟩ := Option.map_eq_some_iff.mp hstep
        exact ⟨trace, hmixed, hfresh, hsockets⟩
      · cases hstep
  | socket w =>
      simp only [ProbePool.step] at hstep
      split at hstep
      · rename_i i live hw hlive
        split at hstep
        · rename_i e hnext
          split at hstep
          · cases hstep
          · rename_i hclosed
            cases hstep
            have hrun := hsockets.symm.trans hlive
            refine ⟨trace ++ [e], hmixed.concat i e, ?_, ?_⟩
            · rw [List.map_append]
              refine hfresh.concat fun _ live' r parent hlive' hacquire => ?_
              obtain rfl := Option.some.inj (hrun.symm.trans hlive')
              cases e <;> cases hacquire
              exact hclosed
            · rw [List.map_append, run_append, hrun]
              simp [run_cons]
        · cases hstep
      · cases hstep

end Steps

/-! ### What holds of the open sockets -/

/-- The worker runs a probe that has the handle open. -/
def Holds (s : ProbePool ι κ ε n) (w : Fin n) (handle : Socket) : Prop :=
  ∃ i, s.pool.workers w = .running i ∧ IsOpen (s.made i) handle

/-- The workers that run a probe. -/
def busy (s : ProbePool ι κ ε n) : Finset (Fin n) :=
  Finset.univ.filter fun w => (runningCall (s.pool.workers w)).isSome

/-- Each open socket is held by one running probe, a probe passes to a call only
the handle that it holds itself, and there are no more sockets than busy workers. -/
structure SocketsSafe (calls : ι → List SocketEvent) (s : ProbePool ι κ ε n)
    (live : Ledger.Live Socket) : Prop where
  held : ∀ handle, Ledger.IsLive live handle ↔ ∃ w, s.Holds w handle
  apart : ∀ w v handle, s.Holds w handle → s.Holds v handle → w = v
  own : ∀ w i handle, s.pool.workers w = .running i →
    ((∃ function, (calls i)[(s.made i).length]? = some (.call handle function)) ∨
      (calls i)[(s.made i).length]? = some (.closesocket handle)) → s.Holds w handle
  few : live.length ≤ s.busy.card
  ended : ∀ i, s.pool.futures i ≠ none → ClosesEachOnce (s.made i)

theorem runningCall_eq_some {pc : WorkerPc ι} {i : ι} :
    runningCall pc = some i ↔ pc = .running i := by
  cases pc <;> simp [runningCall]

theorem isLive_part_iff {s : ProbePool ι κ ε n} {parts : Fin n → Ledger.Live Socket}
    (hparts : ∀ w, heldBy s.made (runningCall (s.pool.workers w)) = some (parts w)) (w : Fin n)
    (handle : Socket) : Ledger.IsLive (parts w) handle ↔ s.Holds w handle := by
  have hpart := hparts w
  constructor
  · intro hlive
    cases hcall : runningCall (s.pool.workers w) with
    | none =>
        rw [hcall] at hpart
        obtain hnone : [] = parts w := Option.some.inj hpart
        simp [← hnone, Ledger.IsLive] at hlive
    | some i =>
        rw [hcall, heldBy_some] at hpart
        exact ⟨i, runningCall_eq_some.mp hcall, parts w, hpart, hlive⟩
  · rintro ⟨i, hw, live, hrun, hlive⟩
    rw [runningCall_eq_some.mpr hw, heldBy_some, hrun] at hpart
    rwa [← Option.some.inj hpart]

/-- A call that a ledger allows is on a live handle, unless it obtains one. -/
theorem isLive_of_step {live after : Ledger.Live Socket} {e : SocketEvent} {handle : Socket}
    (hstep : Ledger.step live e.ledger = some after)
    (he : (∃ function, e = .call handle function) ∨ e = .closesocket handle) :
    Ledger.IsLive live handle := by
  rcases he with ⟨function, rfl⟩ | rfl
  · simp only [SocketEvent.ledger, Ledger.step] at hstep
    split at hstep
    · assumption
    · cases hstep
  · simp only [SocketEvent.ledger, Ledger.step] at hstep
    split at hstep
    · rename_i hguard
      exact hguard.1
    · cases hstep

theorem Inv.own {s : ProbePool ι κ ε n} (h : Inv task calls s)
    (hcalls : ∀ i, ClosesEachOnce (calls i)) {w : Fin n} {i : ι} {handle : Socket}
    {e : SocketEvent} (hw : s.pool.workers w = .running i)
    (hnext : (calls i)[(s.made i).length]? = some e)
    (he : (∃ function, e = .call handle function) ∨ e = .closesocket handle) :
    s.Holds w handle := by
  obtain ⟨rest, hrest⟩ := h.made i
  rw [← hrest, List.getElem?_append_right (Nat.le_refl _), Nat.sub_self,
    ← List.head?_eq_getElem?] at hnext
  obtain ⟨rest, rfl⟩ := List.head?_eq_some_iff.mp hnext
  have hbalanced := (hcalls i).balanced
  rw [Ledger.Balanced, ← hrest, List.map_append, run_append, Option.bind_eq_some_iff] at hbalanced
  obtain ⟨live, hlive, hafter⟩ := hbalanced
  rw [List.map_cons, run_cons, Option.bind_eq_some_iff] at hafter
  obtain ⟨after, hstep, -⟩ := hafter
  exact ⟨i, hw, live, hlive, isLive_of_step hstep he⟩

theorem Inv.socketsSafe {s : ProbePool ι κ ε n} (h : Inv task calls s)
    (hcalls : ∀ i, SingleSession (calls i)) :
    ∃ live, s.sockets = some live ∧ SocketsSafe calls s live := by
  have honce (i : ι) := (hcalls i).closesEachOnce
  obtain ⟨parts, live, hlive, hshares, hparts⟩ := h.sockets
  refine ⟨live, hlive, ?_, ?_, ?_, ?_, ?_⟩
  · intro handle
    rw [hshares.isLive_iff]
    exact exists_congr fun w => isLive_part_iff hparts w handle
  · intro w v handle hw hv
    exact hshares.eq_of_isLive ((isLive_part_iff hparts w handle).mpr hw)
      ((isLive_part_iff hparts v handle).mpr hv)
  · rintro w i handle hw (⟨function, hnext⟩ | hnext)
    · exact h.own honce hw hnext (.inl ⟨function, rfl⟩)
    · exact h.own honce hw hnext (.inr rfl)
  · have hpart (w : Fin n) :
        (parts w).length ≤ if (runningCall (s.pool.workers w)).isSome then 1 else 0 := by
      have hheld := hparts w
      cases hcall : runningCall (s.pool.workers w) with
      | none =>
          rw [hcall] at hheld
          obtain hnone : [] = parts w := Option.some.inj hheld
          simp [← hnone]
      | some i =>
          rw [hcall] at hheld
          simpa using (hcalls i).length_le_one (h.made i) hheld
    calc live.length = ∑ w, (parts w).length := hshares.length_eq
      _ ≤ ∑ w, if (runningCall (s.pool.workers w)).isSome then 1 else 0 :=
          Finset.sum_le_sum fun w _ => hpart w
      _ = s.busy.card := by rw [Finset.sum_boole, busy, Nat.cast_id]
  · intro i hi
    rw [h.ended i hi]
    exact honce i

end ProbePool

/-- The probes on a pool, whatever use is made of it and however the workers'
calls mix: no handle is used or closed that is not open, every open socket is
held by one running probe and touched by no other, and there are never more of
them than busy workers, so never more than workers. A finished probe has closed
what it opened. -/
theorem concurrent_sockets [DecidableEq ι] [DecidableEq κ] (workerCount : ℕ)
    (os : ι → ProbeAnswers) (hos : ∀ i, (os i).connect.ReportsError) (ip : ι → Bytes)
    (connectTimeout bannerTimeout : ℤ)
    (s : ProbePool ι κ ε (ThreadPool.workerThreads workerCount))
    (h : Reachable (ProbePool.step
      (fun i => .ok (probeSsh (os i) (ip i) connectTimeout bannerTimeout).1)
      fun i => (probeSsh (os i) (ip i) connectTimeout bannerTimeout).2)
        (ProbePool.start (ThreadPool.workerThreads workerCount)) s) :
    ∃ live, s.sockets = some live ∧
      live.length ≤ ThreadPool.workerThreads workerCount ∧
      ProbePool.SocketsSafe (fun i => (probeSsh (os i) (ip i) connectTimeout bannerTimeout).2) s
        live := by
  have hn := ThreadPool.workerThreads_pos workerCount
  have hcalls (i : ι) : SingleSession (probeSsh (os i) (ip i) connectTimeout bannerTimeout).2 :=
    probeSsh_singleSession (hos i) (ip i) connectTimeout bannerTimeout
  have hinv := ProbePool.Inv.of_reachable hn (fun i => (hcalls i).closesEachOnce) h
  obtain ⟨live, hlive, hsafe⟩ := hinv.socketsSafe hcalls
  refine ⟨live, hlive, hsafe.few.trans ?_, hsafe⟩
  calc s.busy.card ≤ Fintype.card (Fin (ThreadPool.workerThreads workerCount)) :=
        Finset.card_le_univ s.busy
    _ = ThreadPool.workerThreads workerCount := Fintype.card_fin _

/-- Two workers; both probes are refused, and the system hands the handle of the
first one to the second. -/
def refusedAnswers : ProbeAnswers where
  connect := ⟨true, 64, true, -1, wsaeConnRefused, 0, 0, 0⟩
  banner := ⟨0, []⟩

def sampleProbeSchedule : List (ProbePool.Action Bool Empty (ThreadPool.workerThreads 2)) :=
  let first : Fin (ThreadPool.workerThreads 2) := ⟨0, ThreadPool.workerThreads_pos 2⟩
  let second : Fin (ThreadPool.workerThreads 2) := Fin.last 1
  [.pool (.submitLock true), .pool (.notifyOne true none), .pool (.submitLock false),
    .pool (.notifyOne false none), .pool (.workerLock first), .pool (.workerLock second),
    .socket first, .socket first, .socket first, .socket first, .socket second, .socket second]

def refusedProbe : SshProbeResult × List SocketEvent := probeSsh refusedAnswers "10.0.0.2" 500 1500

theorem sampleProbeSchedule_isSome :
    (run (ProbePool.step (ε := String) (fun _ : Bool => .ok refusedProbe.1) fun _ => refusedProbe.2)
      (ProbePool.start (ThreadPool.workerThreads 2)) sampleProbeSchedule).isSome = true := by
  decide

def sampleProbeEnd : ProbePool Bool Empty String (ThreadPool.workerThreads 2) :=
  (run (ProbePool.step (ε := String) (fun _ : Bool => .ok refusedProbe.1) fun _ => refusedProbe.2)
    (ProbePool.start (ThreadPool.workerThreads 2)) sampleProbeSchedule).get
      sampleProbeSchedule_isSome

theorem concurrent_sockets_sample :
    sampleProbeEnd.sockets = some [(64, none)] ∧
      ProbePool.SocketsSafe (fun _ => refusedProbe.2) sampleProbeEnd [(64, none)] := by
  have hopen : sampleProbeEnd.sockets = some [(64, none)] := by decide
  obtain ⟨live, hlive, -, hsafe⟩ := concurrent_sockets 2 (fun _ : Bool => refusedAnswers)
    (fun _ => by decide) (fun _ => "10.0.0.2") 500 1500 sampleProbeEnd
    (reachable_get sampleProbeSchedule_isSome)
  obtain rfl : live = [(64, none)] := Option.some.inj (hlive.symm.trans hopen)
  exact ⟨hopen, hsafe⟩

end DeviceDiscovery.Scanner
