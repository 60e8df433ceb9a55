import Mathlib.Algebra.BigOperators.Fin
import Mathlib.Data.List.Count
import Mathlib.Data.Fintype.BigOperators

/-!
Transition systems whose steps may be refused.

A system is a partial function `step s a`: the state after the action `a`, or
nothing when `a` cannot be taken in `s`. Interleavings of several threads are
lists of actions, so what holds for every schedule is what holds along every
`run`.

Two arguments are packaged. A property that the start state has and that every
step keeps holds in every reachable state (`Reachable.invariant`). For progress,
the actions are divided into those the system owes (`internal`) and those its
environment is free to take or not. A `Ranking` goes down with each internal
action and up by at most a constant with each other one, so that a run takes
only as many internal actions as the environment pays for
(`Ranking.countP_internal_le`).
-/

namespace Foundation

variable {σ α : Type*} {step : σ → α → Option σ}

/-- The state after a list of actions. -/
def run (step : σ → α → Option σ) (s : σ) (as : List α) : Option σ := as.foldlM step s

@[simp] theorem run_nil (s : σ) : run step s [] = some s := rfl

theorem run_cons (s : σ) (a : α) (as : List α) :
    run step s (a :: as) = (step s a).bind fun t => run step t as := by
  rw [run, List.foldlM_cons]
  rfl

theorem run_append (s : σ) (as bs : List α) :
    run step s (as ++ bs) = (run step s as).bind fun t => run step t bs := by
  rw [run, List.foldlM_append]
  rfl

theorem run_concat_eq_some {s u : σ} {as : List α} {a : α} :
    run step s (as ++ [a]) = some u ↔ ∃ t, run step s as = some t ∧ step t a = some u := by
  rw [run_append, Option.bind_eq_some_iff]
  simp [run_cons]

/-- What holds before the first action and is kept by the last one holds of
every run. -/
theorem run_induction {P : List α → σ → Prop} {s : σ} (start : P [] s)
    (next : ∀ as t a u, run step s as = some t → P as t → step t a = some u → P (as ++ [a]) u) :
    ∀ as t, run step s as = some t → P as t := by
  intro as
  induction as using List.reverseRecOn with
  | nil =>
      intro t ht
      rw [← Option.some.inj ht]
      exact start
  | append_singleton as a ih =>
      intro u hu
      obtain ⟨t, ht, hstep⟩ := run_concat_eq_some.mp hu
      exact next as t a u ht (ih t ht) hstep

/-! ### Reachable states -/

/-- The states that some schedule leads to. -/
inductive Reachable (step : σ → α → Option σ) (s : σ) : σ → Prop where
  | start : Reachable step s s
  | next {t u : σ} {a : α} : Reachable step s t → step t a = some u → Reachable step s u

theorem Reachable.invariant {P : σ → Prop} {s t : σ} (h : Reachable step s t) (start : P s)
    (next : ∀ t a u, P t → step t a = some u → P u) : P t := by
  induction h with
  | start => exact start
  | next _ hstep ih => exact next _ _ _ ih hstep

theorem Reachable.trans {s t u : σ} (hst : Reachable step s t) (htu : Reachable step t u) :
    Reachable step s u :=
  htu.invariant hst fun _ _ _ h hstep => h.next hstep

theorem reachable_iff_run {s t : σ} : Reachable step s t ↔ ∃ as, run step s as = some t := by
  constructor
  · intro h
    induction h with
    | start => exact ⟨[], rfl⟩
    | next _ hstep ih =>
        obtain ⟨as, has⟩ := ih
        exact ⟨as ++ [_], run_concat_eq_some.mpr ⟨_, has, hstep⟩⟩
  · rintro ⟨as, has⟩
    exact run_induction (P := fun _ u => Reachable step s u) .start
      (fun _ _ _ _ _ h hstep => h.next hstep) as t has

/-- A schedule that is not refused gives a reachable state. -/
theorem reachable_get {s : σ} {as : List α} (h : (run step s as).isSome) :
    Reachable step s ((run step s as).get h) :=
  reachable_iff_run.mpr ⟨as, (Option.some_get h).symm⟩

/-! ### Progress -/

/-- None of the actions the system owes can be taken. -/
def Stuck (step : σ → α → Option σ) (internal : α → Bool) (s : σ) : Prop :=
  ∀ a, internal a = true → step s a = none

/-- A measure, on the states of an invariant, that every internal action lowers
and every other action raises by at most `cost`. -/
structure Ranking (step : σ → α → Option σ) (Inv : σ → Prop) (internal : α → Bool) where
  rank : σ → ℕ
  cost : ℕ
  kept : ∀ {s a t}, Inv s → step s a = some t → Inv t
  internal_lt : ∀ {s a t}, Inv s → step s a = some t → internal a = true → rank t < rank s
  external_le : ∀ {s a t}, Inv s → step s a = some t → internal a = false →
    rank t ≤ rank s + cost

namespace Ranking

variable {Inv : σ → Prop} {internal : α → Bool}

/-- The internal actions of a run are paid for by the rank of its first state
and by its other actions. -/
theorem countP_internal_le (R : Ranking step Inv internal) {s t : σ} {as : List α} (hs : Inv s)
    (h : run step s as = some t) :
    as.countP internal + R.rank t ≤ R.rank s + R.cost * as.countP (fun a => !internal a) := by
  have hkey : ∀ as t, run step s as = some t → Inv t ∧ as.countP internal + R.rank t ≤
      R.rank s + R.cost * as.countP (fun a => !internal a) := by
    refine run_induction (P := fun as t => Inv t ∧ as.countP internal + R.rank t ≤
      R.rank s + R.cost * as.countP (fun a => !internal a)) ⟨hs, by simp⟩ ?_
    rintro as t a u - ⟨ht, hle⟩ hstep
    refine ⟨R.kept ht hstep, ?_⟩
    simp only [List.countP_append, List.countP_singleton]
    cases ha : internal a with
    | true =>
        have hlt := R.internal_lt ht hstep ha
        simp only [if_true, Bool.not_true, Bool.false_eq_true, if_false, Nat.add_zero]
        omega
    | false =>
        have hup := R.external_le ht hstep ha
        simp only [Bool.false_eq_true, if_false, Bool.not_false, if_true, Nat.mul_add]
        omega
  exact (hkey as t h).2

end Ranking

/-! ### Guarded events

A trace is guarded when each of its critical events comes after what justifies
it. -/

/-- Every critical event of the trace is justified by what precedes it. -/
def Guarded (critical : α → Bool) (justified : List α → α → Prop) (trace : List α) : Prop :=
  ∀ before a after, trace = before ++ a :: after → critical a = true → justified before a

namespace Guarded

variable {critical : α → Bool} {justified : List α → α → Prop} {trace rest : List α}

theorem nil : Guarded critical justified [] := by
  intro before a after h
  simp at h

theorem concat (h : Guarded critical justified trace) {a : α}
    (ha : critical a = true → justified trace a) : Guarded critical justified (trace ++ [a]) := by
  intro before b after hsplit hb
  rcases List.eq_nil_or_concat' after with rfl | ⟨middle, c, rfl⟩
  · obtain ⟨rfl, hab⟩ := List.append_inj' hsplit rfl
    obtain rfl : a = b := by simpa using hab
    exact ha hb
  · have hcut : trace ++ [a] = (before ++ b :: middle) ++ [c] := by
      rw [hsplit, List.append_assoc, List.cons_append]
    exact h before b middle (List.append_inj' hcut rfl).1 hb

/-- Events that are not critical need no justification. -/
theorem append_of_not_critical (h : Guarded critical justified trace)
    (hrest : ∀ a ∈ rest, critical a = false) : Guarded critical justified (trace ++ rest) := by
  induction rest generalizing trace with
  | nil => simpa using h
  | cons a rest ih =>
      have ha : critical a = false := hrest a (by simp)
      have hnext : Guarded critical justified (trace ++ [a]) :=
        h.concat fun hcritical => absurd hcritical (by simp [ha])
      simpa using ih hnext fun b hb => hrest b (by simp [hb])

/-- Traces follow one another when a justification does not depend on what came
long before. -/
theorem append
    (hmono : ∀ earlier before a, justified before a → justified (earlier ++ before) a)
    (h : Guarded critical justified trace) (hrest : Guarded critical justified rest) :
    Guarded critical justified (trace ++ rest) := by
  induction rest using List.reverseRecOn with
  | nil => simpa using h
  | append_singleton rest a ih =>
      have hfront : Guarded critical justified rest := by
        intro before b after hsplit hb
        exact hrest before b (after ++ [a]) (by simp [hsplit]) hb
      rw [← List.append_assoc]
      refine (ih hfront).concat fun ha => hmono trace rest a ?_
      exact hrest rest a [] rfl ha

end Guarded

/-! ### Weights of a family of program points

The rank of a system of many threads is a sum over the threads, and a step
changes one of its terms. -/

theorem sum_weight_update {ι π : Type*} [DecidableEq ι] (s : Finset ι) (f : ι → π) (c : π → ℕ)
    {i : ι} (hi : i ∈ s) (v : π) :
    ∑ j ∈ s, c (Function.update f i v j) + c (f i) = ∑ j ∈ s, c (f j) + c v := by
  have hrest : ∑ j ∈ s.erase i, c (Function.update f i v j) = ∑ j ∈ s.erase i, c (f j) := by
    apply Finset.sum_congr rfl
    intro j hj
    rw [Function.update_of_ne (Finset.ne_of_mem_erase hj)]
  rw [← Finset.add_sum_erase s _ hi, ← Finset.add_sum_erase s (fun j => c (f j)) hi, hrest,
    Function.update_self]
  omega

end Foundation
