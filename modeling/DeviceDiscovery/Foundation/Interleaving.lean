import DeviceDiscovery.Foundation.SharedLedger

/-!
Traces that are mixed.

Several parties act at the same time, and what is seen of them is one trace in which
the events of each keep their order (`Interleaves`). When each party keeps its own
ledger balanced, so is the common trace, whatever the order, as long as nothing is
acquired that is live already (`Balanced.interleave`).
-/

namespace Foundation

variable {ι α : Type*} [DecidableEq ι]

/-- The trace mixes those of the family: each event is the next one of some party. -/
inductive Interleaves : (ι → List α) → List α → Prop
  | nil : Interleaves (fun _ => []) []
  | concat {traces : ι → List α} {trace : List α} (i : ι) (a : α) (h : Interleaves traces trace) :
      Interleaves (Function.update traces i (traces i ++ [a])) (trace ++ [a])

/-- One party may act several times in a row. -/
theorem Interleaves.append {traces : ι → List α} {trace : List α} (h : Interleaves traces trace)
    (i : ι) (events : List α) :
    Interleaves (Function.update traces i (traces i ++ events)) (trace ++ events) := by
  induction events using List.reverseRecOn with
  | nil => simpa using h
  | append_singleton events a ih =>
      have hnext := ih.concat i a
      rw [Function.update_self, Function.update_idem] at hnext
      simpa using hnext

/-- Some parties act one after the other. -/
theorem Interleaves.sequential (traces : ι → List α) {parties : List ι} (h : parties.Nodup) :
    Interleaves (fun i => if i ∈ parties then traces i else []) (parties.flatMap traces) := by
  induction parties using List.reverseRecOn with
  | nil => exact .nil
  | append_singleton parties i ih =>
      obtain ⟨hnodup, -, hapart⟩ := List.nodup_append.mp h
      have hout : i ∉ parties := fun hmem => hapart i hmem i (List.mem_singleton_self i) rfl
      have hnext := (ih hnodup).append i (traces i)
      rw [List.flatMap_append, List.flatMap_singleton]
      convert hnext using 1
      funext j
      by_cases hj : j = i
      · subst hj
        simp [hout]
      · simp [hj]

theorem Interleaves.map {β : Type*} {traces : ι → List α} {trace : List α}
    (h : Interleaves traces trace) (f : α → β) :
    Interleaves (fun i => (traces i).map f) (trace.map f) := by
  induction h with
  | nil => exact .nil
  | @concat traces trace i a h ih =>
      have hmapped := ih.concat i (f a)
      have hupdate : (fun j => (Function.update traces i (traces i ++ [a]) j).map f) =
          Function.update (fun j => (traces j).map f) i ((traces i).map f ++ [f a]) := by
        funext j
        rw [Function.apply_update (fun _ => List.map f), List.map_append]
        rfl
      rw [hupdate, List.map_append]
      exact hmapped

namespace Ledger

variable {ρ : Type*} {n : ℕ}

def Event.acquires? : Event ρ → Bool
  | .acquire _ _ => true
  | _ => false

variable [DecidableEq ρ]

/-- What an event acquires is not live after the trace. -/
def IsFresh (before : List (Event ρ)) (e : Event ρ) : Prop :=
  ∀ live r parent, run step [] before = some live → e = .acquire r parent → ¬IsLive live r

/-- Nothing is acquired while it is live. -/
def AcquiresFresh (trace : List (Event ρ)) : Prop := Guarded Event.acquires? IsFresh trace

/-- A trace that the ledger accepts acquires nothing twice. -/
theorem acquiresFresh_of_run {trace : List (Event ρ)} {live : Live ρ}
    (h : run step [] trace = some live) : AcquiresFresh trace := by
  rintro before e after rfl - held r parent hheld rfl
  rw [run_append, hheld, Option.bind_some, run_cons, Option.bind_eq_some_iff] at h
  obtain ⟨next, hnext, -⟩ := h
  simp only [step] at hnext
  split at hnext
  · rename_i hfresh
    exact hfresh.1
  · cases hnext

theorem AcquiresFresh.of_concat {trace : List (Event ρ)} {e : Event ρ}
    (h : AcquiresFresh (trace ++ [e])) : AcquiresFresh trace := by
  intro before a after htrace ha
  exact h before a (after ++ [e]) (by rw [htrace, List.append_assoc]; rfl) ha

/-- What is acquired last was not live. -/
theorem AcquiresFresh.last {trace : List (Event ρ)} {e : Event ρ} {live : Live ρ}
    (h : AcquiresFresh (trace ++ [e])) (hlive : run step [] trace = some live) (r : ρ)
    (parent : Option ρ) (he : e = .acquire r parent) : ¬IsLive live r :=
  h trace e [] rfl (by rw [he]; rfl) live r parent hlive he

/-- The common ledger of a mixed trace is shared by the parties' own. -/
theorem shares_of_interleaves {traces : Fin n → List (Event ρ)} {trace : List (Event ρ)}
    (h : Interleaves traces trace) (hfresh : AcquiresFresh trace)
    (hown : ∀ w, ∃ mine, run step [] (traces w) = some mine) :
    ∃ parts live, run step [] trace = some live ∧ Shares parts live ∧
      ∀ w, run step [] (traces w) = some (parts w) := by
  induction h with
  | nil => exact ⟨fun _ => [], [], rfl, .nil, fun _ => rfl⟩
  | @concat traces trace i a h ih =>
      obtain ⟨mine, hmine⟩ := hown i
      rw [Function.update_self, run_concat_eq_some] at hmine
      obtain ⟨before, hbefore, hstep⟩ := hmine
      have hothers (w : Fin n) : ∃ mine, run step [] (traces w) = some mine := by
        by_cases hw : w = i
        · exact ⟨before, hw ▸ hbefore⟩
        · have hother := hown w
          rwa [Function.update_of_ne hw] at hother
      obtain ⟨parts, live, hlive, hshares, hparts⟩ := ih hfresh.of_concat hothers
      obtain rfl := Option.some.inj (hbefore.symm.trans (hparts i))
      obtain ⟨after, hafter, hshared⟩ := hshares.step i (hfresh.last hlive) hstep
      refine ⟨_, after, run_concat_eq_some.mpr ⟨live, hlive, hafter⟩, hshared, fun w => ?_⟩
      by_cases hw : w = i
      · subst hw
        rw [Function.update_self, Function.update_self, run_concat_eq_some]
        exact ⟨_, hparts w, hstep⟩
      · rw [Function.update_of_ne hw, Function.update_of_ne hw]
        exact hparts w

/-- Parties that each release what they acquire leave nothing behind together. -/
theorem Balanced.interleave {traces : Fin n → List (Event ρ)} {trace : List (Event ρ)}
    (h : Interleaves traces trace) (hfresh : AcquiresFresh trace)
    (hown : ∀ w, Balanced (traces w)) : Balanced trace := by
  obtain ⟨parts, live, hlive, hshares, hparts⟩ :=
    shares_of_interleaves h hfresh fun w => ⟨[], hown w⟩
  have hnothing : parts = fun _ => [] := by
    funext w
    exact Option.some.inj ((hparts w).symm.trans (hown w))
  have hempty : live = [] := by
    apply List.length_eq_zero_iff.mp
    rw [hshares.length_eq, hnothing]
    simp
  rw [Balanced, hlive, hempty]

end Ledger

end Foundation
