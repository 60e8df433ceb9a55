import Mathlib.Algebra.BigOperators.Fin
import DeviceDiscovery.Foundation.Ledger

/-!
One ledger for several parties.

Each party keeps its own ledger; the process keeps one in which the resources of
all parties are live (`Shares`). What a party may do by its own ledger it may do
in the common one, as long as a resource it acquires is live nowhere
(`Shares.step`): no party can be refused because of the others, and none of them
loses a resource to it.
-/

namespace Foundation.Ledger

open Foundation

variable {ρ : Type*} {n : ℕ}

/-- What a live resource depends on is live. -/
def Closed (live : Live ρ) : Prop := ∀ x ∈ live, ∀ p ∈ x.2, IsLive live p

theorem closed_of_step [DecidableEq ρ] {live after : Live ρ} {e : Event ρ} (h : Closed live)
    (hstep : step live e = some after) : Closed after := by
  cases e with
  | acquire r parent =>
      simp only [step] at hstep
      split at hstep
      · rename_i hguard
        cases hstep
        intro x hx p hp
        apply List.mem_cons_of_mem
        rcases List.mem_cons.mp hx with rfl | hx
        · exact hguard.2 p hp
        · exact h x hx p hp
      · cases hstep
  | use r =>
      simp only [step] at hstep
      split at hstep
      · cases hstep
        exact h
      · cases hstep
  | release r =>
      simp only [step] at hstep
      split at hstep
      · rename_i hguard
        cases hstep
        intro x hx p hp
        have hmem := (List.mem_filter.mp hx).1
        have hne : p ≠ r := by
          rintro rfl
          exact hguard.2 x hmem (Option.mem_def.mp hp)
        obtain ⟨y, hy, rfl⟩ := List.mem_map.mp (h x hmem p hp)
        exact List.mem_map_of_mem (List.mem_filter.mpr ⟨hy, by simpa using hne⟩)
      · cases hstep

theorem isLive_append (mine others : Live ρ) (r : ρ) :
    IsLive (mine ++ others) r ↔ IsLive mine r ∨ IsLive others r := by
  simp only [IsLive, List.map_append, List.mem_append]

theorem isLive_perm {live other : Live ρ} (h : live.Perm other) (r : ρ) :
    IsLive live r ↔ IsLive other r :=
  (h.map Prod.fst).mem_iff

/-- The frame rule: what a part of the ledger allows, the whole allows. -/
theorem step_frame [DecidableEq ρ] {live mine mine' others : Live ρ} {e : Event ρ}
    (hlive : live.Perm (mine ++ others)) (hnodup : (live.map Prod.fst).Nodup)
    (hclosed : Closed others) (hfresh : ∀ r parent, e = .acquire r parent → ¬IsLive live r)
    (hstep : step mine e = some mine') :
    ∃ live', step live e = some live' ∧ live'.Perm (mine' ++ others) := by
  have hmine (r : ρ) (hr : IsLive mine r) : IsLive live r :=
    (isLive_perm hlive r).mpr ((isLive_append mine others r).mpr (.inl hr))
  cases e with
  | acquire r parent =>
      simp only [step] at hstep
      split at hstep
      · rename_i hguard
        cases hstep
        refine ⟨(r, parent) :: live, ?_, hlive.cons _⟩
        rw [step, if_pos ⟨hfresh r parent rfl, fun p hp => hmine p (hguard.2 p hp)⟩]
      · cases hstep
  | use r =>
      simp only [step] at hstep
      split at hstep
      · rename_i hr
        cases hstep
        exact ⟨live, by rw [step, if_pos (hmine r hr)], hlive⟩
      · cases hstep
  | release r =>
      simp only [step] at hstep
      split at hstep
      · rename_i hguard
        cases hstep
        have hapart : ¬IsLive others r := by
          intro hr
          rw [(hlive.map Prod.fst).nodup_iff, List.map_append, List.nodup_append] at hnodup
          exact hnodup.2.2 r hguard.1 r hr rfl
        refine ⟨live.filter fun x => x.1 ≠ r, ?_, ?_⟩
        · have hnone : ∀ x ∈ live, x.2 ≠ some r := by
            intro x hx
            rcases List.mem_append.mp (hlive.mem_iff.mp hx) with hx | hx
            · exact hguard.2 x hx
            · intro hr
              exact hapart (hclosed x hx r (Option.mem_def.mpr hr))
          rw [step, if_pos ⟨hmine r hguard.1, hnone⟩]
        · have hkept : others.filter (fun x => x.1 ≠ r) = others := by
            rw [List.filter_eq_self]
            intro x hx
            simp only [ne_eq, decide_eq_true_eq]
            rintro rfl
            exact hapart (List.mem_map_of_mem hx)
          have hfiltered := hlive.filter (fun x => decide (x.1 ≠ r))
          rwa [List.filter_append, hkept] at hfiltered
      · cases hstep

/-! ### The parties -/

/-- The common ledger holds what the parties hold, and nothing twice. -/
structure Shares (parts : Fin n → Live ρ) (live : Live ρ) : Prop where
  perm : live.Perm ((List.finRange n).flatMap parts)
  nodup : (live.map Prod.fst).Nodup
  closed : ∀ w, Closed (parts w)

theorem flatMap_finRange_perm {α : Type*} (f : Fin n → List α) (w : Fin n) :
    ((List.finRange n).flatMap f).Perm (f w ++ ((List.finRange n).erase w).flatMap f) := by
  have hsplit : (List.finRange n).Perm (w :: (List.finRange n).erase w) :=
    List.perm_cons_erase (List.mem_finRange w)
  simpa using hsplit.flatMap_right f

namespace Shares

variable {parts : Fin n → Live ρ} {live : Live ρ}

theorem nil : Shares (fun _ : Fin n => ([] : Live ρ)) [] :=
  ⟨by simp, by simp, fun _ _ h => nomatch h⟩

theorem isLive_iff (h : Shares parts live) (r : ρ) : IsLive live r ↔ ∃ w, IsLive (parts w) r := by
  rw [isLive_perm h.perm]
  simp only [IsLive, List.map_flatMap, List.mem_flatMap, List.mem_finRange, true_and]

/-- What one party holds no other one holds. -/
theorem eq_of_isLive (h : Shares parts live) {w v : Fin n} {r : ρ} (hw : IsLive (parts w) r)
    (hv : IsLive (parts v) r) : w = v := by
  by_contra hne
  have hnodup := h.nodup
  rw [((h.perm.trans (flatMap_finRange_perm parts w)).map Prod.fst).nodup_iff, List.map_append,
    List.nodup_append] at hnodup
  refine hnodup.2.2 r hw r ?_ rfl
  rw [List.map_flatMap, List.mem_flatMap]
  exact ⟨v, (List.mem_erase_of_ne (Ne.symm hne)).mpr (List.mem_finRange v), hv⟩

theorem length_eq (h : Shares parts live) : live.length = ∑ w, (parts w).length := by
  rw [h.perm.length_eq, List.length_flatMap, Fin.sum_univ_def]

/-- What a party may do by its own ledger it may do in the common one. -/
theorem step [DecidableEq ρ] (h : Shares parts live) (w : Fin n) {e : Event ρ} {mine : Live ρ}
    (hfresh : ∀ r parent, e = .acquire r parent → ¬IsLive live r)
    (hstep : Ledger.step (parts w) e = some mine) :
    ∃ live', Ledger.step live e = some live' ∧ Shares (Function.update parts w mine) live' := by
  let others := ((List.finRange n).erase w).flatMap parts
  have hclosed : Closed others := by
    intro x hx p hp
    obtain ⟨v, hv, hmem⟩ := List.mem_flatMap.mp hx
    obtain ⟨y, hy, rfl⟩ := List.mem_map.mp (h.closed v x hmem p hp)
    exact List.mem_map_of_mem (List.mem_flatMap.mpr ⟨v, hv, hy⟩)
  obtain ⟨live', hlive', hperm⟩ :=
    step_frame (h.perm.trans (flatMap_finRange_perm parts w)) h.nodup hclosed hfresh hstep
  refine ⟨live', hlive', ?_, ?_, fun v => ?_⟩
  · have hsame : others = ((List.finRange n).erase w).flatMap (Function.update parts w mine) := by
      apply List.flatMap_congr
      intro v hv
      have hne : v ≠ w := by
        rintro rfl
        exact (List.nodup_finRange n).not_mem_erase hv
      rw [Function.update_of_ne hne]
    have hself := flatMap_finRange_perm (Function.update parts w mine) w
    rw [Function.update_self, ← hsame] at hself
    exact hperm.trans hself.symm
  · exact nodup_of_step h.nodup hlive'
  · by_cases hv : v = w
    · subst hv
      rw [Function.update_self]
      exact closed_of_step (h.closed v) hstep
    · rw [Function.update_of_ne hv]
      exact h.closed v

end Shares

end Foundation.Ledger
