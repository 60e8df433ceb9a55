import DeviceDiscovery.Foundation.Transition

/-!
A ledger of resources.

A program's calls are replayed against the list of live resources. Each live
resource is recorded with the resource it depends on, if any. The replay is
refused when a resource is acquired twice without a release in between, used or
released while it is not live, acquired under a resource that is not live, or
released while another one still depends on it. A trace is `Balanced` when it is
accepted from nothing and leaves nothing.
-/

namespace Foundation.Ledger

open Foundation

inductive Event (ρ : Type*) where
  | acquire (r : ρ) (parent : Option ρ)
  | use (r : ρ)
  | release (r : ρ)
  deriving DecidableEq, Repr

variable {ρ : Type*} [DecidableEq ρ]

/-- The live resources, newest first, each with the one it depends on. -/
abbrev Live (ρ : Type*) := List (ρ × Option ρ)

def IsLive (live : Live ρ) (r : ρ) : Prop := r ∈ live.map Prod.fst

instance (live : Live ρ) (r : ρ) : Decidable (IsLive live r) :=
  inferInstanceAs (Decidable (r ∈ live.map Prod.fst))

def step (live : Live ρ) : Event ρ → Option (Live ρ)
  | .acquire r parent =>
      if ¬IsLive live r ∧ ∀ p ∈ parent, IsLive live p then some ((r, parent) :: live) else none
  | .use r => if IsLive live r then some live else none
  | .release r =>
      if IsLive live r ∧ ∀ x ∈ live, x.2 ≠ some r then some (live.filter fun x => x.1 ≠ r)
      else none

/-- Every resource is released, after all uses and before what it depends on. -/
def Balanced (trace : List (Event ρ)) : Prop := run step [] trace = some []

/-- The events of one kind on one resource. -/
def acquisitions (r : ρ) (trace : List (Event ρ)) : ℕ :=
  trace.countP fun e => match e with | .acquire s _ => s = r | _ => false

def releases (r : ρ) (trace : List (Event ρ)) : ℕ := trace.countP (· = .release r)

/-- No step makes a resource live twice. -/
theorem nodup_of_step {live after : Live ρ} {e : Event ρ} (h : (live.map Prod.fst).Nodup)
    (hstep : step live e = some after) : (after.map Prod.fst).Nodup := by
  cases e with
  | acquire r parent =>
      simp only [step] at hstep
      split at hstep
      · rename_i hfresh
        cases hstep
        exact List.nodup_cons.mpr ⟨hfresh.1, h⟩
      · cases hstep
  | use r =>
      simp only [step] at hstep
      split at hstep
      · cases hstep
        exact h
      · cases hstep
  | release r =>
      simp only [step] at hstep
      split at hstep
      · cases hstep
        exact h.sublist (List.filter_sublist.map Prod.fst)
      · cases hstep

/-- No resource is live twice. -/
theorem nodup_of_run {trace : List (Event ρ)} {live : Live ρ}
    (h : run step [] trace = some live) : (live.map Prod.fst).Nodup :=
  run_induction (P := fun _ live => (live.map Prod.fst).Nodup) (by simp)
    (fun _ _ _ _ _ hnodup hstep => nodup_of_step hnodup hstep) trace live h

/-- What has been acquired and not released is live. -/
theorem acquisitions_eq {trace : List (Event ρ)} {live : Live ρ}
    (h : run step [] trace = some live) (r : ρ) :
    acquisitions r trace = releases r trace + (live.map Prod.fst).count r := by
  refine run_induction (P := fun trace live => acquisitions r trace =
    releases r trace + (live.map Prod.fst).count r) (by simp [acquisitions, releases]) ?_
    trace live h
  rintro trace live e after hrun ih hstep
  simp only [acquisitions, releases, List.countP_append, List.countP_singleton] at ih ⊢
  cases e with
  | acquire s parent =>
      simp only [step] at hstep
      split at hstep
      · cases hstep
        by_cases hs : s = r
        · simp [hs, ih]
          omega
        · simp [hs, ih]
      · cases hstep
  | use s =>
      simp only [step] at hstep
      split at hstep
      · cases hstep
        simpa using ih
      · cases hstep
  | release s =>
      simp only [step] at hstep
      split at hstep
      · rename_i hlive
        cases hstep
        have hnodup := nodup_of_run hrun
        have hkept : (live.filter fun x => x.1 ≠ s).map Prod.fst =
            (live.map Prod.fst).filter fun x => x ≠ s := by
          rw [List.filter_map]
          rfl
        rw [hkept]
        -- A live resource is live once, so its release takes its count to zero.
        by_cases hs : s = r
        · subst hs
          have hone : (live.map Prod.fst).count s = 1 := List.count_eq_one_of_mem hnodup hlive.1
          have hzero : ((live.map Prod.fst).filter fun x => x ≠ s).count s = 0 := by
            rw [List.count_eq_zero]
            simp
          rw [hzero, ih, hone]
          simp
        · have hsame : ((live.map Prod.fst).filter fun x => x ≠ s).count r =
              (live.map Prod.fst).count r := by
            rw [List.count_filter]
            simpa using Ne.symm hs
          rw [hsame, ih]
          simp [hs]
      · cases hstep

/-- In a balanced trace each acquisition of a resource has its one release. -/
theorem Balanced.acquisitions_eq_releases {trace : List (Event ρ)} (h : Balanced trace) (r : ρ) :
    acquisitions r trace = releases r trace := by
  simpa using acquisitions_eq h r

/-- When a resource is released it is live and nothing depends on it any more. -/
theorem nothing_depends_of_release {before after : List (Event ρ)} {live : Live ρ} {r : ρ}
    (h : run step [] (before ++ .release r :: after) = some live) :
    ∃ held, run step [] before = some held ∧ IsLive held r ∧ ∀ x ∈ held, x.2 ≠ some r := by
  rw [run_append, Option.bind_eq_some_iff] at h
  obtain ⟨held, hheld, hrest⟩ := h
  rw [run_cons, Option.bind_eq_some_iff] at hrest
  obtain ⟨next, hnext, -⟩ := hrest
  simp only [step] at hnext
  split at hnext
  · rename_i hlive
    exact ⟨held, hheld, hlive⟩
  · cases hnext

/-- Traces that leave nothing follow one another. -/
theorem Balanced.append {trace rest : List (Event ρ)} (h : Balanced trace)
    (hrest : Balanced rest) : Balanced (trace ++ rest) := by
  rw [Balanced, run_append, h]
  exact hrest

theorem Balanced.flatMap {ι : Type*} {parties : List ι} {traces : ι → List (Event ρ)}
    (h : ∀ i, Balanced (traces i)) : Balanced (parties.flatMap traces) := by
  induction parties with
  | nil => rfl
  | cons i parties ih => exact (h i).append ih

/-! ### Uses and scopes -/

theorem run_uses {live : Live ρ} {events : List (Event ρ)}
    (h : ∀ e ∈ events, ∃ r, e = .use r ∧ IsLive live r) : run step live events = some live := by
  induction events with
  | nil => rfl
  | cons e events ih =>
      obtain ⟨r, rfl, hlive⟩ := h e (by simp)
      rw [run_cons, step, if_pos hlive]
      exact ih fun e he => h e (by simp [he])

/-- A resource acquired, used and released leaves the others as they were. -/
theorem run_scope {live : Live ρ} {r : ρ} {parent : Option ρ} {uses : List (Event ρ)}
    (hfresh : ¬IsLive live r) (hnone : ∀ x ∈ live, x.2 ≠ some r)
    (hparent : ∀ p ∈ parent, IsLive live p)
    (huses : ∀ e ∈ uses, ∃ s, e = .use s ∧ (s = r ∨ IsLive live s)) :
    run step live (.acquire r parent :: (uses ++ [.release r])) = some live := by
  have hparent' : parent ≠ some r := by
    rintro rfl
    exact hfresh (hparent r rfl)
  have hinside : run step ((r, parent) :: live) uses = some ((r, parent) :: live) := by
    refine run_uses fun e he => ?_
    obtain ⟨s, rfl, hs⟩ := huses e he
    refine ⟨s, rfl, List.mem_map.mpr ?_⟩
    rcases hs with rfl | hs
    · exact ⟨(s, parent), by simp, rfl⟩
    · obtain ⟨x, hx, rfl⟩ := List.mem_map.mp hs
      exact ⟨x, by simp [hx], rfl⟩
  have hrelease : step ((r, parent) :: live) (.release r) = some live := by
    have hkept : live.filter (fun x => x.1 ≠ r) = live := by
      rw [List.filter_eq_self]
      intro x hx
      simp only [ne_eq, decide_eq_true_eq]
      rintro rfl
      exact hfresh (List.mem_map_of_mem hx)
    rw [step, if_pos ⟨by simp [IsLive], by simpa [hparent'] using hnone⟩]
    simpa using hkept
  rw [run_cons, step, if_pos ⟨hfresh, hparent⟩, Option.bind_some, run_append, hinside]
  simp [run_cons, hrelease]

/-! ### Renaming

A component keeps its own ledger. What it proves there holds in the ledger of
the program around it, where its resources are some among others. -/

variable {τ : Type*} [DecidableEq τ]

def Event.rename (f : ρ → τ) : Event ρ → Event τ
  | .acquire r parent => .acquire (f r) (parent.map f)
  | .use r => .use (f r)
  | .release r => .release (f r)

def Live.rename (f : ρ → τ) (live : Live ρ) : Live τ :=
  List.map (fun x => (f x.1, Option.map f x.2)) live

omit [DecidableEq ρ] [DecidableEq τ] in
theorem isLive_rename {f : ρ → τ} (hf : Function.Injective f) (live : Live ρ) (r : ρ) :
    IsLive (live.rename f) (f r) ↔ IsLive live r := by
  have hfst : (live.rename f).map Prod.fst = (List.map Prod.fst live).map f := by
    simp [Live.rename]
  rw [IsLive, hfst, List.mem_map_of_injective hf, IsLive]

theorem step_rename {f : ρ → τ} (hf : Function.Injective f) (live : Live ρ) (e : Event ρ) :
    step (live.rename f) (e.rename f) = (step live e).map (Live.rename f) := by
  cases e with
  | acquire r parent =>
      have hguard : (¬IsLive (live.rename f) (f r) ∧ ∀ p ∈ parent.map f, IsLive (live.rename f) p) ↔
          (¬IsLive live r ∧ ∀ p ∈ parent, IsLive live p) := by
        rw [isLive_rename hf]
        cases parent with
        | none => simp
        | some p => simp [isLive_rename hf]
      simp only [Event.rename, step]
      rw [if_congr hguard rfl rfl]
      split <;> rfl
  | use r =>
      simp only [Event.rename, step]
      rw [if_congr (isLive_rename hf live r) rfl rfl]
      split <;> rfl
  | release r =>
      have hnone : (∀ x ∈ live.rename f, x.2 ≠ some (f r)) ↔ ∀ x ∈ live, x.2 ≠ some r := by
        have hsome : ∀ p : Option ρ, p.map f = some (f r) ↔ p = some r := fun p => by
          rw [← Option.map_some, (Option.map_injective hf).eq_iff]
        rw [Live.rename, List.forall_mem_map]
        simp only [ne_eq, hsome]
      have hkept : (live.rename f).filter (fun x => x.1 ≠ f r) =
          Live.rename f (live.filter fun x => x.1 ≠ r) := by
        rw [Live.rename, List.filter_map]
        simp [Live.rename, Function.comp_def, hf.eq_iff]
      simp only [Event.rename, step]
      rw [if_congr (and_congr (isLive_rename hf live r) hnone) rfl rfl, hkept]
      split <;> rfl

theorem run_rename {f : ρ → τ} (hf : Function.Injective f) (live : Live ρ)
    (trace : List (Event ρ)) :
    run step (live.rename f) (trace.map (Event.rename f)) =
      (run step live trace).map (Live.rename f) := by
  induction trace generalizing live with
  | nil => rfl
  | cons e trace ih =>
      rw [List.map_cons, run_cons, run_cons, step_rename hf]
      cases step live e with
      | none => rfl
      | some next => exact ih next

theorem Balanced.rename {f : ρ → τ} (hf : Function.Injective f) {trace : List (Event ρ)}
    (h : Balanced trace) : Balanced (trace.map (Event.rename f)) := by
  have hrun := run_rename hf [] trace
  rw [h] at hrun
  exact hrun

end Foundation.Ledger
