import Mathlib.Data.List.Nodup
import Mathlib.Data.List.Perm.Basic
import Mathlib.Data.List.Perm.Subperm

/-!
Writes to a store with keys.

A write undoes the writes before it to the same key, and writes to different keys
do not see each other. What a list of writes leaves is then told by the last write
to each key, whatever their order (`Overwrites.foldl_eq`).
-/

namespace Foundation

structure Overwrites {σ κ α : Type*} (key : σ → κ) (act : α → σ → α) : Prop where
  absorb : ∀ a s t, key s = key t → act (act a s) t = act a t
  comm : ∀ a s t, key s ≠ key t → act (act a s) t = act (act a t) s

section Writes

variable {σ κ α : Type*} [DecidableEq κ] (key : σ → κ)

/-- The last write to a key. -/
def lastOf (k : κ) : List σ → Option σ
  | [] => none
  | s :: rest => (lastOf k rest).or (if key s = k then some s else none)

/-- The last write to each key, in the order of the list. -/
def lastWrites : List σ → List σ
  | [] => []
  | s :: rest => if (lastOf key (key s) rest).isSome then lastWrites rest else s :: lastWrites rest

variable {key}

theorem mem_lastWrites_iff {ws : List σ} {s : σ} :
    s ∈ lastWrites key ws ↔ lastOf key (key s) ws = some s := by
  induction ws with
  | nil => simp [lastWrites, lastOf]
  | cons t rest ih =>
      rw [lastWrites, lastOf, Option.or_eq_some_iff]
      split
      · rename_i hlater
        rw [ih, iff_self_or]
        rintro ⟨hnone, hlast⟩
        split at hlast
        · rename_i hkey
          rw [hkey, hnone] at hlater
          cases hlater
        · cases hlast
      · rename_i hlast
        rw [List.mem_cons, ih, or_comm]
        apply or_congr_right
        constructor
        · rintro rfl
          exact ⟨Option.not_isSome_iff_eq_none.mp hlast, if_pos rfl⟩
        · rintro ⟨-, h⟩
          split at h
          · exact (Option.some.inj h).symm
          · cases h

theorem nodup_keys_lastWrites (ws : List σ) : ((lastWrites key ws).map key).Nodup := by
  induction ws with
  | nil => exact List.nodup_nil
  | cons s rest ih =>
      rw [lastWrites]
      split
      · exact ih
      · rename_i hlast
        rw [List.map_cons, List.nodup_cons]
        refine ⟨fun hmem => hlast ?_, ih⟩
        obtain ⟨t, ht, hkey⟩ := List.mem_map.mp hmem
        rw [← hkey, mem_lastWrites_iff.mp ht]
        rfl

theorem perm_lastWrites {ws ws' : List σ} (h : ∀ k, lastOf key k ws = lastOf key k ws') :
    (lastWrites key ws).Perm (lastWrites key ws') := by
  apply (List.perm_ext_iff_of_nodup (nodup_keys_lastWrites ws).of_map
    (nodup_keys_lastWrites ws').of_map).mpr
  intro s
  rw [mem_lastWrites_iff, mem_lastWrites_iff, h]

namespace Overwrites

variable {act : α → σ → α} (h : Overwrites key act)

include h

/-- A write to a key that is written again does nothing. -/
theorem foldl_of_later {s : σ} {ws : List σ} (hlater : (lastOf key (key s) ws).isSome) (a : α) :
    ws.foldl act (act a s) = ws.foldl act a := by
  induction ws generalizing a with
  | nil => cases hlater
  | cons t rest ih =>
      show rest.foldl act (act (act a s) t) = rest.foldl act (act a t)
      by_cases hkey : key s = key t
      · rw [h.absorb a s t hkey]
      · rw [lastOf, if_neg (Ne.symm hkey), Option.or_none] at hlater
        rw [h.comm a s t hkey, ih hlater]

theorem foldl_lastWrites (ws : List σ) (a : α) :
    (lastWrites key ws).foldl act a = ws.foldl act a := by
  induction ws generalizing a with
  | nil => rfl
  | cons s rest ih =>
      rw [lastWrites]
      split
      · rename_i hlater
        rw [ih, List.foldl_cons, h.foldl_of_later hlater]
      · rw [List.foldl_cons, List.foldl_cons, ih]

/-- The last write to each key is all that matters. -/
theorem foldl_eq {ws ws' : List σ} (hlast : ∀ k, lastOf key k ws = lastOf key k ws') (a : α) :
    ws.foldl act a = ws'.foldl act a := by
  rw [← h.foldl_lastWrites ws, ← h.foldl_lastWrites ws']
  apply (perm_lastWrites hlast).foldl_eq'
  intro s hs t ht b
  by_cases hkey : key s = key t
  · have hsame : s = t := by
      have hs' := mem_lastWrites_iff.mp hs
      rw [hkey, mem_lastWrites_iff.mp ht] at hs'
      exact (Option.some.inj hs').symm
    rw [hsame]
  · exact h.comm b s t hkey

end Overwrites

end Writes

end Foundation
