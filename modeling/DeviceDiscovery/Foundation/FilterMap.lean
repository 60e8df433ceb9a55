import Mathlib.Data.List.Nodup
import Mathlib.Data.List.Basic

/-!
What a partial function makes of a list, counted.

A search that goes on only with one result asks whether a list has no item that
gives something, one, or more. Each answer is told by the places of the items.
-/

namespace Foundation

variable {α β : Type*} {f : α → Option β} {xs : List α}

/-- Only one item of a list gives something. -/
theorem filterMap_eq_singleton_iff {b : β} :
    xs.filterMap f = [b] ↔ ∃ before a after, xs = before ++ a :: after ∧ f a = some b ∧
      ∀ x ∈ before ++ after, f x = none := by
  rw [List.filterMap_eq_cons_iff]
  simp only [List.filterMap_eq_nil_iff, List.forall_mem_append]
  constructor
  · rintro ⟨before, a, after, rfl, hbefore, ha, hafter⟩
    exact ⟨before, a, after, rfl, ha, hbefore, hafter⟩
  · rintro ⟨before, a, after, rfl, ha, hbefore, hafter⟩
    exact ⟨before, a, after, rfl, hbefore, ha, hafter⟩

/-- In a list without repetition the item is told by itself, whatever its place. -/
theorem filterMap_eq_singleton {a : α} {b : β} (hnodup : xs.Nodup) (hmem : a ∈ xs)
    (ha : f a = some b) (hother : ∀ x ∈ xs, x ≠ a → f x = none) : xs.filterMap f = [b] := by
  obtain ⟨before, after, rfl⟩ := List.append_of_mem hmem
  have hnot : a ∉ before ++ after := (List.nodup_cons.mp (List.nodup_middle.mp hnodup)).1
  refine filterMap_eq_singleton_iff.mpr ⟨before, a, after, rfl, ha, fun x hx => ?_⟩
  apply hother x
  · exact ((List.sublist_cons_self a after).append_left before).subset hx
  · rintro rfl
    exact hnot hx

theorem two_le_length_filterMap_iff :
    2 ≤ (xs.filterMap f).length ↔ ∃ before a between b after,
      xs = before ++ a :: (between ++ b :: after) ∧ f a ≠ none ∧ f b ≠ none := by
  constructor
  · intro h
    obtain ⟨x, y, rest, hlist⟩ : ∃ x y rest, xs.filterMap f = x :: y :: rest := by
      match xs.filterMap f, h with
      | x :: y :: rest, _ => exact ⟨x, y, rest, rfl⟩
    obtain ⟨before, a, tail, rfl, -, ha, htail⟩ := List.filterMap_eq_cons_iff.mp hlist
    obtain ⟨between, b, after, rfl, -, hb, -⟩ := List.filterMap_eq_cons_iff.mp htail
    exact ⟨before, a, between, b, after, rfl, by simp [ha], by simp [hb]⟩
  · rintro ⟨before, a, between, b, after, rfl, ha, hb⟩
    obtain ⟨x, hx⟩ := Option.ne_none_iff_exists'.mp ha
    obtain ⟨y, hy⟩ := Option.ne_none_iff_exists'.mp hb
    simp only [List.filterMap_append, List.filterMap_cons_some hx, List.filterMap_cons_some hy,
      List.length_append, List.length_cons]
    omega

end Foundation
