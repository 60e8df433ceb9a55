import Mathlib.Data.List.Induction
import Mathlib.Data.List.Nodup
import Mathlib.Data.List.Perm.Subperm

/-!
Lists collected without repetition.

A loop that appends an element only when the list does not hold it yet collects
the first occurrences of what it meets, in order. `insertNew` is one turn of
such a loop, and `foldl_insertNew` identifies the whole loop with
`List.eraseDups`.

A loop that keeps one record for each key, and merges what it meets later into
the record it has, collects the first occurrences of the keys (`foldl_upsert`):
`upsert` is one turn of it.

A list that comes in groups is collected group by group when the groups have
nothing in common. Where a list without repetition, given in groups, is what is
collected from as many groups that are no longer, the groups agree
(`subset_of_flatMap_eq_eraseDups`).
-/

namespace Foundation

variable {α : Type} [BEq α] [LawfulBEq α]

/-- Appends `x` unless the list already holds it. -/
def insertNew (xs : List α) (x : α) : List α := if x ∈ xs then xs else xs ++ [x]

theorem eraseDups_append_singleton (xs : List α) (x : α) :
    (xs ++ [x]).eraseDups = insertNew xs.eraseDups x := by
  rw [List.eraseDups_append, insertNew]
  by_cases hx : x ∈ xs
  · rw [if_pos (List.mem_eraseDups.mpr hx)]
    simp [List.removeAll, hx]
  · rw [if_neg fun h => hx (List.mem_eraseDups.mp h)]
    simp [List.removeAll, hx, List.eraseDups_cons]

/-- What the loop collects: the first occurrences of what it meets. -/
theorem foldl_insertNew (xs : List α) : xs.foldl insertNew [] = xs.eraseDups := by
  induction xs using List.reverseRecOn with
  | nil => rfl
  | append_singleton xs x ih =>
      rw [List.foldl_append, List.foldl_cons, List.foldl_nil, ih, eraseDups_append_singleton]

/-- The loop from a list that it has already. -/
theorem foldl_insertNew_from (acc xs : List α) :
    xs.foldl insertNew acc = acc ++ xs.eraseDups.filter fun x => x ∉ acc := by
  induction xs using List.reverseRecOn with
  | nil => simp
  | append_singleton xs x ih =>
      rw [List.foldl_append, List.foldl_cons, List.foldl_nil, ih, eraseDups_append_singleton]
      by_cases hold : x ∈ acc
      · -- `x` is filtered out wherever it stands.
        have hfilter : (insertNew xs.eraseDups x).filter (fun y => y ∉ acc) =
            xs.eraseDups.filter fun y => y ∉ acc := by
          unfold insertNew
          split <;> simp [hold]
        rw [hfilter, insertNew, if_pos (List.mem_append_left _ hold)]
      · by_cases hmem : x ∈ xs
        · have hfound : x ∈ acc ++ xs.eraseDups.filter fun y => y ∉ acc := by
            simp [hmem, hold]
          rw [insertNew, if_pos hfound, insertNew, if_pos (List.mem_eraseDups.mpr hmem)]
        · have hnew : x ∉ acc ++ xs.eraseDups.filter fun y => y ∉ acc := by
            simp [hmem, hold]
          rw [insertNew, if_neg hnew, insertNew, if_neg (mt List.mem_eraseDups.mp hmem),
            List.filter_append, List.append_assoc]
          simp [hold]

theorem mem_insertNew {xs : List α} {x y : α} : y ∈ insertNew xs x ↔ y ∈ xs ∨ y = x := by
  unfold insertNew
  split
  · rename_i hmem
    refine ⟨.inl, ?_⟩
    rintro (hold | rfl)
    · exact hold
    · exact hmem
  · rw [List.mem_append, List.mem_singleton]

theorem nodup_insertNew {xs : List α} (h : xs.Nodup) (x : α) : (insertNew xs x).Nodup := by
  rw [insertNew]
  split
  · exact h
  · rename_i hx
    have hdisjoint : ∀ a ∈ xs, ∀ b ∈ [x], a ≠ b := by
      intro a ha b hb hab
      rw [List.mem_singleton.mp hb] at hab
      exact hx (hab ▸ ha)
    exact List.nodup_append.mpr ⟨h, by simp, hdisjoint⟩

theorem nodup_eraseDups (xs : List α) : xs.eraseDups.Nodup := by
  induction xs using List.reverseRecOn with
  | nil => exact List.nodup_nil
  | append_singleton xs x ih =>
      rw [eraseDups_append_singleton]
      exact nodup_insertNew ih x

theorem eraseDups_map_of_injective {γ : Type} [BEq γ] [LawfulBEq γ] {f : α → γ}
    (hf : Function.Injective f) (xs : List α) : (xs.map f).eraseDups = xs.eraseDups.map f := by
  induction xs using List.reverseRecOn with
  | nil => rfl
  | append_singleton xs x ih =>
      have hmem : f x ∈ xs.eraseDups.map f ↔ x ∈ xs.eraseDups := by
        simp [hf.eq_iff]
      rw [List.map_append, List.map_singleton, eraseDups_append_singleton,
        eraseDups_append_singleton, ih, insertNew, insertNew]
      by_cases hx : x ∈ xs.eraseDups
      · rw [if_pos hx, if_pos (hmem.mpr hx)]
      · rw [if_neg hx, if_neg (mt hmem.mp hx), List.map_append, List.map_singleton]

theorem length_eraseDups_eq_iff {xs : List α} : xs.eraseDups.length = xs.length ↔ xs.Nodup := by
  have hsub : xs.eraseDups.Subperm xs :=
    (nodup_eraseDups xs).subperm fun x hx => List.mem_eraseDups.mp hx
  constructor
  · intro h
    exact (hsub.perm_of_length_le (Nat.le_of_eq h.symm)).nodup_iff.mp (nodup_eraseDups xs)
  · intro h
    have hsup : xs.Subperm xs.eraseDups := h.subperm fun x hx => List.mem_eraseDups.mpr hx
    exact Nat.le_antisymm hsub.length_le hsup.length_le

/-- A list that is filtered and collected keeps its length when it has no repetition and
nothing is dropped. -/
theorem length_eraseDups_filter_eq_iff {p : α → Bool} {xs : List α} :
    (xs.filter p).eraseDups.length = xs.length ↔ xs.Nodup ∧ ∀ x ∈ xs, p x = true := by
  constructor
  · intro h
    have hcollected : (xs.filter p).eraseDups.length ≤ (xs.filter p).length :=
      ((nodup_eraseDups _).subperm fun x hx => List.mem_eraseDups.mp hx).length_le
    have hfiltered : (xs.filter p).length = xs.length := by
      have hle := List.length_filter_le p xs
      omega
    have hall := List.length_filter_eq_length_iff.mp hfiltered
    rw [List.filter_eq_self.mpr hall] at h
    exact ⟨length_eraseDups_eq_iff.mp h, hall⟩
  · rintro ⟨hnodup, hall⟩
    rw [List.filter_eq_self.mpr hall]
    exact length_eraseDups_eq_iff.mpr hnodup

/-! ### Lists in groups -/

section Groups

variable {β : Type}

theorem eraseDups_append_of_disjoint {xs ys : List α} (h : List.Disjoint xs ys) :
    (xs ++ ys).eraseDups = xs.eraseDups ++ ys.eraseDups := by
  have hkeep : ys.removeAll xs = ys := by
    rw [List.removeAll, List.filter_eq_self]
    intro y hy
    simpa using fun hx => h hx hy
  rw [List.eraseDups_append, hkeep]

theorem eraseDups_flatMap_of_disjoint {f : β → List α} {bs : List β}
    (h : bs.Pairwise fun b c => List.Disjoint (f b) (f c)) :
    (bs.flatMap f).eraseDups = bs.flatMap fun b => (f b).eraseDups := by
  induction bs with
  | nil => rfl
  | cons b bs ih =>
      obtain ⟨hb, hbs⟩ := List.pairwise_cons.mp h
      have hdisjoint : List.Disjoint (f b) (bs.flatMap f) := by
        intro x hx hrest
        obtain ⟨c, hc, hxc⟩ := List.mem_flatMap.mp hrest
        exact hb c hc hx hxc
      rw [List.flatMap_cons, List.flatMap_cons, eraseDups_append_of_disjoint hdisjoint, ih hbs]

theorem length_eraseDups_le {xs ys : List α} (h : xs ⊆ ys) :
    xs.eraseDups.length ≤ ys.eraseDups.length := by
  refine ((nodup_eraseDups xs).subperm fun x hx => ?_).length_le
  exact List.mem_eraseDups.mpr (h (List.mem_eraseDups.mp hx))

/-- What the groups add to each other is no more than what they hold. -/
theorem length_eraseDups_flatMap_le {f g : β → List α} {bs : List β}
    (hlength : ∀ b ∈ bs, (g b).eraseDups.length ≤ (f b).length) :
    (bs.flatMap g).eraseDups.length ≤ (bs.flatMap f).length := by
  induction bs with
  | nil => exact Nat.le_refl 0
  | cons b bs ih =>
      have hrest := ih fun c hc => hlength c (by simp [hc])
      have hnew := length_eraseDups_le (List.filter_sublist (p := fun x => !(g b).elem x)
        (l := bs.flatMap g)).subset
      have hb := hlength b (by simp)
      rw [List.flatMap_cons, List.flatMap_cons, List.eraseDups_append, List.length_append,
        List.length_append, List.removeAll]
      omega

/-- The two lists are cut at the same places, so each group is made of what its
counterpart holds. -/
theorem subset_of_flatMap_eq_eraseDups {f g : β → List α} {bs : List β}
    (hlength : ∀ b ∈ bs, (g b).eraseDups.length ≤ (f b).length)
    (h : bs.flatMap f = (bs.flatMap g).eraseDups) : ∀ b ∈ bs, f b ⊆ g b := by
  induction bs using List.reverseRecOn with
  | nil => exact fun b hb => nomatch hb
  | append_singleton bs b ih =>
      have hinit : ∀ c ∈ bs, (g c).eraseDups.length ≤ (f c).length :=
        fun c hc => hlength c (by simp [hc])
      have hlast := hlength b (by simp)
      have hle := length_eraseDups_flatMap_le hinit
      have hnew := length_eraseDups_le (List.filter_sublist (p := fun x => !(bs.flatMap g).elem x)
        (l := g b)).subset
      rw [List.flatMap_append, List.flatMap_append, List.flatMap_singleton,
        List.flatMap_singleton, List.eraseDups_append, List.removeAll] at h
      have hcount := congrArg List.length h
      rw [List.length_append, List.length_append] at hcount
      obtain ⟨hfirst, hgroup⟩ := List.append_inj h (by omega)
      intro c hc x hx
      rcases List.mem_append.mp hc with hc | hc
      · exact ih hinit hfirst c hc hx
      · rw [List.mem_singleton.mp hc, hgroup, List.mem_eraseDups] at hx
        rw [List.mem_singleton.mp hc]
        exact List.mem_of_mem_filter hx

end Groups

/-! ### Records with a key -/

section Keyed

variable {β : Type} [DecidableEq α] (key : β → α) (merge : β → β → β)

/-- Merges `c` into the first record with its key, or appends it. -/
def upsert (c : β) : List β → List β
  | [] => [c]
  | o :: rest => if key o = key c then merge o c :: rest else o :: upsert c rest

/-- On a list of records that is a function `v` of its keys, an `upsert` changes
the function at one key. -/
theorem upsert_map {ks : List α} (hks : ks.Nodup) {c : β} {v v' : α → β}
    (hkey : ∀ k ∈ ks, key (v k) = k) (hother : ∀ k, k ≠ key c → v' k = v k)
    (hold : key c ∈ ks → v' (key c) = merge (v (key c)) c)
    (hnew : key c ∉ ks → v' (key c) = c) :
    upsert key merge c (ks.map v) = (insertNew ks (key c)).map v' := by
  induction ks with
  | nil => simp [upsert, insertNew, hnew]
  | cons k ks ih =>
      obtain ⟨hk, hks⟩ := List.nodup_cons.mp hks
      rw [List.map_cons, upsert, hkey k (by simp)]
      by_cases hc : k = key c
      · subst hc
        have hrest : ks.map v = ks.map v' := by
          apply List.map_congr_left
          intro l hl
          exact (hother l fun h => hk (h ▸ hl)).symm
        rw [if_pos rfl, insertNew, if_pos (by simp), List.map_cons, hold (by simp), hrest]
      · have hmem : key c ∈ k :: ks ↔ key c ∈ ks := by simp [Ne.symm hc]
        have htail := ih hks (fun l hl => hkey l (by simp [hl])) (fun h => hold (hmem.mpr h))
          fun h => hnew (mt hmem.mp h)
        have hinsert : insertNew (k :: ks) (key c) = k :: insertNew ks (key c) := by
          simp only [insertNew, hmem]
          split <;> rfl
        rw [if_neg hc, htail, hinsert, List.map_cons, hother k hc]

/-- The loop over `cs`, when `v pre` gives the record of a key after the part
`pre` of the loop. -/
theorem foldl_upsert (v : List β → α → β) (hkey : ∀ pre k, key (v pre k) = k) (cs : List β)
    (hother : ∀ pre c k, k ≠ key c → v (pre ++ [c]) k = v pre k)
    (hold : ∀ pre c, c ∈ cs → key c ∈ pre.map key →
      v (pre ++ [c]) (key c) = merge (v pre (key c)) c)
    (hnew : ∀ pre c, c ∈ cs → key c ∉ pre.map key → v (pre ++ [c]) (key c) = c) :
    cs.foldl (fun acc c => upsert key merge c acc) [] = (cs.map key).eraseDups.map (v cs) := by
  induction cs using List.reverseRecOn with
  | nil => rfl
  | append_singleton cs c ih =>
      have hinit := ih (fun pre d hd => hold pre d (by simp [hd]))
        fun pre d hd => hnew pre d (by simp [hd])
      rw [List.foldl_append, List.foldl_cons, List.foldl_nil, hinit, List.map_append,
        List.map_singleton, eraseDups_append_singleton]
      refine upsert_map key merge (nodup_eraseDups _) (fun k _ => hkey cs k)
        (hother cs c) ?_ ?_
      · intro h
        exact hold cs c (by simp) (List.mem_eraseDups.mp h)
      · intro h
        exact hnew cs c (by simp) (mt List.mem_eraseDups.mpr h)

end Keyed

end Foundation
