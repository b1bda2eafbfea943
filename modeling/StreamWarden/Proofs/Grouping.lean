import StreamWarden.Proofs.MatchKeys
import Mathlib.Data.List.Sort
import Mathlib.Data.List.Dedup

/-!
# Groups in key order

The evaluator groups sessions by inserting them one by one into a list of groups that it keeps in
ascending key order. Read off the keys instead, the groups are the same: for each key that occurs,
in ascending order, the items with that key in the order they come (`groupSorted_eq`).

The orders used to group are strict and total, and a strictly ascending list is fixed by its
members. The proof therefore compares members, through what each key looks up; insertion
extends the group of its key at its end and leaves every other key alone.

Cutting a list into the blocks of its keys and joining them again gives the items back in another
order (`flatMap_filter_key_perm`); filtering the joined blocks by one key gives that key's block.
-/

namespace StreamWarden

/-- The distinct keys of a list, in ascending order. -/
def keysAscending {K : Type} [DecidableEq K] (lt : K → K → Bool) (ks : List K) : List K :=
  (ks.mergeSort fun a b => !lt b a).dedup

section Order

variable {K : Type} {lt : K → K → Bool}

@[simp] theorem mem_keysAscending [DecidableEq K] {ks : List K} {k : K} :
    k ∈ keysAscending lt ks ↔ k ∈ ks := by
  simp [keysAscending, List.mem_dedup]

theorem keysAscending_nodup [DecidableEq K] (ks : List K) : (keysAscending lt ks).Nodup :=
  List.nodup_dedup _

variable [IsTrans K fun a b => lt a b = true] [Std.Irrefl fun a b : K => lt a b = true]
  [Std.Trichotomous fun a b : K => lt a b = true]

omit [Std.Irrefl fun a b : K => lt a b = true] in
/-- Under a strict total order, "not above" is transitive. -/
theorem not_lt_trans {a b c : K} (hba : lt b a = false) (hcb : lt c b = false) :
    lt c a = false := by
  rw [Bool.eq_false_iff] at hba hcb ⊢
  intro hca
  by_cases hbc : lt b c = true
  · exact hba (IsTrans.trans (r := fun a b => lt a b = true) _ _ _ hbc hca)
  · have hb : b = c := Std.Trichotomous.trichotomous (r := fun a b : K => lt a b = true) _ _ hbc hcb
    subst hb
    exact hba hca

omit [IsTrans K fun a b => lt a b = true] [Std.Irrefl fun a b : K => lt a b = true] in
theorem lt_of_not_lt_of_ne {a b : K} (hba : lt b a = false) (hne : a ≠ b) : lt a b = true := by
  by_contra hab
  exact hne (Std.Trichotomous.trichotomous (r := fun a b : K => lt a b = true) _ _ hab
    (by simp [hba]))

omit [Std.Trichotomous fun a b : K => lt a b = true] in
theorem strict_asymm {a b : K} (hab : lt a b = true) (hba : lt b a = true) : False :=
  Std.Irrefl.irrefl (r := fun a b : K => lt a b = true) a
    (IsTrans.trans (r := fun a b => lt a b = true) _ _ _ hab hba)

omit [Std.Trichotomous fun a b : K => lt a b = true] in
theorem not_lt_or_not_lt (a b : K) : (!lt b a || !lt a b) = true := by
  by_contra h
  simp only [Bool.or_eq_true, Bool.not_eq_eq_eq_not, Bool.not_true, not_or, Bool.not_eq_false] at h
  exact strict_asymm h.2 h.1

variable [DecidableEq K]

theorem keysAscending_pairwise (ks : List K) :
    (keysAscending lt ks).Pairwise fun a b => lt a b = true := by
  have hsorted : (ks.mergeSort fun a b => !lt b a).Pairwise fun a b => (!lt b a) = true :=
    List.pairwise_mergeSort
      (fun a b c hab hbc => by simpa using not_lt_trans (by simpa using hab) (by simpa using hbc))
      not_lt_or_not_lt ks
  have hdedup := (hsorted.sublist (List.dedup_sublist _)).and (List.nodup_dedup _)
  exact hdedup.imp fun h => lt_of_not_lt_of_ne (by simpa using h.1) h.2

/-- The ascending distinct keys of a list depend only on which keys it holds. -/
theorem keysAscending_congr {ks ks' : List K} (h : ∀ k, k ∈ ks ↔ k ∈ ks') :
    keysAscending lt ks = keysAscending lt ks' := by
  have : Std.Antisymm fun a b : K => lt a b = true :=
    ⟨fun _ _ hab hba => (strict_asymm hab hba).elim⟩
  exact List.Pairwise.eq_of_mem_iff (keysAscending_pairwise ks) (keysAscending_pairwise ks')
    fun k => by simp [h k]

end Order

/-! ## What a key looks up -/

section Lookup

variable {K α : Type} [DecidableEq K] {lt : K → K → Bool}
  [Std.Irrefl fun a b : K => lt a b = true]

theorem lookup_eq_none_of_lt {G : List (K × List α)} {k : K} (hk : ∀ g ∈ G, lt k g.1 = true) :
    G.lookup k = none := by
  induction G with
  | nil => rfl
  | cons g G ih =>
    obtain ⟨k', xs⟩ := g
    have hne : k ≠ k' := by
      rintro rfl
      exact Std.Irrefl.irrefl (r := fun a b : K => lt a b = true) k (hk _ List.mem_cons_self)
    simp only [List.lookup_cons, beq_false_of_ne hne]
    exact ih fun g hg => hk g (List.mem_cons_of_mem _ hg)

/-- In a sorted list of groups a group is what its key looks up. -/
theorem GroupsSorted.mem_iff {G : List (K × List α)} (hs : GroupsSorted lt G) {g : K × List α} :
    g ∈ G ↔ G.lookup g.1 = some g.2 := by
  induction G with
  | nil => simp
  | cons h G ih =>
    obtain ⟨k, xs⟩ := h
    obtain ⟨hfirst, hrest⟩ := List.pairwise_cons.mp hs
    by_cases hk : g.1 = k
    · have hnot : g ∉ G := fun hg =>
        Std.Irrefl.irrefl (r := fun a b : K => lt a b = true) k (hk ▸ hfirst g hg)
      obtain ⟨k₁, ys⟩ := g
      simp only at hk
      subst hk
      simp [hnot, eq_comm]
    · simp [List.lookup_cons, hk, beq_false_of_ne hk, ih hrest, Prod.ext_iff]

variable [IsTrans K fun a b => lt a b = true] [Std.Trichotomous fun a b : K => lt a b = true]

/-- Inserting an item extends the group of its key at its end, or starts it, and leaves every
other key's group alone. -/
theorem lookup_insertGroup {G : List (K × List α)} (hs : GroupsSorted lt G) (k : K) (x : α)
    (j : K) :
    (insertGroup lt k x G).lookup j =
      if j = k then some ((G.lookup k).getD [] ++ [x]) else G.lookup j := by
  induction G with
  | nil => by_cases hj : j = k <;> simp [insertGroup, List.lookup_cons, hj, beq_false_of_ne]
  | cons g G ih =>
    obtain ⟨k', xs⟩ := g
    obtain ⟨hfirst, hrest⟩ := List.pairwise_cons.mp hs
    unfold insertGroup
    by_cases hlt : lt k k' = true
    · have hnone : ((k', xs) :: G).lookup k = none :=
        lookup_eq_none_of_lt fun g hg => by
          rcases List.mem_cons.mp hg with rfl | hg
          · exact hlt
          · exact IsTrans.trans (r := fun a b => lt a b = true) _ _ _ hlt (hfirst g hg)
      by_cases hj : j = k <;> simp [hlt, hj, hnone, List.lookup_cons, beq_false_of_ne]
    by_cases hgt : lt k' k = true
    · have hne : k ≠ k' := by
        rintro rfl
        exact Std.Irrefl.irrefl (r := fun a b : K => lt a b = true) k hgt
      by_cases hj : j = k'
      · subst hj
        simp [hlt, hgt, hne.symm]
      · simp [hlt, hgt, hj, hne, List.lookup_cons, beq_false_of_ne, ih hrest]
    · have hk : k = k' := Std.Trichotomous.trichotomous (r := fun a b : K => lt a b = true) _ _
        hlt hgt
      subst hk
      by_cases hj : j = k <;> simp [hlt, hj, List.lookup_cons, beq_false_of_ne]

variable {key : α → K}

theorem lookup_foldl_insertGroup (xs : List α) {acc : List (K × List α)}
    (hs : GroupsSorted lt acc) (j : K) :
    (xs.foldl (fun acc x => insertGroup lt (key x) x acc) acc).lookup j =
      if j ∈ xs.map key then some ((acc.lookup j).getD [] ++ xs.filter fun x => key x = j)
      else acc.lookup j := by
  induction xs generalizing acc with
  | nil => simp
  | cons x xs ih =>
    rw [List.foldl_cons, ih (insertGroup_sorted _ _ hs), lookup_insertGroup hs]
    by_cases hj : j = key x
    · subst hj
      by_cases hmem : key x ∈ xs.map key
      · simp [hmem]
      · have hnil : (xs.filter fun y => key y = key x) = [] := by
          simpa [List.filter_eq_nil_iff] using hmem
        simp [hmem, hnil]
    · simp [hj, Ne.symm hj]

/-- A key looks up the items that have it, in the order they come, when some item has it. -/
theorem lookup_groupSorted (xs : List α) (j : K) :
    (groupSorted lt key xs).lookup j =
      if j ∈ xs.map key then some (xs.filter fun x => key x = j) else none := by
  rw [groupSorted, lookup_foldl_insertGroup xs List.Pairwise.nil]
  simp

/-- Grouping by insertion gives, for each key that occurs and in ascending key order, the items
with that key in the order they come. -/
theorem groupSorted_eq (key : α → K) (xs : List α) :
    groupSorted lt key xs =
      (keysAscending lt (xs.map key)).map fun k => (k, xs.filter fun x => key x = k) := by
  have : Std.Irrefl fun g h : K × List α => lt g.1 h.1 = true :=
    ⟨fun g => Std.Irrefl.irrefl (r := fun a b : K => lt a b = true) g.1⟩
  have : Std.Antisymm fun g h : K × List α => lt g.1 h.1 = true :=
    ⟨fun _ _ hgh hhg => (strict_asymm hgh hhg).elim⟩
  have hsorted : GroupsSorted lt ((keysAscending lt (xs.map key)).map
      fun k => (k, xs.filter fun x => key x = k)) :=
    List.pairwise_map.mpr (keysAscending_pairwise _)
  refine List.Pairwise.eq_of_mem_iff (groupSorted_sorted key xs) hsorted fun g => ?_
  obtain ⟨k, ys⟩ := g
  rw [(groupSorted_sorted key xs).mem_iff, lookup_groupSorted]
  constructor
  · intro h
    by_cases hk : k ∈ xs.map key
    · rw [if_pos hk, Option.some.injEq] at h
      exact List.mem_map.mpr ⟨k, mem_keysAscending.mpr hk, by rw [h]⟩
    · rw [if_neg hk] at h
      exact absurd h (by simp)
  · intro hg
    obtain ⟨k', hk', heq⟩ := List.mem_map.mp hg
    obtain ⟨rfl, rfl⟩ := Prod.mk.inj heq
    rw [if_pos (mem_keysAscending.mp hk')]

end Lookup

/-! ## Blocks of a key -/

section Blocks

variable {K α : Type} [DecidableEq K] {f : α → K}

theorem mem_map_iff_filter_ne_nil {xs : List α} {k : K} :
    k ∈ xs.map f ↔ (xs.filter fun x => f x = k) ≠ [] := by
  simp [List.filter_eq_nil_iff]

/-- Filtering the joined blocks of distinct keys by one key gives that key's block, or nothing
when the key is not among them. -/
theorem filter_flatMap_key {ks : List K} (hks : ks.Nodup) (xs : List α) (j : K) :
    ((ks.flatMap fun k => xs.filter fun x => f x = k).filter fun x => f x = j) =
      if j ∈ ks then xs.filter fun x => f x = j else [] := by
  induction ks with
  | nil => simp
  | cons k ks ih =>
    obtain ⟨hk, hks⟩ := List.nodup_cons.mp hks
    rw [List.flatMap_cons, List.filter_append, ih hks, List.filter_filter]
    by_cases hj : j = k
    · subst hj
      simp [hk]
    · have hblock : (xs.filter fun x => decide (f x = j) && decide (f x = k)) = [] := by
        rw [List.filter_eq_nil_iff]
        intro x _ hx
        simp only [Bool.and_eq_true, decide_eq_true_eq] at hx
        exact hj (hx.1.symm.trans hx.2)
      simp [hj, hblock]

/-- Cutting a list into the blocks of its keys and joining them gives back its items. -/
theorem flatMap_filter_key_perm {ks : List K} (hks : ks.Nodup) {xs : List α}
    (hcover : ∀ x ∈ xs, f x ∈ ks) :
    (ks.flatMap fun k => xs.filter fun x => f x = k).Perm xs := by
  induction ks generalizing xs with
  | nil =>
    cases xs with
    | nil => exact List.Perm.refl _
    | cons x xs => exact absurd (hcover x List.mem_cons_self) (List.not_mem_nil)
  | cons k ks ih =>
    obtain ⟨hk, hks⟩ := List.nodup_cons.mp hks
    have hrest : (ks.flatMap fun k' => xs.filter fun x => f x = k') =
        ks.flatMap fun k' => (xs.filter fun x => !decide (f x = k)).filter fun x => f x = k' := by
      refine List.flatMap_congr fun k' hk' => ?_
      rw [List.filter_filter]
      refine List.filter_congr fun x _ => ?_
      have hne : k' ≠ k := fun h => hk (h ▸ hk')
      by_cases hx : f x = k'
      · simp [hx, hne]
      · simp [hx]
    rw [List.flatMap_cons, hrest]
    refine (List.Perm.append_left _ (ih hks fun x hx => ?_)).trans (List.filter_append_perm _ xs)
    obtain ⟨hx, hne⟩ := List.mem_filter.mp hx
    rcases List.mem_cons.mp (hcover x hx) with h | h
    · simp [h] at hne
    · exact h

end Blocks

/-! ## Grouping fewer items -/

section Fewer

variable {K α β : Type} [DecidableEq K] {lt : K → K → Bool}
  [IsTrans K fun a b => lt a b = true] [Std.Irrefl fun a b : K => lt a b = true]
  [Std.Trichotomous fun a b : K => lt a b = true]

/-- Dropping from a list the items whose results are empty leaves the joined results alone. -/
theorem flatMap_filter_of_nil {γ δ : Type} {l : List γ} {P : γ → Bool} {F : γ → List δ}
    (hnil : ∀ c ∈ l, P c = false → F c = []) : (l.filter P).flatMap F = l.flatMap F := by
  induction l with
  | nil => rfl
  | cons c l ih =>
    have ih := ih fun c' hc' => hnil c' (List.mem_cons_of_mem _ hc')
    by_cases hc : P c = true
    · simp [hc, ih]
    · simp [hc, ih, hnil c List.mem_cons_self (by simpa using hc)]

/-- The ascending distinct keys of fewer keys are those of more keys, less the keys missing. -/
theorem keysAscending_of_subset {ks ks' : List K} (hsub : ∀ k ∈ ks', k ∈ ks) :
    keysAscending lt ks' = (keysAscending lt ks).filter (· ∈ ks') := by
  have : Std.Antisymm fun a b : K => lt a b = true :=
    ⟨fun _ _ hab hba => (strict_asymm hab hba).elim⟩
  refine List.Pairwise.eq_of_mem_iff (keysAscending_pairwise ks')
    ((keysAscending_pairwise ks).filter _) fun k => ?_
  simp only [mem_keysAscending, List.mem_filter, decide_eq_true_eq]
  exact ⟨fun h => ⟨hsub k h, h⟩, And.right⟩

/-- Joining per-key results over the keys of fewer items changes nothing when each key missing
there gives nothing. -/
theorem flatMap_keysAscending_of_subset {ks ks' : List K} (hsub : ∀ k ∈ ks', k ∈ ks)
    {F : K → List β} (hnil : ∀ k ∈ ks, k ∉ ks' → F k = []) :
    (keysAscending lt ks').flatMap F = (keysAscending lt ks).flatMap F := by
  rw [keysAscending_of_subset hsub]
  exact flatMap_filter_of_nil fun k hk hout =>
    hnil k (mem_keysAscending.mp hk) (by simpa using hout)

/-- Grouping fewer items changes nothing when dropping items from a group leaves its result
alone and an empty group gives nothing: the groups left empty vanish, and the others report as
before. -/
theorem flatMap_groupSorted_filter (key : α → K) (Q : α → Bool) {F : K × List α → List β}
    (hF : ∀ k b, (∀ x ∈ b, key x = k) → F (k, b.filter Q) = F (k, b))
    (hnil : ∀ k, F (k, []) = []) (xs : List α) :
    (groupSorted lt key (xs.filter Q)).flatMap F = (groupSorted lt key xs).flatMap F := by
  rw [groupSorted_eq, groupSorted_eq, List.flatMap_map, List.flatMap_map]
  have hblock : ∀ k, (xs.filter Q).filter (fun x => key x = k) =
      (xs.filter fun x => key x = k).filter Q := fun k => List.filter_comm _ _ _
  have hkey : ∀ k, ∀ x ∈ xs.filter (fun x => key x = k), key x = k :=
    fun k x hx => of_decide_eq_true (List.mem_filter.mp hx).2
  simp only [hblock, hF _ _ (hkey _)]
  refine flatMap_keysAscending_of_subset (fun k hk => ?_) fun k _ hk' => ?_
  · obtain ⟨x, hx, rfl⟩ := List.mem_map.mp hk
    exact List.mem_map_of_mem (List.mem_filter.mp hx).1
  · have hempty : (xs.filter fun x => key x = k).filter Q = [] := by
      rw [← hblock]
      simpa [mem_map_iff_filter_ne_nil] using hk'
    rw [← hF k _ (hkey k), hempty, hnil]

end Fewer

end StreamWarden
