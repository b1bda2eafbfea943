import Mathlib.Data.List.Induction

/-!
# Tables kept as lists of keyed entries

The backoff tracker and the item cache keep one entry per key in a list, the newest first, and
read it with `List.lookup`: a write drops the key's old entry (a filter) and puts the new one in
front. The lemmas here say what such a write does to every reading, and, when the keys are
distinct, to the number of entries.
-/

namespace StreamWarden

section KeyedEntries

variable {κ β : Type} [BEq κ] [LawfulBEq κ] [DecidableEq κ]

theorem lookup_cons_eq_ite (es : List (κ × β)) (key k : κ) (v : β) :
    ((k, v) :: es).lookup key = if key = k then some v else es.lookup key := by
  rw [List.lookup_cons]
  by_cases hs : key = k
  · simp [hs]
  · rw [beq_false_of_ne hs, if_neg hs]

theorem lookup_filter_ne (es : List (κ × β)) (key other : κ) :
    (es.filter (·.1 != other)).lookup key =
      if key = other then none else es.lookup key := by
  induction es with
  | nil => simp
  | cons e es ih =>
    obtain ⟨k, v⟩ := e
    by_cases hk : k = other
    · subst hk
      rw [List.filter_cons_of_neg (by simp), ih]
      by_cases hs : key = k <;> simp [hs, lookup_cons_eq_ite]
    · rw [List.filter_cons_of_pos (by simpa using hk), lookup_cons_eq_ite, lookup_cons_eq_ite, ih]
      by_cases hs : key = k
      · subst hs
        simp [hk]
      · simp [hs]

omit [DecidableEq κ] in
/-- Writing a key keeps the keys distinct. -/
theorem keys_nodup_cons_filter {es : List (κ × β)} (h : (es.map (·.1)).Nodup) (k : κ) (v : β) :
    (((k, v) :: es.filter (·.1 != k)).map (·.1)).Nodup := by
  have hkept : ((es.filter (·.1 != k)).map (·.1)).Nodup :=
    h.sublist ((List.filter_sublist).map _)
  refine List.nodup_cons.2 ⟨?_, hkept⟩
  simp

/-- With distinct keys, dropping a key removes one entry when the key is there and none when it
is not. -/
theorem length_filter_ne {es : List (κ × β)} (h : (es.map (·.1)).Nodup) (k : κ) :
    (es.filter (·.1 != k)).length + (if (es.lookup k).isSome then 1 else 0) = es.length := by
  induction es with
  | nil => simp
  | cons e es ih =>
    obtain ⟨k', v⟩ := e
    obtain ⟨hnew, hrest⟩ := List.nodup_cons.1 h
    by_cases hk : k' = k
    · subst hk
      have hkeep : es.filter (·.1 != k') = es :=
        List.filter_eq_self.2 fun e he => by
          have hne : e.1 ≠ k' := fun hek => hnew (List.mem_map.2 ⟨e, he, hek⟩)
          simpa using hne
      rw [List.filter_cons_of_neg (by simp), hkeep, lookup_cons_eq_ite, if_pos rfl]
      simp
    · rw [List.filter_cons_of_pos (by simpa using hk), lookup_cons_eq_ite,
        if_neg (Ne.symm hk), List.length_cons, List.length_cons, ← ih hrest]
      omega

end KeyedEntries

end StreamWarden
