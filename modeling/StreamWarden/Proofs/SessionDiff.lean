import StreamWarden.Monitor.Diff
import Mathlib.Data.String.Basic

/-!
# What the differ reports

The map of a poll holds, for each key reported, the last report of that key, once and in key
order. A transition names a key of the map, its previous state and its new one; the vanished
keys are the previous keys the map lacks, once each and sorted.
-/

namespace StreamWarden

/-! ## The map of a poll -/

/-- Strictly ascending keys: the shape of a poll's map. -/
def KeysAscending (m : List (String × NormalizedSession)) : Prop :=
  m.Pairwise fun a b => a.1 < b.1

/-- Every entry is filed under its own session key. -/
def KeyedBySelf (m : List (String × NormalizedSession)) : Prop :=
  ∀ p ∈ m, p.2.sessionKey = p.1

section Insert

variable {x : NormalizedSession} {m : List (String × NormalizedSession)}

theorem mem_insertByKey {p : String × NormalizedSession} :
    p ∈ insertByKey x m → p = (x.sessionKey, x) ∨ p ∈ m := by
  induction m with
  | nil => simp [insertByKey]
  | cons hd tl ih =>
    obtain ⟨k, v⟩ := hd
    rw [insertByKey]
    split_ifs with hlt heq
    · grind
    · subst heq; grind
    · grind

theorem lookup_insertByKey (k : String) :
    (insertByKey x m).lookup k = if k = x.sessionKey then some x else m.lookup k := by
  induction m with
  | nil =>
    by_cases h : k = x.sessionKey <;>
      simp [insertByKey, List.lookup_cons, List.lookup_nil, h, beq_false_of_ne]
  | cons hd tl ih =>
    obtain ⟨k', v⟩ := hd
    rw [insertByKey]
    split_ifs with hlt heq <;> grind

theorem KeysAscending.insertByKey (hm : KeysAscending m) : KeysAscending (insertByKey x m) := by
  induction m with
  | nil => simp [StreamWarden.insertByKey, KeysAscending]
  | cons hd tl ih =>
    obtain ⟨k, v⟩ := hd
    have htl : KeysAscending tl := hm.of_cons
    have hhead : ∀ p ∈ tl, k < p.1 := fun p hp => List.rel_of_pairwise_cons hm hp
    rw [StreamWarden.insertByKey]
    split_ifs with hlt heq
    · refine hm.cons fun p hp => ?_
      rcases List.mem_cons.mp hp with rfl | hp
      · exact hlt
      · exact hlt.trans (hhead p hp)
    · exact htl.cons fun p hp => heq ▸ hhead p hp
    · have hk : k < x.sessionKey := lt_of_le_of_ne (not_lt.mp hlt) (Ne.symm heq)
      refine (ih htl).cons fun p hp => ?_
      rcases mem_insertByKey hp with rfl | hp
      · exact hk
      · exact hhead p hp

theorem KeyedBySelf.insertByKey (hm : KeyedBySelf m) : KeyedBySelf (insertByKey x m) := by
  intro p hp
  rcases mem_insertByKey hp with rfl | hp
  · rfl
  · exact hm p hp

end Insert

section Lookup

variable {m : List (String × NormalizedSession)}

/-- Under ascending keys an entry is what its key looks up. -/
theorem KeysAscending.mem_iff (hm : KeysAscending m) {k : String} {v : NormalizedSession} :
    (k, v) ∈ m ↔ m.lookup k = some v := by
  induction m with
  | nil => simp
  | cons hd tl ih =>
    obtain ⟨k', v'⟩ := hd
    have hhead : ∀ p ∈ tl, k' < p.1 := fun p hp => List.rel_of_pairwise_cons hm hp
    by_cases hk : k = k'
    · subst hk
      have hnot : (k, v) ∉ tl := fun h => lt_irrefl k (hhead _ h)
      simp [hnot, eq_comm]
    · simp [List.lookup_cons, hk, beq_false_of_ne hk, ih hm.of_cons]

theorem mem_keys_iff_lookup_isSome {k : String} :
    k ∈ m.map (·.1) ↔ (m.lookup k).isSome := by
  induction m with
  | nil => simp
  | cons hd tl ih =>
    obtain ⟨k', v'⟩ := hd
    by_cases hk : k = k'
    · simp [hk]
    · simp [List.lookup_cons, hk, beq_false_of_ne hk, ← ih]

end Lookup

/-- Folding reports into a map: each key looks up its last report, or what it looked up
before. -/
theorem lookup_foldl_insertByKey (X : List NormalizedSession) (m : List (String × NormalizedSession))
    (k : String) :
    (X.foldl (fun m s => insertByKey s m) m).lookup k =
      (X.filter (·.sessionKey == k)).getLast?.or (m.lookup k) := by
  induction X generalizing m with
  | nil => simp
  | cons a X ih =>
    rw [List.foldl_cons, ih, lookup_insertByKey]
    by_cases hk : a.sessionKey = k
    · have hk' : k = a.sessionKey := hk.symm
      simp only [hk', if_true, Option.or_some, Option.some_or, List.filter_cons, beq_self_eq_true,
        List.getLast?_cons]
    · have hk' : k ≠ a.sessionKey := Ne.symm hk
      simp [hk', hk]

theorem lookup_sessionMap (X : List NormalizedSession) (k : String) :
    (sessionMap X).lookup k = (X.filter (·.sessionKey == k)).getLast? := by
  rw [sessionMap, lookup_foldl_insertByKey, List.lookup_nil, Option.or_none]

theorem sessionMap_ascending (X : List NormalizedSession) : KeysAscending (sessionMap X) := by
  suffices ∀ m, KeysAscending m → KeysAscending (X.foldl (fun m s => insertByKey s m) m) from
    this [] List.Pairwise.nil
  induction X with
  | nil => exact fun m hm => hm
  | cons a X ih => exact fun m hm => ih _ hm.insertByKey

theorem sessionMap_keyedBySelf (X : List NormalizedSession) : KeyedBySelf (sessionMap X) := by
  suffices ∀ m, KeyedBySelf m → KeyedBySelf (X.foldl (fun m s => insertByKey s m) m) from
    this [] (by simp [KeyedBySelf])
  induction X with
  | nil => exact fun m hm => hm
  | cons a X ih => exact fun m hm => ih _ hm.insertByKey

/-- An entry of the map is the last report of its key. -/
theorem mem_sessionMap_iff {X : List NormalizedSession} {k : String} {v : NormalizedSession} :
    (k, v) ∈ sessionMap X ↔ (X.filter (·.sessionKey == k)).getLast? = some v := by
  rw [(sessionMap_ascending X).mem_iff, lookup_sessionMap]

/-- The keys of the map are the keys reported. -/
theorem mem_keys_sessionMap {X : List NormalizedSession} {k : String} :
    k ∈ (sessionMap X).map (·.1) ↔ k ∈ X.map (·.sessionKey) := by
  rw [mem_keys_iff_lookup_isSome, lookup_sessionMap, List.getLast?_isSome, Ne,
    List.filter_eq_nil_iff]
  simp

theorem sessionMap_keys_nodup (X : List NormalizedSession) : ((sessionMap X).map (·.1)).Nodup :=
  List.pairwise_map.mpr ((sessionMap_ascending X).imp ne_of_lt)

/-! ## Previous states -/

theorem PreviousStates.get?_eq_none_iff {P : PreviousStates} {k : String} :
    P.get? k = none ↔ k ∉ P.map (·.1) := by
  simp only [PreviousStates.get?, Option.map_eq_none_iff, List.find?_eq_none, List.mem_reverse,
    beq_iff_eq, List.mem_map]
  exact ⟨fun h ⟨p, hp, hpk⟩ => h p hp hpk, fun h p hp hpk => h ⟨p, hp, hpk⟩⟩

/-- Later entries win: the state of a key is its last entry's. -/
theorem PreviousStates.get?_cons (p : String × PlaybackState) (P : PreviousStates) (k : String) :
    PreviousStates.get? (p :: P) k = (P.get? k).or (if p.1 = k then some p.2 else none) := by
  unfold PreviousStates.get?
  rw [List.reverse_cons, List.find?_append]
  cases P.reverse.find? (·.1 == k) <;> by_cases h : p.1 = k <;> simp [h]

/-- With each key once, a previous state is the one filed under the key. -/
theorem PreviousStates.get?_eq_some_iff {P : PreviousStates} (hP : (P.map (·.1)).Nodup)
    {k : String} {a : PlaybackState} : P.get? k = some a ↔ (k, a) ∈ P := by
  induction P with
  | nil => simp [PreviousStates.get?]
  | cons hd tl ih =>
    obtain ⟨k', a'⟩ := hd
    have hnot : k' ∉ tl.map (·.1) := (List.nodup_cons.mp hP).1
    rw [PreviousStates.get?_cons]
    by_cases hk : k' = k
    · subst hk
      have hnone : PreviousStates.get? tl k' = none := PreviousStates.get?_eq_none_iff.mpr hnot
      have hmem : (k', a) ∉ tl := fun h => hnot (List.mem_map.mpr ⟨_, h, rfl⟩)
      simp [hnone, hmem, eq_comm]
    · simp [hk, ih (List.nodup_cons.mp hP).2, Ne.symm hk]

/-! ## Transitions -/

theorem transitionKind_isSome (a b : PlaybackState) : (transitionKind a b).isSome ↔ a ≠ b := by
  unfold transitionKind
  split_ifs with h
  · simp [h]
  · simp only [h, ne_eq, not_false_eq_true, iff_true]
    split <;> rfl

/-- A key gives a transition unless its previous state is its new one. -/
theorem transitionOf_isSome (P : PreviousStates) (k : String) (x : NormalizedSession) :
    (transitionOf P k x).isSome ↔ P.get? k ≠ some x.state := by
  unfold transitionOf
  cases hk : P.get? k with
  | none => simp
  | some a => simp [transitionKind_isSome]

/-- What a transition says: its key, its previous state and its new one. -/
theorem transitionOf_eq_some {P : PreviousStates} {k : String} {x : NormalizedSession}
    {t : Transition} (h : transitionOf P k x = some t) :
    t.sessionKey = k ∧ t.fromState = P.get? k ∧ t.toState = x.state := by
  unfold transitionOf at h
  cases hk : P.get? k with
  | none => simp [hk] at h; subst h; simp
  | some a =>
    simp only [hk, Option.map_eq_some_iff] at h
    obtain ⟨e, -, rfl⟩ := h
    simp

theorem mem_transitions {P : PreviousStates} {M : List (String × NormalizedSession)}
    {t : Transition} : t ∈ transitions P M ↔ ∃ p ∈ M, transitionOf P p.1 p.2 = some t := by
  simp [transitions, List.mem_filterMap]

theorem transitions_cons (P : PreviousStates) (p : String × NormalizedSession)
    (M : List (String × NormalizedSession)) :
    transitions P (p :: M) = (transitionOf P p.1 p.2).toList ++ transitions P M := by
  simp only [transitions, List.filterMap_cons]
  cases transitionOf P p.1 p.2 <;> rfl

theorem filter_toList_transitionOf (P : PreviousStates) (k' k : String) (x : NormalizedSession) :
    (transitionOf P k' x).toList.filter (·.sessionKey == k) =
      if k' = k then (transitionOf P k' x).toList else [] := by
  cases h : transitionOf P k' x with
  | none => simp
  | some t =>
    have hkey : t.sessionKey = k' := (transitionOf_eq_some h).1
    by_cases hk : k' = k <;> simp [hkey, hk]

/-- The keys of the transitions are the keys of the map that give one, in order. -/
theorem transitions_keys (P : PreviousStates) (M : List (String × NormalizedSession)) :
    (transitions P M).map (·.sessionKey) =
      (M.filter fun p => (transitionOf P p.1 p.2).isSome).map (·.1) := by
  induction M with
  | nil => rfl
  | cons p M ih =>
    rw [transitions_cons, List.map_append, ih, List.filter_cons]
    cases h : transitionOf P p.1 p.2 with
    | none => simp
    | some t => simp [(transitionOf_eq_some h).1]

/-- A key has a transition when the map has it and its previous state is not its new one. -/
theorem mem_transitions_keys {P : PreviousStates} {M : List (String × NormalizedSession)}
    (hM : KeysAscending M) {k : String} :
    k ∈ (transitions P M).map (·.sessionKey) ↔ ∃ x, M.lookup k = some x ∧ P.get? k ≠ some x.state := by
  rw [transitions_keys]
  simp only [List.mem_map, List.mem_filter]
  constructor
  · rintro ⟨⟨k', x⟩, ⟨hp, hq⟩, rfl⟩
    exact ⟨x, hM.mem_iff.mp hp, (transitionOf_isSome P k' x).mp hq⟩
  · rintro ⟨x, hx, hne⟩
    exact ⟨(k, x), ⟨hM.mem_iff.mpr hx, (transitionOf_isSome P k x).mpr hne⟩, rfl⟩

theorem transitions_keys_nodup (P : PreviousStates) {M : List (String × NormalizedSession)}
    (hM : KeysAscending M) : ((transitions P M).map (·.sessionKey)).Nodup := by
  rw [transitions_keys]
  exact (List.filter_sublist.map _).nodup (List.pairwise_map.mpr (hM.imp ne_of_lt))

/-- The transitions of one key: the transition of its entry, if it has one. -/
theorem transitions_filter_key {P : PreviousStates} {M : List (String × NormalizedSession)}
    (hM : KeysAscending M) (k : String) :
    (transitions P M).filter (·.sessionKey == k) = ((M.lookup k).bind (transitionOf P k)).toList := by
  induction M with
  | nil => simp [transitions]
  | cons hd tl ih =>
    obtain ⟨k', v⟩ := hd
    rw [transitions_cons, List.filter_append, filter_toList_transitionOf]
    by_cases hk : k' = k
    · subst hk
      have hrest : (transitions P tl).filter (·.sessionKey == k') = [] := by
        refine List.filter_eq_nil_iff.mpr fun t ht => ?_
        obtain ⟨p, hp, hpt⟩ := mem_transitions.mp ht
        have hlt : k' < p.1 := List.rel_of_pairwise_cons hM hp
        simp [(transitionOf_eq_some hpt).1, ne_of_gt hlt]
      simp [hrest]
    · simp [hk, List.lookup_cons, beq_false_of_ne (Ne.symm hk), ih hM.of_cons]

/-! ## Vanished keys -/

theorem mem_insertSorted {k a : String} {l : List String} :
    a ∈ insertSorted k l ↔ a = k ∨ a ∈ l := by
  induction l with
  | nil => simp [insertSorted]
  | cons x rest ih =>
    rw [insertSorted]
    split_ifs with hlt heq
    · simp
    · subst heq; simp
    · simp [ih, or_left_comm]

theorem insertSorted_ascending {k : String} {l : List String} (hl : l.Pairwise (· < ·)) :
    (insertSorted k l).Pairwise (· < ·) := by
  induction l with
  | nil => simp [insertSorted]
  | cons x rest ih =>
    have hhead : ∀ y ∈ rest, x < y := fun y hy => List.rel_of_pairwise_cons hl hy
    rw [insertSorted]
    split_ifs with hlt heq
    · refine hl.cons fun y hy => ?_
      rcases List.mem_cons.mp hy with rfl | hy
      · exact hlt
      · exact hlt.trans (hhead y hy)
    · exact hl
    · have hx : x < k := lt_of_le_of_ne (not_lt.mp hlt) (Ne.symm heq)
      refine (ih hl.of_cons).cons fun y hy => ?_
      rcases mem_insertSorted.mp hy with rfl | hy
      · exact hx
      · exact hhead y hy

section Vanished

variable (M : List (String × NormalizedSession))

theorem mem_foldl_vanished (ks acc : List String) (a : String) :
    a ∈ ks.foldl (fun acc k => if (M.lookup k).isSome then acc else insertSorted k acc) acc ↔
      a ∈ acc ∨ a ∈ ks ∧ M.lookup a = none := by
  induction ks generalizing acc with
  | nil => simp
  | cons k ks ih =>
    rw [List.foldl_cons, ih]
    by_cases hk : (M.lookup k).isSome
    · have hne : a = k → M.lookup a ≠ none := fun h => by simpa [h] using hk
      simp only [hk, if_true, List.mem_cons]
      grind
    · have hnone : M.lookup k = none := Option.not_isSome_iff_eq_none.mp hk
      simp only [hk, Bool.false_eq_true, if_false, mem_insertSorted, List.mem_cons]
      grind

theorem foldl_vanished_ascending (ks : List String) {acc : List String}
    (hacc : acc.Pairwise (· < ·)) :
    (ks.foldl (fun acc k => if (M.lookup k).isSome then acc else insertSorted k acc) acc).Pairwise
      (· < ·) := by
  induction ks generalizing acc with
  | nil => exact hacc
  | cons k ks ih =>
    rw [List.foldl_cons]
    apply ih
    split
    · exact hacc
    · exact insertSorted_ascending hacc

end Vanished

/-- The vanished keys are the previous keys the new map lacks. -/
theorem mem_vanishedKeys {P : PreviousStates} {M : List (String × NormalizedSession)} {k : String} :
    k ∈ vanishedKeys P M ↔ k ∈ P.map (·.1) ∧ M.lookup k = none := by
  rw [vanishedKeys, mem_foldl_vanished]
  simp

theorem vanishedKeys_ascending (P : PreviousStates) (M : List (String × NormalizedSession)) :
    (vanishedKeys P M).Pairwise (· < ·) := by
  rw [vanishedKeys]
  exact foldl_vanished_ascending M _ List.Pairwise.nil

end StreamWarden
