import StreamWarden.Proofs.Evaluation
import Mathlib.Data.Prod.Lex

/-!
# Choosing the session to stop

Sessions are compared by their start key: when they started, then their server, then their
session key. The newest session is one with the greatest key and the oldest one with the least;
stopping transcodes first takes a newest transcoding session when there is one, and a newest
session otherwise (`Selector.Chooses`). A selector chooses nothing only among no sessions, and
what it chooses has the same key however the sessions are listed
(`selectTarget_chooses_by_startKey`).

Both searches are left folds that keep one of the two sessions they compare. A fold whose step
keeps an item that bounds both its arguments ends on an item that bounds every item. Keys are
totally ordered, so two sessions that each bound the other have the same key, although with
repeated keys they need not be the same session.
-/

namespace StreamWarden

namespace LiveSession

/-- The key sessions are ordered by when one is chosen to stop: start, then server, then session
key, compared in turn. -/
def startKey (s : LiveSession) : Int ×ₗ Int ×ₗ String :=
  toLex (s.startTs, toLex (s.serverId, s.sessionKey))

/-- The comparison the selectors use is the order of start keys. -/
theorem byStart_eq_gt_iff {a b : LiveSession} : byStart a b = .gt ↔ b.startKey < a.startKey := by
  simp only [byStart, startKey, Ordering.then_eq_gt, compare_eq_iff_eq, Prod.Lex.toLex_lt_toLex,
    compare_gt_iff_gt]
  rw [@eq_comm _ a.startTs, @eq_comm _ a.serverId]

theorem byStart_ne_gt_iff {a b : LiveSession} : byStart a b ≠ .gt ↔ a.startKey ≤ b.startKey := by
  rw [ne_eq, byStart_eq_gt_iff, not_lt]

end LiveSession

/-- `t` is a newest of the sessions: one of them, with a start key at least every other's. -/
def IsNewest (L : List LiveSession) (t : LiveSession) : Prop :=
  t ∈ L ∧ ∀ y ∈ L, y.startKey ≤ t.startKey

/-- `t` is an oldest of the sessions: one of them, with a start key at most every other's. -/
def IsOldest (L : List LiveSession) (t : LiveSession) : Prop :=
  t ∈ L ∧ ∀ y ∈ L, t.startKey ≤ y.startKey

/-- What a selector promises of the session it stops among `L`. -/
def Selector.Chooses : Selector → List LiveSession → LiveSession → Prop
  | .killNewest, L, t => IsNewest L t
  | .killOldest, L, t => IsOldest L t
  | .killTranscodingFirst, L, t =>
    if ∃ y ∈ L, y.isTranscode then IsNewest (L.filter (·.isTranscode)) t else IsNewest L t

/-! ## Folds that keep a bound -/

/-- A left fold whose step keeps an item that bounds both its arguments ends on an item that
bounds every item; `r y b` reads "`b` bounds `y`". -/
theorem foldl_bound_of_pick {α : Type} (r : α → α → Prop) (hrefl : ∀ a, r a a)
    (htrans : ∀ a b c, r a b → r b c → r a c) {f : α → α → α}
    (hf : ∀ a b, r a (f a b) ∧ r b (f a b)) (x : α) (xs : List α) :
    ∀ y ∈ x :: xs, r y (xs.foldl f x) := by
  induction xs generalizing x with
  | nil =>
    intro y hy
    rw [List.mem_singleton.mp hy, List.foldl_nil]
    exact hrefl x
  | cons z zs ih =>
    intro y hy
    rw [List.foldl_cons]
    have hstep := ih (f x z) (f x z) List.mem_cons_self
    rcases List.mem_cons.mp hy with rfl | hy
    · exact htrans _ _ _ (hf y z).1 hstep
    rcases List.mem_cons.mp hy with rfl | hy
    · exact htrans _ _ _ (hf x y).2 hstep
    · exact ih (f x z) y (List.mem_cons_of_mem _ hy)

/-! ## Newest and oldest -/

variable {L : List LiveSession} {t : LiveSession}

theorem newestSession_eq_none_iff : newestSession L = none ↔ L = [] := by
  cases L <;> simp [newestSession]

theorem oldestSession_eq_none_iff : oldestSession L = none ↔ L = [] := by
  cases L <;> simp [oldestSession]

theorem newestSession_isNewest (h : newestSession L = some t) : IsNewest L t := by
  refine ⟨newestSession_mem h, ?_⟩
  cases L with
  | nil => simp [newestSession] at h
  | cons x xs =>
    simp only [newestSession, Option.some.injEq] at h
    rw [← h]
    refine foldl_bound_of_pick (fun y b => y.startKey ≤ b.startKey) (fun _ => le_rfl)
      (fun _ _ _ => le_trans) (fun best y => ?_) x xs
    by_cases hgt : LiveSession.byStart best y = .gt
    · have hlt := LiveSession.byStart_eq_gt_iff.mp hgt
      simp only [hgt, beq_self_eq_true, if_true]
      exact ⟨le_rfl, hlt.le⟩
    · have hle := LiveSession.byStart_ne_gt_iff.mp hgt
      simp only [beq_iff_eq, hgt, if_false]
      exact ⟨hle, le_rfl⟩

theorem oldestSession_isOldest (h : oldestSession L = some t) : IsOldest L t := by
  refine ⟨oldestSession_mem h, ?_⟩
  cases L with
  | nil => simp [oldestSession] at h
  | cons x xs =>
    simp only [oldestSession, Option.some.injEq] at h
    rw [← h]
    refine foldl_bound_of_pick (fun y b => b.startKey ≤ y.startKey) (fun _ => le_rfl)
      (fun _ _ _ hab hbc => le_trans hbc hab) (fun best y => ?_) x xs
    by_cases hgt : LiveSession.byStart best y = .gt
    · have hlt := LiveSession.byStart_eq_gt_iff.mp hgt
      simp only [hgt, beq_self_eq_true, if_true]
      exact ⟨hlt.le, le_rfl⟩
    · have hle := LiveSession.byStart_ne_gt_iff.mp hgt
      simp only [beq_iff_eq, hgt, if_false]
      exact ⟨le_rfl, hle⟩

/-! ## What a selector chooses -/

theorem selectTarget_eq_none_iff {sel : Selector} : selectTarget L sel = none ↔ L = [] := by
  cases sel with
  | killNewest => exact newestSession_eq_none_iff
  | killOldest => exact oldestSession_eq_none_iff
  | killTranscodingFirst =>
    simp only [selectTarget]
    cases hT : newestSession (L.filter (·.isTranscode)) with
    | none => exact newestSession_eq_none_iff
    | some s =>
      have hs : s ∈ L := (List.mem_filter.mp (newestSession_mem hT)).1
      simp only [reduceCtorEq, false_iff]
      exact List.ne_nil_of_mem hs

theorem selectTarget_isSome_iff {sel : Selector} : (selectTarget L sel).isSome ↔ L ≠ [] := by
  rw [Option.isSome_iff_ne_none, ne_eq, selectTarget_eq_none_iff]

theorem selectTarget_chooses {sel : Selector} (h : selectTarget L sel = some t) :
    sel.Chooses L t := by
  cases sel with
  | killNewest => exact newestSession_isNewest h
  | killOldest => exact oldestSession_isOldest h
  | killTranscodingFirst =>
    simp only [selectTarget] at h
    simp only [Selector.Chooses]
    cases hT : newestSession (L.filter (·.isTranscode)) with
    | some s =>
      rw [hT, Option.some.injEq] at h
      subst h
      have hmem := List.mem_filter.mp (newestSession_mem hT)
      rw [if_pos ⟨s, hmem.1, hmem.2⟩]
      exact newestSession_isNewest hT
    | none =>
      rw [hT] at h
      have hnone : ¬∃ y ∈ L, y.isTranscode = true := by
        rintro ⟨y, hy, hyT⟩
        have hnil := newestSession_eq_none_iff.mp hT
        exact (List.filter_eq_nil_iff.mp hnil) y hy hyT
      rw [if_neg hnone]
      exact newestSession_isNewest h

/-! ## The key chosen depends only on the sessions -/

variable {L' : List LiveSession} {t' : LiveSession}

theorem IsNewest.startKey_eq (h : IsNewest L t) (h' : IsNewest L' t')
    (hL : ∀ x, x ∈ L ↔ x ∈ L') : t.startKey = t'.startKey :=
  le_antisymm (h'.2 t ((hL t).mp h.1)) (h.2 t' ((hL t').mpr h'.1))

theorem IsOldest.startKey_eq (h : IsOldest L t) (h' : IsOldest L' t')
    (hL : ∀ x, x ∈ L ↔ x ∈ L') : t.startKey = t'.startKey :=
  le_antisymm (h.2 t' ((hL t').mpr h'.1)) (h'.2 t ((hL t).mp h.1))

/-- Two sessions a selector may choose among the same sessions have the same key. -/
theorem Selector.Chooses.startKey_eq {sel : Selector} (h : sel.Chooses L t)
    (h' : sel.Chooses L' t') (hL : ∀ x, x ∈ L ↔ x ∈ L') : t.startKey = t'.startKey := by
  cases sel with
  | killNewest => exact IsNewest.startKey_eq h h' hL
  | killOldest => exact IsOldest.startKey_eq h h' hL
  | killTranscodingFirst =>
    simp only [Selector.Chooses] at h h'
    have hT : (∃ y ∈ L, y.isTranscode = true) ↔ ∃ y ∈ L', y.isTranscode = true := by
      simp only [hL]
    by_cases hL₁ : ∃ y ∈ L, y.isTranscode = true
    · rw [if_pos hL₁] at h
      rw [if_pos (hT.mp hL₁)] at h'
      exact IsNewest.startKey_eq h h' fun x => by simp only [List.mem_filter, hL]
    · rw [if_neg hL₁] at h
      rw [if_neg (mt hT.mpr hL₁)] at h'
      exact IsNewest.startKey_eq h h' hL

/-- The key of the session a selector chooses depends only on which sessions there are. -/
theorem selectTarget_startKey_congr {sel : Selector} (hL : ∀ x, x ∈ L ↔ x ∈ L') :
    (selectTarget L sel).map (·.startKey) = (selectTarget L' sel).map (·.startKey) := by
  have hnil : L = [] ↔ L' = [] := by
    simp only [List.eq_nil_iff_forall_not_mem, hL]
  cases h : selectTarget L sel with
  | none =>
    rw [selectTarget_eq_none_iff.mpr (hnil.mp (selectTarget_eq_none_iff.mp h))]
  | some t =>
    cases h' : selectTarget L' sel with
    | none =>
      rw [selectTarget_eq_none_iff.mpr (hnil.mpr (selectTarget_eq_none_iff.mp h'))] at h
      cases h
    | some t' =>
      rw [Option.map_some, Option.map_some,
        (selectTarget_chooses h).startKey_eq (selectTarget_chooses h') hL]

/-- A selector chooses a session exactly when there is one. It chooses one of greatest start key
to stop the newest, one of least start key to stop the oldest, and to stop transcodes first one
of greatest start key among the transcoding sessions when there are any, else among all. The key
of the session chosen is the same however the sessions are ordered. -/
theorem selectTarget_chooses_by_startKey (L : List LiveSession) (sel : Selector) :
    (selectTarget L sel = none ↔ L = []) ∧
      (∀ t, selectTarget L sel = some t → sel.Chooses L t) ∧
      ∀ L', L'.Perm L →
        (selectTarget L' sel).map (·.startKey) = (selectTarget L sel).map (·.startKey) :=
  ⟨selectTarget_eq_none_iff, fun _ => selectTarget_chooses,
    fun _ hp => selectTarget_startKey_congr fun _ => hp.mem_iff⟩

/-- A session with no start is ordered by its last sighting. -/
example : (selectTarget [{ sessionKey := "early", startedAt := 100, lastSeenAt := 100 },
    { sessionKey := "late", lastSeenAt := 500 }] .killNewest).map (·.sessionKey) = some "late" := by
  decide

end StreamWarden
