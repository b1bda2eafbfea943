import StreamWarden.Store.Retention

/-!
# Retention cutoffs and purges

A retention of `years` years is unlimited when `years` is not positive; otherwise the oldest
instant kept is `years * 365` days before now. The cutoff is computed with 64-bit arithmetic that
stops at the bounds, and the stopping never moves it past now: it is at most now, it moves back as
the retention grows, and it is the exact difference whenever the span and the difference fit in
64 bits (`retentionCutoff_le`, `retentionCutoff_antitone`, `retentionCutoff_eq_sub`).

A purge before a cutoff deletes exactly the finished history, the events and the enforcement
entries dated before it, counts them, and changes nothing else (`purgedBefore_purgeBefore`).
`retention_purges_before_cutoff` gathers both halves.
-/

namespace StreamWarden

/-- A value lies in the signed 64-bit range. -/
def InI64 (x : Int) : Prop := Text.i64Min ≤ x ∧ x ≤ Text.i64Max

instance instDecidableInI64 (x : Int) : Decidable (InI64 x) :=
  inferInstanceAs (Decidable (_ ∧ _))

/-! ### Clamping -/

theorem clampI64_mono {x y : Int} (h : x ≤ y) : clampI64 x ≤ clampI64 y := by
  unfold clampI64
  omega

theorem clampI64_of_inI64 {x : Int} (h : InI64 x) : clampI64 x = x := by
  unfold InI64 at h
  unfold clampI64
  omega

theorem clampI64_pos {x : Int} (h : 0 < x) : 0 < clampI64 x := by
  unfold clampI64 Text.i64Min Text.i64Max
  omega

/-! ### The cutoff -/

/-- The span of a retention, in milliseconds, as the cutoff computes it: years to days to
milliseconds, each product stopping at the 64-bit bounds. -/
def retentionSpan (years : Int) : Int := clampI64 (clampI64 (years * 365) * dayMs)

theorem retentionCutoff_eq (years now : Int) :
    retentionCutoff years now =
      if 0 < years then some (clampI64 (now - retentionSpan years)) else none := rfl

theorem retentionCutoff_eq_none_iff (years now : Int) :
    retentionCutoff years now = none ↔ years ≤ 0 := by
  rw [retentionCutoff_eq]
  by_cases hy : 0 < years
  · simp only [hy, if_true, reduceCtorEq, false_iff]
    omega
  · simp only [hy, if_false, true_iff]
    omega

theorem retentionCutoff_eq_some_iff (years now c : Int) :
    retentionCutoff years now = some c ↔ 0 < years ∧ c = clampI64 (now - retentionSpan years) := by
  rw [retentionCutoff_eq]
  by_cases hy : 0 < years <;> simp [hy, eq_comm]

theorem retentionSpan_pos {years : Int} (hy : 0 < years) : 0 < retentionSpan years := by
  have hdays : 0 < clampI64 (years * 365) := clampI64_pos (by omega)
  have hms : 0 < clampI64 (years * 365) * dayMs := Int.mul_pos hdays (by decide)
  exact clampI64_pos hms

theorem retentionSpan_mono {years years' : Int} (h : years ≤ years') :
    retentionSpan years ≤ retentionSpan years' := by
  have hdays : clampI64 (years * 365) ≤ clampI64 (years' * 365) := clampI64_mono (by omega)
  exact clampI64_mono (Int.mul_le_mul_of_nonneg_right hdays (by decide))

/-- When the span fits in 64 bits, no product stops at a bound. -/
theorem retentionSpan_of_inI64 {years : Int} (hy : 0 < years) (hfit : InI64 (years * (365 * dayMs))) :
    retentionSpan years = years * (365 * dayMs) := by
  have hdays : InI64 (years * 365) := by
    unfold InI64 dayMs Text.i64Min Text.i64Max at *
    omega
  rw [retentionSpan, clampI64_of_inI64 hdays, Int.mul_assoc, clampI64_of_inI64 hfit]

/-- The cutoff never lies after now. -/
theorem retentionCutoff_le {years now c : Int} (hnow : InI64 now)
    (h : retentionCutoff years now = some c) : c ≤ now := by
  obtain ⟨hy, rfl⟩ := (retentionCutoff_eq_some_iff years now c).1 h
  have hspan := retentionSpan_pos hy
  calc clampI64 (now - retentionSpan years)
      ≤ clampI64 now := clampI64_mono (by omega)
    _ = now := clampI64_of_inI64 hnow

/-- A longer retention keeps more: its cutoff is no later. -/
theorem retentionCutoff_antitone {years years' now c c' : Int} (hle : years ≤ years')
    (h : retentionCutoff years now = some c) (h' : retentionCutoff years' now = some c') :
    c' ≤ c := by
  obtain ⟨-, rfl⟩ := (retentionCutoff_eq_some_iff years now c).1 h
  obtain ⟨-, rfl⟩ := (retentionCutoff_eq_some_iff years' now c').1 h'
  have hspan := retentionSpan_mono hle
  exact clampI64_mono (by omega)

/-- Where nothing overflows, the cutoff is exactly `years * 365` days before now. -/
theorem retentionCutoff_eq_sub {years now c : Int} (h : retentionCutoff years now = some c)
    (hspan : InI64 (years * (365 * dayMs))) (hdiff : InI64 (now - years * (365 * dayMs))) :
    c = now - years * (365 * dayMs) := by
  obtain ⟨hy, rfl⟩ := (retentionCutoff_eq_some_iff years now c).1 h
  rw [retentionSpan_of_inI64 hy hspan, clampI64_of_inI64 hdiff]

/-! ### The purge -/

/-- What a purge before `cutoff` does to a store: the history finished, the events logged and
the enforcement entries made before the cutoff are deleted and counted, and nothing else
changes. -/
structure PurgedBefore (s : Store) (cutoff : Int) (r : PurgeReport) (s' : Store) : Prop where
  history : s'.history = s.history.filter fun h => !decide (h.stoppedAt < cutoff)
  events : s'.events = s.events.filter fun e => !decide (e.ts < cutoff)
  enforcements : s'.enforcements = s.enforcements.filter fun e => !decide (e.createdAt < cutoff)
  counts : r = ⟨s.history.countP (·.stoppedAt < cutoff), s.events.countP (·.ts < cutoff),
    s.enforcements.countP (·.createdAt < cutoff)⟩
  rest : { s' with history := s.history, events := s.events, enforcements := s.enforcements } = s

/-- Keeping the rows at or after a cutoff removes those before it: as many as they count. -/
theorem length_sub_length_filter_ge {α : Type} (rows : List α) (date : α → Int) (cutoff : Int) :
    rows.length - (rows.filter (date · ≥ cutoff)).length = rows.countP (date · < cutoff) := by
  have hsplit := List.length_eq_countP_add_countP (fun r => decide (date r < cutoff)) (l := rows)
  have hkept : (rows.filter (date · ≥ cutoff)).length =
      rows.countP fun r => ¬ decide (date r < cutoff) := by
    rw [← List.countP_eq_length_filter]
    exact List.countP_congr fun r _ => by simp
  omega

theorem filter_ge_eq {α : Type} (rows : List α) (date : α → Int) (cutoff : Int) :
    rows.filter (date · ≥ cutoff) = rows.filter fun r => !decide (date r < cutoff) :=
  List.filter_congr fun r _ => by simp only [ge_iff_le, ← Int.not_lt, decide_not]

theorem Store.purgedBefore_purgeBefore (s : Store) (cutoff : Int) :
    PurgedBefore s cutoff (s.purgeBefore cutoff).1 (s.purgeBefore cutoff).2 where
  history := filter_ge_eq _ _ _
  events := filter_ge_eq _ _ _
  enforcements := filter_ge_eq _ _ _
  counts := by
    simp only [Store.purgeBefore, length_sub_length_filter_ge]
  rest := rfl

/-- Retention: the cutoff is none exactly for a retention that is not positive; otherwise it is
at most now, no later for a longer retention, and exactly `years * 365` days before now where
nothing overflows. A purge before any cutoff deletes and counts exactly the history, events and
enforcement entries dated before it, and leaves every other row alone. -/
theorem retention_purges_before_cutoff (years now : Int) (hnow : InI64 now) :
    (retentionCutoff years now = none ↔ years ≤ 0) ∧
    (∀ c, retentionCutoff years now = some c →
      c ≤ now ∧
      (∀ years' c', years ≤ years' → retentionCutoff years' now = some c' → c' ≤ c) ∧
      (InI64 (years * (365 * dayMs)) → InI64 (now - years * (365 * dayMs)) →
        c = now - years * (365 * dayMs))) ∧
    ∀ (s : Store) cutoff,
      PurgedBefore s cutoff (s.purgeBefore cutoff).1 (s.purgeBefore cutoff).2 :=
  ⟨retentionCutoff_eq_none_iff years now,
    fun _ h => ⟨retentionCutoff_le hnow h, fun _ _ hle h' => retentionCutoff_antitone hle h h',
      retentionCutoff_eq_sub h⟩,
    Store.purgedBefore_purgeBefore⟩

/-- A retention of one year, as of day 2000 of the epoch. -/
theorem retention_one_year_at_day_2000 :
    InI64 (2000 * dayMs) ∧
    (retentionCutoff 1 (2000 * dayMs) = none ↔ (1 : Int) ≤ 0) ∧
    (∀ c, retentionCutoff 1 (2000 * dayMs) = some c →
      c ≤ 2000 * dayMs ∧
      (∀ years' c', 1 ≤ years' → retentionCutoff years' (2000 * dayMs) = some c' → c' ≤ c) ∧
      (InI64 (1 * (365 * dayMs)) → InI64 (2000 * dayMs - 1 * (365 * dayMs)) →
        c = 2000 * dayMs - 1 * (365 * dayMs))) ∧
    ∀ (s : Store) cutoff,
      PurgedBefore s cutoff (s.purgeBefore cutoff).1 (s.purgeBefore cutoff).2 :=
  ⟨by decide, retention_purges_before_cutoff 1 (2000 * dayMs) (by decide)⟩

end StreamWarden
