import StreamWarden.Store.Enforcements
import Mathlib.Data.List.Nodup
import Mathlib.Data.List.Induction

/-!
# The enforcement log and its summary rows

The log only grows, one entry per recorded action, and the summary rows are what recording the
entries one by one leaves: `summaryOf`. A store whose summary rows are `summaryOf` of its log
answers "when was this actor last warned" with the time of the latest warning the log holds
about it, whether or not that warning reached the viewer.

The last-warning law needs the summary rows to keep distinct ids, since an update touches every
row that shares the id of the row it found; `Follows` carries both facts through each entry.
-/

namespace StreamWarden

/-- The policy, server and actor a log entry is about. -/
def EnforcementRow.key (r : EnforcementRow) : Int × Int × String :=
  (r.policyId, r.serverId, r.actorKey)

/-- The summary rows a log leaves when its entries are recorded one by one, from none. -/
def summaryOf (log : List EnforcementRow) : List EnforcementState :=
  log.foldl summarize []

theorem summaryOf_append_singleton (log : List EnforcementRow) (r : EnforcementRow) :
    summaryOf (log ++ [r]) = summarize (summaryOf log) r := by
  simp [summaryOf, List.foldl_append]

/-! ## The latest warning of the log -/

/-- The time of the latest warning the log holds about a policy, server and actor. -/
def lastWarnIn (log : List EnforcementRow) (key : Int × Int × String) : Option Int :=
  ((log.filter fun r => r.action == .warn && r.key == key).getLast?).map (·.createdAt)

theorem lastWarnIn_append_singleton (log : List EnforcementRow) (r : EnforcementRow)
    (key : Int × Int × String) :
    lastWarnIn (log ++ [r]) key =
      if r.action = .warn ∧ r.key = key then some r.createdAt else lastWarnIn log key := by
  by_cases h : r.action = .warn ∧ r.key = key
  · simp [lastWarnIn, h]
  · have hf : (r.action == .warn && r.key == key) = false := by
      simpa using h
    simp [lastWarnIn, h, hf]

theorem exists_warn_of_lastWarnIn {log : List EnforcementRow} {key : Int × Int × String}
    {t : Int} (h : lastWarnIn log key = some t) :
    ∃ w ∈ log, w.action = .warn ∧ w.key = key ∧ w.createdAt = t := by
  obtain ⟨w, hw, rfl⟩ := Option.map_eq_some_iff.mp h
  have hmem := List.mem_filter.mp (List.mem_of_getLast? hw)
  simp only [Bool.and_eq_true, beq_iff_eq] at hmem
  exact ⟨w, hmem.1, hmem.2.1, hmem.2.2, rfl⟩

/-- The latest warning of a longer log is that of its second part, if it has one. -/
theorem lastWarnIn_append (L M : List EnforcementRow) (key : Int × Int × String) :
    lastWarnIn (L ++ M) key = (lastWarnIn M key).or (lastWarnIn L key) := by
  simp only [lastWarnIn, List.filter_append, List.getLast?_append]
  cases (M.filter fun r => r.action == .warn && r.key == key).getLast? <;> rfl

/-- A log that warns about a key has a latest warning about it. -/
theorem exists_lastWarnIn_of_mem {log : List EnforcementRow} {key : Int × Int × String}
    {w : EnforcementRow} (hw : w ∈ log) (hwarn : w.action = .warn) (hkey : w.key = key) :
    ∃ last ∈ log, last.action = .warn ∧ last.key = key ∧
      lastWarnIn log key = some last.createdAt := by
  have hmem : w ∈ log.filter fun r => r.action == .warn && r.key == key := by
    simp [hw, hwarn, hkey]
  rcases hlast : (log.filter fun r => r.action == .warn && r.key == key).getLast? with _ | last
  · rw [List.getLast?_eq_none_iff] at hlast
    rw [hlast] at hmem
    cases hmem
  · have hl := List.mem_filter.mp (List.mem_of_getLast? hlast)
    simp only [Bool.and_eq_true, beq_iff_eq] at hl
    exact ⟨last, hl.1, hl.2.1, hl.2.2, by simp [lastWarnIn, hlast]⟩

/-- In a log written by a clock that never goes back, no warning about a key is later than the
latest one. -/
theorem createdAt_le_lastWarnIn {log : List EnforcementRow}
    (hsorted : log.Pairwise fun a b => a.createdAt ≤ b.createdAt)
    {key : Int × Int × String} {t : Int} (h : lastWarnIn log key = some t)
    {w : EnforcementRow} (hw : w ∈ log) (hwarn : w.action = .warn) (hkey : w.key = key) :
    w.createdAt ≤ t := by
  obtain ⟨last, hlast, rfl⟩ := Option.map_eq_some_iff.mp h
  obtain ⟨init, hinit⟩ := List.getLast?_eq_some_iff.mp hlast
  have hsorted' : (init ++ [last]).Pairwise fun a b => a.createdAt ≤ b.createdAt := by
    rw [← hinit]
    exact hsorted.filter _
  have hwf : w ∈ init ++ [last] := by
    rw [← hinit]
    simp [hw, hwarn, hkey]
  rcases List.mem_append.mp hwf with hw' | hw'
  · exact (List.pairwise_append.mp hsorted').2.2 w hw' last List.mem_cons_self
  · obtain rfl := List.mem_singleton.mp hw'
    exact Int.le_refl _

/-! ## Summary rows that follow the log -/

/-- Summary rows follow a log when their ids are distinct and the row of each key holds the time
the log last warned about that key. -/
structure Follows (log : List EnforcementRow) (states : List EnforcementState) : Prop where
  ids_nodup : (states.map (·.id)).Nodup
  warnedAt_eq : ∀ policyId serverId actorKey,
    (findState? states policyId serverId actorKey).bind (·.warnedAt) =
      lastWarnIn log (policyId, serverId, actorKey)

/-- A fresh id is above every id in use. -/
theorem le_foldl_max (ids : List Nat) : ∀ acc, acc ≤ ids.foldl Nat.max acc ∧
    ∀ x ∈ ids, x ≤ ids.foldl Nat.max acc := by
  induction ids with
  | nil => simp
  | cons y ys ih =>
    intro acc
    obtain ⟨hacc, hys⟩ := ih (Nat.max acc y)
    refine ⟨Nat.le_trans (Nat.le_max_left acc y) hacc, ?_⟩
    intro x hx
    rcases List.mem_cons.mp hx with rfl | hx
    · exact Nat.le_trans (Nat.le_max_right acc x) hacc
    · exact hys x hx

theorem nextRowId_not_mem (ids : List Nat) : nextRowId ids ∉ ids := by
  intro h
  have := (le_foldl_max ids 0).2 _ h
  simp only [nextRowId] at this
  omega

/-- Looking up a key commutes with an update that keeps every row's key. -/
theorem findState?_map {states : List EnforcementState}
    {f : EnforcementState → EnforcementState}
    (hf : ∀ st, (f st).policyId = st.policyId ∧ (f st).serverId = st.serverId ∧
      (f st).actorKey = st.actorKey)
    (policyId serverId : Int) (actorKey : String) :
    findState? (states.map f) policyId serverId actorKey =
      (findState? states policyId serverId actorKey).map f := by
  simp only [findState?, List.find?_map]
  congr 2
  funext st
  simp [hf st]

theorem findState?_key {states : List EnforcementState} {policyId serverId : Int}
    {actorKey : String} {st : EnforcementState}
    (h : findState? states policyId serverId actorKey = some st) :
    st ∈ states ∧ st.policyId = policyId ∧ st.serverId = serverId ∧ st.actorKey = actorKey := by
  have hp := List.find?_some h
  simp only [Bool.and_eq_true, beq_iff_eq] at hp
  exact ⟨List.mem_of_find?_eq_some h, hp.1.1, hp.1.2, hp.2⟩

@[simp] theorem EnforcementState.record_id (st : EnforcementState) (r : EnforcementRow) :
    (st.record r).id = st.id := rfl

@[simp] theorem EnforcementState.record_policyId (st : EnforcementState) (r : EnforcementRow) :
    (st.record r).policyId = st.policyId := rfl

@[simp] theorem EnforcementState.record_serverId (st : EnforcementState) (r : EnforcementRow) :
    (st.record r).serverId = st.serverId := rfl

@[simp] theorem EnforcementState.record_actorKey (st : EnforcementState) (r : EnforcementRow) :
    (st.record r).actorKey = st.actorKey := rfl

@[simp] theorem EnforcementState.record_warnedAt (st : EnforcementState) (r : EnforcementRow) :
    (st.record r).warnedAt = if r.action = .warn then some r.createdAt else st.warnedAt := by
  simp [EnforcementState.record]

theorem summarize_of_findState?_some {states : List EnforcementState} {r : EnforcementRow}
    {old : EnforcementState} (hold : findState? states r.policyId r.serverId r.actorKey = some old) :
    summarize states r = states.map fun st => if st.id == old.id then st.record r else st := by
  simp [summarize, hold]

theorem summarize_of_findState?_none {states : List EnforcementState} {r : EnforcementRow}
    (hnone : findState? states r.policyId r.serverId r.actorKey = none) :
    summarize states r = states ++ [r.startState (nextRowId (states.map (·.id)))] := by
  simp [summarize, hnone]

/-- The summary row of a key after one more entry: the entry's own key has its row updated, or
started when it had none; every other key keeps its row, since the ids of the rows are
distinct. -/
theorem findState?_summarize {states : List EnforcementState} (hnodup : (states.map (·.id)).Nodup)
    (r : EnforcementRow) (policyId serverId : Int) (actorKey : String) :
    findState? (summarize states r) policyId serverId actorKey =
      if r.key = (policyId, serverId, actorKey) then
        some ((findState? states policyId serverId actorKey).elim
          (r.startState (nextRowId (states.map (·.id)))) (·.record r))
      else findState? states policyId serverId actorKey := by
  cases hfind : findState? states r.policyId r.serverId r.actorKey with
  | some old =>
    obtain ⟨holdMem, hpid, hsid, hact⟩ := findState?_key hfind
    rw [summarize_of_findState?_some hfind, findState?_map (fun st => by split <;> simp)]
    split
    · next hk =>
      simp only [EnforcementRow.key, Prod.mk.injEq] at hk
      obtain ⟨rfl, rfl, rfl⟩ := hk
      simp [hfind]
    · next hk =>
      cases hst : findState? states policyId serverId actorKey with
      | none => rfl
      | some st =>
        obtain ⟨stMem, rfl, rfl, rfl⟩ := findState?_key hst
        have hid : st.id ≠ old.id := by
          intro heq
          have hsame : st = old := List.inj_on_of_nodup_map hnodup stMem holdMem heq
          subst hsame
          exact hk (by simp [EnforcementRow.key, hpid, hsid, hact])
        simp [hid]
  | none =>
    rw [summarize_of_findState?_none hfind]
    split
    · next hk =>
      simp only [EnforcementRow.key, Prod.mk.injEq] at hk
      obtain ⟨rfl, rfl, rfl⟩ := hk
      simp only [findState?] at hfind
      simp [findState?, List.find?_append, hfind, EnforcementRow.startState]
    · next hk =>
      simp only [EnforcementRow.key, Prod.mk.injEq] at hk
      have hmiss : (r.policyId == policyId && r.serverId == serverId && r.actorKey == actorKey) = false := by
        simpa [Bool.and_eq_true, beq_iff_eq] using hk
      simp [findState?, List.find?_append, EnforcementRow.startState, hmiss]

/-- Recording an entry keeps the ids of the summary rows distinct: an update keeps every id, and a
new row takes an id no row has. -/
theorem summarize_ids_nodup {states : List EnforcementState} (h : (states.map (·.id)).Nodup)
    (r : EnforcementRow) : ((summarize states r).map (·.id)).Nodup := by
  cases hfind : findState? states r.policyId r.serverId r.actorKey with
  | some old =>
    rw [summarize_of_findState?_some hfind, List.map_map]
    convert h using 2
    funext st
    simp only [Function.comp]
    split <;> simp
  | none =>
    rw [summarize_of_findState?_none hfind, List.map_append, List.nodup_append]
    refine ⟨h, List.nodup_singleton _, ?_⟩
    intro x hx y hy heq
    rw [List.mem_singleton.mp hy] at heq
    exact nextRowId_not_mem _ (heq ▸ hx)

/-- Recording one more entry keeps the summary rows following the log. -/
theorem Follows.summarize {log : List EnforcementRow} {states : List EnforcementState}
    (h : Follows log states) (r : EnforcementRow) :
    Follows (log ++ [r]) (summarize states r) := by
  refine ⟨summarize_ids_nodup h.ids_nodup r, fun pid sid actor => ?_⟩
  rw [findState?_summarize h.ids_nodup, lastWarnIn_append_singleton, ← h.warnedAt_eq]
  by_cases hk : r.key = (pid, sid, actor)
  · rw [if_pos hk]
    cases findState? states pid sid actor with
    | none => by_cases hwarn : r.action = .warn <;> simp [hwarn, hk, EnforcementRow.startState]
    | some st => by_cases hwarn : r.action = .warn <;> simp [hwarn, hk]
  · rw [if_neg hk, if_neg fun h' => hk h'.2]

theorem follows_summaryOf (log : List EnforcementRow) : Follows log (summaryOf log) := by
  induction log using List.reverseRecOn with
  | nil => exact ⟨List.nodup_nil, fun _ _ _ => by simp [summaryOf, findState?, lastWarnIn]⟩
  | append_singleton log r ih =>
    rw [summaryOf_append_singleton]
    exact ih.summarize r

/-- When the summary rows are those of the log, an actor was last warned at the time of the
latest warning the log holds about it. -/
theorem lastWarnedAt_eq_lastWarnIn {s : Store} (h : s.states = summaryOf s.enforcements)
    (policyId serverId : Int) (actorKey : String) :
    s.lastWarnedAt policyId serverId actorKey =
      lastWarnIn s.enforcements (policyId, serverId, actorKey) := by
  rw [Store.lastWarnedAt, Store.enforcementState?, h]
  exact (follows_summaryOf s.enforcements).warnedAt_eq policyId serverId actorKey

end StreamWarden
