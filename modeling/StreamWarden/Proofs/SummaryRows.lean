import StreamWarden.Proofs.EnforcementLog

/-!
# Summary rows are the projection of the enforcement log

Logging an action appends an entry to the log and updates one summary row, that of the entry's
policy, server and actor, by column rules of its own: the first sighting is set once, the last
sighting and the reason follow every entry, the warning time follows every warning (delivered or
not) and the kill time every successful kill.

Whatever actions are logged, at whatever times and with whatever outcome, a store whose summary
rows are those its log leaves keeps them so (`Store.Summarized`). Here that is read per key: a
key has a row exactly when the log has an entry about it, and the row holds what the entries
about the key say (`Summarizes`). The proof carries this over the log one entry at a time
(`findState?_summaryOf`), with `findState?_summarize` saying what one entry does to the row of
each key.
-/

namespace StreamWarden

/-- The time of the latest successful kill the log holds about a policy, server and actor. -/
def lastKillIn (log : List EnforcementRow) (key : Int × Int × String) : Option Int :=
  ((log.filter fun r => r.action == .kill && r.succeeded && r.key == key).getLast?).map (·.createdAt)

theorem lastKillIn_append_singleton (log : List EnforcementRow) (r : EnforcementRow)
    (key : Int × Int × String) :
    lastKillIn (log ++ [r]) key =
      if r.action = .kill ∧ r.succeeded ∧ r.key = key then some r.createdAt
      else lastKillIn log key := by
  by_cases h : r.action = .kill ∧ r.succeeded ∧ r.key = key
  · simp [lastKillIn, h]
  · have hf : (r.action == .kill && r.succeeded && r.key == key) = false := by
      simpa [Bool.and_assoc] using h
    simp [lastKillIn, h, hf]

/-- What the log says the summary row of a key holds: the time of the first entry about the key
and of the latest one, the time of the latest warning (delivered or not) and of the latest
successful kill, and the reason of the latest entry, prefixed with the action when it failed. -/
structure Summarizes (log : List EnforcementRow) (key : Int × Int × String)
    (st : EnforcementState) : Prop where
  firstSeenAt : ((log.filter (·.key == key)).head?).map (·.createdAt) = some st.firstSeenAt
  lastSeenAt : ((log.filter (·.key == key)).getLast?).map (·.createdAt) = some st.lastSeenAt
  warnedAt : st.warnedAt = lastWarnIn log key
  killedAt : st.killedAt = lastKillIn log key
  lastReason : ((log.filter (·.key == key)).getLast?).map
      (fun r => if r.succeeded then r.reason else r.action.name ++ " failed: " ++ r.reason) =
    st.lastReason

theorem filter_key_append_self (log : List EnforcementRow) (r : EnforcementRow) :
    (log ++ [r]).filter (·.key == r.key) = log.filter (·.key == r.key) ++ [r] := by
  simp [List.filter_append]

theorem filter_key_append_other (log : List EnforcementRow) {r : EnforcementRow}
    {key : Int × Int × String} (hk : r.key ≠ key) :
    (log ++ [r]).filter (·.key == key) = log.filter (·.key == key) := by
  simp [List.filter_append, hk]

/-- An entry about a key that has a row moves its last sighting and reason, and its warning or
kill time when it is a warning or a successful kill. -/
theorem Summarizes.record {log : List EnforcementRow} {r : EnforcementRow} {st : EnforcementState}
    (h : Summarizes log r.key st) : Summarizes (log ++ [r]) r.key (st.record r) where
  firstSeenAt := by
    obtain ⟨first, hfirst, hat⟩ := Option.map_eq_some_iff.mp h.firstSeenAt
    rw [filter_key_append_self, List.head?_append, hfirst]
    simpa [EnforcementState.record] using hat
  lastSeenAt := by simp [EnforcementState.record]
  warnedAt := by
    rw [EnforcementState.record_warnedAt, lastWarnIn_append_singleton, h.warnedAt]
    simp
  killedAt := by
    rw [lastKillIn_append_singleton, ← h.killedAt]
    simp [EnforcementState.record]
  lastReason := by simp [EnforcementState.record, EnforcementRow.stateReason]

/-- The first entry about a key starts its row. -/
theorem summarizes_startState {log : List EnforcementRow} {r : EnforcementRow}
    (hnew : ∀ e ∈ log, e.key ≠ r.key) (id : Nat) :
    Summarizes (log ++ [r]) r.key (r.startState id) := by
  have hnone : log.filter (·.key == r.key) = [] := by
    simpa [List.filter_eq_nil_iff] using hnew
  have hwarn : lastWarnIn log r.key = none := by
    simp only [lastWarnIn, Option.map_eq_none_iff, List.getLast?_eq_none_iff, List.filter_eq_nil_iff]
    intro e he
    simp [hnew e he]
  have hkill : lastKillIn log r.key = none := by
    simp only [lastKillIn, Option.map_eq_none_iff, List.getLast?_eq_none_iff, List.filter_eq_nil_iff]
    intro e he
    simp [hnew e he]
  refine ⟨?_, ?_, ?_, ?_, ?_⟩
  · simp [hnone, EnforcementRow.startState]
  · simp [EnforcementRow.startState]
  · rw [lastWarnIn_append_singleton, hwarn]
    simp [EnforcementRow.startState]
  · rw [lastKillIn_append_singleton, hkill]
    simp [EnforcementRow.startState]
  · simp [EnforcementRow.startState, EnforcementRow.stateReason]

/-- An entry about another key leaves what the log says about this one. -/
theorem Summarizes.append_other {log : List EnforcementRow} {key : Int × Int × String}
    {st : EnforcementState} (h : Summarizes log key st) {r : EnforcementRow} (hk : r.key ≠ key) :
    Summarizes (log ++ [r]) key st where
  firstSeenAt := by rw [filter_key_append_other log hk]; exact h.firstSeenAt
  lastSeenAt := by rw [filter_key_append_other log hk]; exact h.lastSeenAt
  warnedAt := by rw [lastWarnIn_append_singleton, if_neg fun h' => hk h'.2]; exact h.warnedAt
  killedAt := by rw [lastKillIn_append_singleton, if_neg fun h' => hk h'.2.2]; exact h.killedAt
  lastReason := by rw [filter_key_append_other log hk]; exact h.lastReason

/-- The summary rows a log leaves: a key has a row exactly when the log has an entry about it,
and then the row holds what the log says about the key. -/
theorem findState?_summaryOf (log : List EnforcementRow) (policyId serverId : Int)
    (actorKey : String) :
    match findState? (summaryOf log) policyId serverId actorKey with
    | none => ∀ r ∈ log, r.key ≠ (policyId, serverId, actorKey)
    | some st => Summarizes log (policyId, serverId, actorKey) st := by
  induction log using List.reverseRecOn with
  | nil => simp [summaryOf, findState?]
  | append_singleton log r ih =>
    rw [summaryOf_append_singleton, findState?_summarize (follows_summaryOf log).ids_nodup]
    by_cases hk : r.key = (policyId, serverId, actorKey)
    · rw [if_pos hk]
      simp only [EnforcementRow.key, Prod.mk.injEq] at hk
      obtain ⟨rfl, rfl, rfl⟩ := hk
      cases hold : findState? (summaryOf log) r.policyId r.serverId r.actorKey with
      | none =>
        rw [hold] at ih
        exact summarizes_startState ih _
      | some st =>
        rw [hold] at ih
        exact Summarizes.record ih
    · rw [if_neg hk]
      cases hold : findState? (summaryOf log) policyId serverId actorKey with
      | none =>
        rw [hold] at ih
        intro e he
        rcases List.mem_append.mp he with he | he
        · exact ih e he
        · rw [List.mem_singleton.mp he]
          exact hk
      | some st =>
        rw [hold] at ih
        exact ih.append_other hk

/-! ## Logging one action after another -/

/-- The store after each action is logged in turn, at its time; an action that cannot be logged
leaves the store as it was. -/
def Store.recordEach (s : Store) : List (EnforcementEntry × Int) → Store
  | [] => s
  | (entry, now) :: rest =>
    match s.recordAction entry now with
    | .ok s' => s'.recordEach rest
    | .error _ => s.recordEach rest

theorem Store.Summarized.recordEach {s : Store} (hs : s.Summarized)
    (calls : List (EnforcementEntry × Int)) : (s.recordEach calls).Summarized := by
  induction calls generalizing s with
  | nil => exact hs
  | cons call rest ih =>
    obtain ⟨entry, now⟩ := call
    unfold Store.recordEach
    cases hrec : s.recordAction entry now with
    | error _ => exact ih hs
    | ok s' => exact ih (LoggedBy.summarized (b := true) (recordAction_ok hrec) hs)

/-- Logging actions keeps each summary row the projection of the log: a policy, server and actor
has a row exactly when the log has an entry about them, holding the times of the first and latest
entries, of the latest warning and successful kill, and the latest entry's reason. So the enforcer
reads the time of the latest warning logged. -/
theorem enforcement_summary_projects_log {s : Store} (calls : List (EnforcementEntry × Int))
    (hs : s.Summarized) (policyId serverId : Int) (actorKey : String) :
    let s' := s.recordEach calls
    let key := (policyId, serverId, actorKey)
    ((s'.enforcementState? policyId serverId actorKey).isSome ↔
        ∃ r ∈ s'.enforcements, r.key = key) ∧
      (∀ st, s'.enforcementState? policyId serverId actorKey = some st →
        Summarizes s'.enforcements key st) ∧
      s'.lastWarnedAt policyId serverId actorKey = lastWarnIn s'.enforcements key := by
  intro s' key
  have hs' : s'.Summarized := hs.recordEach calls
  have hrow := findState?_summaryOf s'.enforcements policyId serverId actorKey
  rw [← hs'] at hrow
  refine ⟨?_, fun st hst => ?_, lastWarnedAt_eq_lastWarnIn hs' policyId serverId actorKey⟩
  · rw [Store.enforcementState?]
    cases hfind : findState? s'.states policyId serverId actorKey with
    | none =>
      rw [hfind] at hrow
      simpa using hrow
    | some st =>
      rw [hfind] at hrow
      obtain ⟨first, hfirst, -⟩ := Option.map_eq_some_iff.mp hrow.firstSeenAt
      have hmem := List.mem_filter.mp (List.mem_of_mem_head? hfirst)
      exact iff_of_true rfl ⟨first, hmem.1, by simpa using hmem.2⟩
  · rw [Store.enforcementState?] at hst
    rw [hst] at hrow
    exact hrow

/-- The rehearsal of a warning that did not arrive and a kill that failed, of one actor under
one policy. -/
theorem rehearsal_summary_projects_log :
    let s : Store := { policies := [{ id := 1 }] }
    let warn : EnforcementEntry :=
      { policyId := 1, serverId := 1, provider := "plex", sessionKey := "a"
        actorKey := "vodum:7", vodumUserId := some 7, externalUserId := none
        action := .warn, reason := "2 streams", succeeded := false }
    let s' := s.recordEach [(warn, 10), ({ warn with action := .kill }, 20)]
    let key := ((1 : Int), (1 : Int), "vodum:7")
    s.Summarized ∧
      ((s'.enforcementState? 1 1 "vodum:7").isSome ↔ ∃ r ∈ s'.enforcements, r.key = key) ∧
      (∀ st, s'.enforcementState? 1 1 "vodum:7" = some st → Summarizes s'.enforcements key st) ∧
      s'.lastWarnedAt 1 1 "vodum:7" = lastWarnIn s'.enforcements key := by
  intro s warn s' key
  have hs : s.Summarized := rfl
  exact ⟨hs, enforcement_summary_projects_log _ hs 1 1 "vodum:7"⟩

/-- That rehearsal leaves one row, first and last seen at the two entries, warned at the
warning, never killed, and with the failed kill as its reason. -/
example :
    let warn : EnforcementEntry :=
      { policyId := 1, serverId := 1, provider := "plex", sessionKey := "a"
        actorKey := "vodum:7", vodumUserId := some 7, externalUserId := none
        action := .warn, reason := "2 streams", succeeded := false }
    let s' := ({ policies := [{ id := 1 }] } : Store).recordEach
      [(warn, 10), ({ warn with action := .kill }, 20)]
    (s'.enforcementState? 1 1 "vodum:7").map
        (fun st => (st.firstSeenAt, st.lastSeenAt, st.warnedAt, st.killedAt, st.lastReason)) =
      some (10, 20, some 10, none, some "kill failed: 2 streams") := by
  decide

end StreamWarden
