import StreamWarden.Proofs.PollRuns

/-!
# The row of a session, from its first report to its history

Every report of a playing session is written into the one row of its server and session key.
The first report makes the row; each later one merges into it by a rule per column: the start
is fixed by the first report, the titles keep their first known value, the account and the
user, media, progress, duration, height and library details take their last known value, the
session counts as transcoded once any report says so, the peak bit rate is the largest one
reported, the last sighting is the report's time unless the row started later, and every other
column is the last report's. So the row after any run of reports is a function of the reports
alone (`mergedRow`), and it never starts after it was last seen, whatever the clock did.

A session that is gone is finished in one write: its `stop` event is logged, its row deleted,
and a history row written unless the history has the session with the same start already. The
history row's times and time watched always pass the history table's checks, so only that
duplicate can keep it out.
-/

namespace StreamWarden

/-! ## Merging the reports of a session -/

/-- A report of a session written at `now`, with the account it resolved to. -/
structure Sighting where
  session : NormalizedSession
  account : Option Int
  now : Int

/-- The first of the values that are known, in order. -/
def firstKnown {α : Type} (xs : List (Option α)) : Option α := (xs.filterMap id).head?

/-- The last of the values that are known. -/
def lastKnown {α : Type} (xs : List (Option α)) : Option α := (xs.filterMap id).getLast?

/-- The largest of the values that are known. -/
def largestKnown (xs : List (Option Int)) : Option Int := (xs.filterMap id).max?

@[simp] theorem firstKnown_append_singleton {α : Type} (xs : List (Option α)) (o : Option α) :
    firstKnown (xs ++ [o]) = (firstKnown xs).or o := by
  cases o <;> simp [firstKnown, List.filterMap_append, List.head?_append]

@[simp] theorem lastKnown_append_singleton {α : Type} (xs : List (Option α)) (o : Option α) :
    lastKnown (xs ++ [o]) = o.or (lastKnown xs) := by
  cases o <;> simp [lastKnown, List.filterMap_append, List.getLast?_append]

theorem max?_append_singleton (xs : List Int) (b : Int) :
    (xs ++ [b]).max? = maxKnown xs.max? (some b) := by
  cases xs with
  | nil => rfl
  | cons a rest =>
    simp only [List.cons_append, List.max?_cons', List.foldl_append, List.foldl_cons, List.foldl_nil,
      maxKnown]

@[simp] theorem largestKnown_append_singleton (xs : List (Option Int)) (o : Option Int) :
    largestKnown (xs ++ [o]) = maxKnown (largestKnown xs) o := by
  cases o with
  | none =>
    cases h : largestKnown xs with
    | none => simpa [largestKnown, maxKnown] using h
    | some a => simpa [largestKnown, maxKnown] using h
  | some b =>
    simp only [largestKnown, List.filterMap_append]
    exact max?_append_singleton _ b

/-- The row the reports `first`, then `rest`, of one session leave, by the column rules of the
live table: the row starts when the first report says the session started, but not later than
that report; the titles are the first known ones; the account, the user, the media, the progress,
the duration, the height and the library are the last known ones; the session was transcoded if
any report says so; the peak bit rate is the largest known one; the last sighting is the last
report's time, or the start when that is later; everything else is the last report's. -/
def mergedRow (id : Nat) (first : Sighting) (rest : List Sighting) : LiveRow :=
  let all := first :: rest
  let last := all.getLast (List.cons_ne_nil first rest)
  let startedAt := min (first.session.startedAt.getD first.now) first.now
  { id, serverId := first.session.serverId, sessionKey := first.session.sessionKey
    mediaUserId := lastKnown (all.map (·.account))
    externalUserId := lastKnown (all.map (·.session.externalUserId))
    username := lastKnown (all.map (·.session.username))
    mediaKey := lastKnown (all.map (·.session.mediaKey))
    mediaType := last.session.mediaType
    title := firstKnown (all.map (·.session.title))
    grandparentTitle := firstKnown (all.map (·.session.grandparentTitle))
    parentTitle := firstKnown (all.map (·.session.parentTitle))
    seasonEpisode := firstKnown (all.map (·.session.seasonEpisode))
    state := last.session.state
    progressMs := lastKnown (all.map (·.session.progressMs))
    durationMs := lastKnown (all.map (·.session.durationMs))
    isTranscode := last.session.isTranscode
    wasTranscode := all.any (·.session.isTranscode)
    playMethod := last.session.playMethod
    videoDecision := last.session.videoDecision
    audioDecision := last.session.audioDecision
    bitrateKbps := last.session.bitrateKbps
    peakBitrateKbps := largestKnown (all.map (·.session.bitrateKbps))
    videoCodec := last.session.videoCodec
    audioCodec := last.session.audioCodec
    mediaHeight := lastKnown (all.map (·.session.mediaHeight))
    clientName := last.session.clientName
    clientProduct := last.session.clientProduct
    device := last.session.device
    ip := last.session.ip
    librarySectionId := lastKnown (all.map (·.session.librarySectionId))
    startedAt
    lastSeenAt := max last.now startedAt
    rawJson := Store.rawText last.session.raw }

namespace Store

/-- A first report makes the row of its session alone. -/
theorem freshRow_eq_mergedRow (id : Nat) (r : Sighting) :
    freshRow id r.session r.account r.now = mergedRow id r [] := by
  cases hb : r.session.bitrateKbps <;>
    simp [freshRow, mergedRow, firstKnown, lastKnown, largestKnown, hb]

/-- A further report refreshes the row the earlier reports left into the row of all of them. -/
theorem refreshRow_mergedRow (id : Nat) (first r : Sighting) (rest : List Sighting) :
    refreshRow (mergedRow id first rest) r.session r.account r.now =
      mergedRow id first (rest ++ [r]) := by
  have hlast : (first :: (rest ++ [r])).getLast (List.cons_ne_nil _ _) = r := by simp
  simp only [refreshRow, mergedRow, hlast]
  simp only [List.map_cons, List.map_append, List.map_nil, ← List.cons_append,
    firstKnown_append_singleton, lastKnown_append_singleton, largestKnown_append_singleton,
    List.any_append, List.any_cons, List.any_nil, Bool.or_false, Option.orElse_eq_or]

end Store

/-- Writing the reports `first`, then `rest`, of one session, from a store with no row for it,
on a server that is there and with accounts that are there: every write succeeds, and the row of
the session is the row the reports leave by the column rules, with the id it was given first. -/
theorem foldlM_upsertLive (s : Store) (first : Sighting) (rest : List Sighting)
    (hsrv : (s.server? first.session.serverId).isSome)
    (hacc : ∀ r ∈ first :: rest, ∀ a ∈ r.account, s.hasAccount a = true)
    (hkey : ∀ r ∈ rest, r.session.serverId = first.session.serverId ∧
      r.session.sessionKey = first.session.sessionKey)
    (hnew : s.liveRow? first.session.serverId first.session.sessionKey = none) :
    ∃ s', (first :: rest).foldlM (fun s r => s.upsertLive r.session r.account r.now) s = .ok s' ∧
      s'.servers = s.servers ∧ s'.accounts = s.accounts ∧
      s'.liveRow? first.session.serverId first.session.sessionKey =
        some (mergedRow (nextRowId (s.live.map (·.id))) first rest) := by
  induction rest using List.reverseRecOn with
  | nil =>
    refine ⟨s.putLive first.session first.account first.now, ?_, Store.putLive_servers,
      Store.putLive_accounts, ?_⟩
    · simp [Store.upsertLive_eq_ok hsrv (hacc first List.mem_cons_self)]
    · rw [Store.liveRow?_putLive, Store.putRow, hnew, Store.freshRow_eq_mergedRow]
  | append_singleton rest r ih =>
    have hsub : first :: rest ⊆ first :: (rest ++ [r]) :=
      List.cons_subset_cons first (List.subset_append_left rest [r])
    obtain ⟨s₁, hrun, hsrvs, haccs, hrow⟩ := ih (fun q hq => hacc q (hsub hq))
      (fun q hq => hkey q (List.subset_append_left rest [r] hq))
    obtain ⟨hsid, hk⟩ := hkey r (by simp)
    have hsrv₁ : (s₁.server? r.session.serverId).isSome := by
      rw [Store.server?_congr hsrvs, hsid]
      exact hsrv
    have hacc₁ : ∀ a ∈ r.account, s₁.hasAccount a = true := fun a ha => by
      simpa [Store.hasAccount, haccs] using hacc r (by simp) a ha
    refine ⟨s₁.putLive r.session r.account r.now, ?_, ?_, ?_, ?_⟩
    · rw [← List.cons_append, List.foldlM_append, hrun]
      change (s₁.upsertLive r.session r.account r.now >>= fun s₂ => pure s₂) = _
      rw [Store.upsertLive_eq_ok hsrv₁ hacc₁]
      rfl
    · rw [Store.putLive_servers, hsrvs]
    · rw [Store.putLive_accounts, haccs]
    · rw [← hsid, ← hk, Store.liveRow?_putLive, Store.putRow, hsid, hk, hrow]
      exact congrArg some (Store.refreshRow_mergedRow _ first r rest)

/-- The reports of one session, written in turn from a store with no row for it, all succeed and
leave the row the column rules make of them: the earliest known start, the last sighting (never
before the start), the first known titles, the last known details, transcoded if any report was,
the largest peak bit rate, and the last report's other columns. -/
theorem upserts_merge_into_row (s : Store) (first : Sighting) (rest : List Sighting)
    (hsrv : (s.server? first.session.serverId).isSome)
    (hacc : ∀ r ∈ first :: rest, ∀ a ∈ r.account, s.hasAccount a = true)
    (hkey : ∀ r ∈ rest, r.session.serverId = first.session.serverId ∧
      r.session.sessionKey = first.session.sessionKey)
    (hnew : s.liveRow? first.session.serverId first.session.sessionKey = none) :
    let row := mergedRow (nextRowId (s.live.map (·.id))) first rest
    ∃ s', (first :: rest).foldlM (fun s r => s.upsertLive r.session r.account r.now) s = .ok s' ∧
      s'.liveRow? first.session.serverId first.session.sessionKey = some row ∧
      row.startedAt ≤ row.lastSeenAt := by
  intro row
  obtain ⟨s', hrun, -, -, hrow⟩ := foldlM_upsertLive s first rest hsrv hacc hkey hnew
  exact ⟨s', hrun, hrow, Int.le_max_right _ _⟩

/-- The rehearsal of a session reported twice: first with a title, a bit rate of 4000 and a
transcode, started at 50 and seen at 100; then with another title, a lower bit rate and no
transcode, seen at 160. -/
theorem rehearsal_upserts_merge_into_row :
    let s : Store := { servers := [{ id := 1, kind := .plex }] }
    let first : Sighting :=
      ⟨{ serverId := 1, provider := .plex, sessionKey := "a", title := some "Pilot"
         bitrateKbps := some 4000, isTranscode := true, startedAt := some 50 }, none, 100⟩
    let second : Sighting :=
      ⟨{ serverId := 1, provider := .plex, sessionKey := "a", title := some "Finale"
         bitrateKbps := some 3000 }, none, 160⟩
    let row := mergedRow (nextRowId (s.live.map (·.id))) first [second]
    (s.server? first.session.serverId).isSome ∧
      (∀ r ∈ [first, second], ∀ a ∈ r.account, s.hasAccount a = true) ∧
      (∀ r ∈ [second], r.session.serverId = first.session.serverId ∧
        r.session.sessionKey = first.session.sessionKey) ∧
      s.liveRow? first.session.serverId first.session.sessionKey = none ∧
      ∃ s', [first, second].foldlM (fun s r => s.upsertLive r.session r.account r.now) s = .ok s' ∧
        s'.liveRow? first.session.serverId first.session.sessionKey = some row ∧
        row.startedAt ≤ row.lastSeenAt := by
  intro s first second row
  have hsrv : (s.server? first.session.serverId).isSome := rfl
  have hacc : ∀ r ∈ [first, second], ∀ a ∈ r.account, s.hasAccount a = true := by
    simp [first, second]
  have hkey : ∀ r ∈ [second], r.session.serverId = first.session.serverId ∧
      r.session.sessionKey = first.session.sessionKey := by
    simp [first, second]
  have hnew : s.liveRow? first.session.serverId first.session.sessionKey = none := rfl
  exact ⟨hsrv, hacc, hkey, hnew, upserts_merge_into_row s first [second] hsrv hacc hkey hnew⟩

/-- That rehearsal leaves the first title, the peak bit rate of the first report, the transcode
of the first report, the start of 50 and the last sighting of 160. -/
example :
    let first : Sighting :=
      ⟨{ serverId := 1, provider := .plex, sessionKey := "a", title := some "Pilot"
         bitrateKbps := some 4000, isTranscode := true, startedAt := some 50 }, none, 100⟩
    let second : Sighting :=
      ⟨{ serverId := 1, provider := .plex, sessionKey := "a", title := some "Finale"
         bitrateKbps := some 3000 }, none, 160⟩
    let row := mergedRow 1 first [second]
    (row.title, row.peakBitrateKbps, row.wasTranscode, row.isTranscode, row.startedAt,
      row.lastSeenAt) = (some "Pilot", some 4000, true, false, 50, 160) := by
  decide

/-! ## Finishing a session -/

theorem HistoryRow.passesChecks_iff (h : HistoryRow) :
    h.passesChecks ↔ 0 ≤ h.watchMs ∧ h.startedAt ≤ h.stoppedAt := by
  simp [HistoryRow.passesChecks]

namespace Store

/-- The history row finishing a session never fails the table's checks: its time watched is
clamped at 0, and it stops at the later of now and its start. -/
theorem historyEntry_passesChecks (s : Store) (sid : Int) (prov : ProviderKind) (k : String)
    (now : Int) (row : LiveRow) : (s.historyEntry sid prov k now row).passesChecks := by
  rw [HistoryRow.passesChecks_iff, historyEntry_watchMs, historyEntry_startedAt,
    historyEntry_stoppedAt]
  exact ⟨Int.le_max_right _ _, Int.le_max_right _ _⟩

/-- The start of a finished session is the first positive time of its start and its last
sighting, else now. -/
theorem historyStart_eq_find (row : LiveRow) (now : Int) :
    historyStart row now = ([row.startedAt, row.lastSeenAt].find? (0 < ·)).getD now := by
  unfold historyStart
  by_cases h₁ : 0 < row.startedAt
  · simp [h₁]
  · by_cases h₂ : 0 < row.lastSeenAt
    · simp [h₁, h₂]
    · simp [h₁, h₂]

/-- Finishing a live session at `now`: with no row for the key nothing is written; otherwise one
write logs its `stop` event, deletes its row and writes a history row unless one with the same
server, key and start exists, and reports whether it did. The history row passes the table's
checks: time watched is not negative and the session does not stop before it starts. -/
theorem finalize_finishes_session (s : Store) (sid : Int) (prov : ProviderKind) (k : String)
    (now : Int) (hfk : ∀ r ∈ s.live, (s.server? r.serverId).isSome) :
    (s.liveRow? sid k = none → s.finalize sid prov k now = .ok (none, s)) ∧
    ∀ row, s.liveRow? sid k = some row →
      let start := ([row.startedAt, row.lastSeenAt].find? (0 < ·)).getD now
      let watched := max (row.progressMs.getD 0) 0
      ∃ written s' entry, s.finalize sid prov k now =
          .ok (some ⟨k, start, max now start, watched, written⟩, s') ∧
        s'.events = s.events ++ [s.stopEvent sid prov k now row] ∧
        s'.live = s.live.filter (·.id != row.id) ∧
        s'.history = (if written then s.history ++ [entry] else s.history) ∧
        (written = true ↔
          ¬∃ h ∈ s.history, h.serverId = sid ∧ h.sessionKey = k ∧ h.startedAt = start) ∧
        entry.serverId = sid ∧ entry.sessionKey = k ∧ entry.provider = prov ∧
        entry.startedAt = start ∧ entry.stoppedAt = max now start ∧ entry.watchMs = watched ∧
        entry.wasTranscode = (row.wasTranscode || row.isTranscode) ∧
        entry.peakBitrateKbps = row.peakBitrateKbps ∧
        0 ≤ entry.watchMs ∧ entry.startedAt ≤ entry.stoppedAt ∧
        s' = { s with events := s'.events, live := s'.live, history := s'.history } := by
  refine ⟨finalize_of_none, fun row hrow => ?_⟩
  intro start watched
  obtain ⟨hmem, hsid, -⟩ := mem_of_liveRow? hrow
  have hsrv : (s.server? sid).isSome := hsid ▸ hfk row hmem
  have hstart : start = historyStart row now := (historyStart_eq_find row now).symm
  clear_value start
  subst hstart
  have hchecks := historyEntry_passesChecks s sid prov k now row
  obtain ⟨hwatch, hstop⟩ := (HistoryRow.passesChecks_iff _).1 hchecks
  refine ⟨_, _, s.historyEntry sid prov k now row, finalize_eq_ok prov now hrow hsrv, rfl, rfl,
    rfl, ?_, rfl, rfl, rfl, rfl, rfl, rfl, rfl, rfl, hwatch, hstop, rfl⟩
  rw [hchecks, Bool.and_true]
  simp [historyHas]

/-- The rehearsal of a session with no start, last seen at 40 with a negative progress, finished
at 100 with an empty history. -/
theorem rehearsal_finishes_session :
    let s : Store :=
      { servers := [{ id := 1, kind := .plex }]
        live := [{ id := 1, serverId := 1, sessionKey := "a", progressMs := some (-5)
                   startedAt := 0, lastSeenAt := 40 }] }
    let sid : Int := 1
    let now : Int := 100
    (∀ r ∈ s.live, (s.server? r.serverId).isSome) ∧
      (s.liveRow? sid "a" = none → s.finalize sid .plex "a" now = .ok (none, s)) ∧
      ∀ row, s.liveRow? sid "a" = some row →
        let start := ([row.startedAt, row.lastSeenAt].find? (0 < ·)).getD now
        let watched := max (row.progressMs.getD 0) 0
        ∃ written s' entry, s.finalize sid .plex "a" now =
            .ok (some ⟨"a", start, max now start, watched, written⟩, s') ∧
          s'.events = s.events ++ [s.stopEvent sid .plex "a" now row] ∧
          s'.live = s.live.filter (·.id != row.id) ∧
          s'.history = (if written then s.history ++ [entry] else s.history) ∧
          (written = true ↔
            ¬∃ h ∈ s.history, h.serverId = sid ∧ h.sessionKey = "a" ∧ h.startedAt = start) ∧
          entry.serverId = sid ∧ entry.sessionKey = "a" ∧ entry.provider = .plex ∧
          entry.startedAt = start ∧ entry.stoppedAt = max now start ∧ entry.watchMs = watched ∧
          entry.wasTranscode = (row.wasTranscode || row.isTranscode) ∧
          entry.peakBitrateKbps = row.peakBitrateKbps ∧
          0 ≤ entry.watchMs ∧ entry.startedAt ≤ entry.stoppedAt ∧
          s' = { s with events := s'.events, live := s'.live, history := s'.history } := by
  intro s sid now
  have hfk : ∀ r ∈ s.live, (s.server? r.serverId).isSome := by decide
  exact ⟨hfk, finalize_finishes_session s sid .plex "a" now hfk⟩

/-- That rehearsal starts the history at the last sighting and counts no time watched. -/
example :
    let s : Store :=
      { servers := [{ id := 1, kind := .plex }]
        live := [{ id := 1, serverId := 1, sessionKey := "a", progressMs := some (-5)
                   startedAt := 0, lastSeenAt := 40 }] }
    (s.finalize 1 .plex "a" 100).map (·.1) = .ok (some ⟨"a", 40, 100, 0, true⟩) := by
  decide

end Store

end StreamWarden
