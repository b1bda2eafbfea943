import StreamWarden.Proofs.PollRuns
import StreamWarden.Media.Scripted
import Mathlib.Data.Finset.Card

/-!
# What a successful poll reports and leaves

After a successful poll of a server the live table holds one row per session key the adapter
reported, in the state of the last report of that key, and nothing else of that server. The
outcome counts the keys reported, the keys that had a row and were not reported (they are
finished), and one event per finished key and per key that is new or changed state. The
server is then marked up, checked now.

A second poll that sees the same sessions changes nothing but the time each row was last seen.
-/

namespace StreamWarden

namespace Store

variable {s : Store} {sid : Int}

/-- The keys of the server's rows. -/
theorem mem_rowKeys {k : String} :
    k ∈ (s.live.filter (·.serverId == sid)).map (·.sessionKey) ↔ (s.liveRow? sid k).isSome := by
  rw [← mem_previousStates_keys]
  simp [previousStates, mem_liveOf]

end Store

/-! ## Refreshing a row twice with the same report -/

section Refresh

open Store

theorem maxKnown_maxKnown (p b : Option Int) : maxKnown (maxKnown p b) b = maxKnown p b := by
  rcases p with _ | p <;> rcases b with _ | b <;> simp [maxKnown]

theorem maxKnown_self (b : Option Int) : maxKnown b b = b := by
  rcases b with _ | b <;> simp [maxKnown]

variable (x : NormalizedSession) (a : Option Int) (n₁ n₂ : Int)

theorem refreshRow_refreshRow (old : LiveRow) :
    refreshRow (refreshRow old x a n₁) x a n₂ =
      { refreshRow old x a n₁ with lastSeenAt := max n₂ old.startedAt } := by
  have hleft : ∀ {α : Type} (o o' : Option α), o.or (o.or o') = o.or o' := fun o o' => by
    rw [← Option.or_assoc, Option.or_self]
  simp [refreshRow, Option.or_assoc, maxKnown_maxKnown, hleft]

theorem refreshRow_freshRow (id : Nat) :
    refreshRow (freshRow id x a n₁) x a n₂ =
      { freshRow id x a n₁ with lastSeenAt := max n₂ (freshRow id x a n₁).startedAt } := by
  simp [refreshRow, freshRow, maxKnown_self]

/-- The merges of a refresh are idempotent: refreshing the row a report left with the same
report only moves its last sighting. -/
theorem refreshRow_reportedRow (before : Option LiveRow) (id : Nat) :
    refreshRow (reportedRow before id x a n₁) x a n₂ =
      { reportedRow before id x a n₁ with
        lastSeenAt := max n₂ (reportedRow before id x a n₁).startedAt } := by
  cases before with
  | some old => exact refreshRow_refreshRow x a n₁ n₂ old
  | none => exact refreshRow_freshRow x a n₁ n₂ id

end Refresh

/-! ## The counts of a poll -/

section Counts

variable {s : Store} {sid : Int} (X : List NormalizedSession)

theorem sessionMap_length : (sessionMap X).length = (X.map (·.sessionKey)).toFinset.card := by
  rw [← List.length_map (f := (·.1)), ← List.toFinset_card_of_nodup (sessionMap_keys_nodup X)]
  congr 1
  ext k
  simp only [List.mem_toFinset]
  exact mem_keys_sessionMap

/-- The vanished keys are the keys with a row that were not reported. -/
theorem vanishedKeys_length :
    (vanishedKeys (s.previousStates sid) (sessionMap X)).length =
      (((s.live.filter (·.serverId == sid)).map (·.sessionKey)).toFinset \
        (X.map (·.sessionKey)).toFinset).card := by
  have hnodup : (vanishedKeys (s.previousStates sid) (sessionMap X)).Nodup :=
    (vanishedKeys_ascending _ _).imp ne_of_lt
  rw [← List.toFinset_card_of_nodup hnodup]
  congr 1
  ext k
  rw [List.mem_toFinset, mem_vanishedKeys, Finset.mem_sdiff, List.mem_toFinset, List.mem_toFinset,
    Store.mem_previousStates_keys, Store.mem_rowKeys, ← mem_keys_sessionMap,
    mem_keys_iff_lookup_isSome, Option.not_isSome_iff_eq_none]

/-- The transitions are the reported keys that are new or changed state. -/
theorem transitions_length (hk : s.KeyedAt sid) :
    (transitions (s.previousStates sid) (sessionMap X)).length =
      ((X.map (·.sessionKey)).toFinset.filter fun k =>
        (s.liveRow? sid k).map (·.state) ≠ (X.filter (·.sessionKey == k)).getLast?.map (·.state)).card := by
  rw [← List.length_map (f := (·.sessionKey)),
    ← List.toFinset_card_of_nodup (transitions_keys_nodup _ (sessionMap_ascending X))]
  congr 1
  ext k
  rw [List.mem_toFinset, mem_transitions_keys (sessionMap_ascending X), Finset.mem_filter,
    List.mem_toFinset, ← mem_keys_sessionMap, mem_keys_iff_lookup_isSome, ← lookup_sessionMap,
    Store.previousStates_get? hk]
  cases (sessionMap X).lookup k <;> simp

end Counts

/-! ## One successful poll -/

variable {σ : Type} {F : ServerConfig → Except ProviderError (Adapter (Op σ))} {server : ServerRow}
  {now : Int} {s : Store} {e e₁ : σ} {A : Adapter (Op σ)} {X : List NormalizedSession}

/-- A poll of a server that is there, whose adapter reports the sessions `X` and leaves the store
alone, succeeds: each reported key has one row, in the state of its last report, and the server's
other keys none; the outcome counts the distinct keys, the vanished ones, and one event per
vanished, new or changed key; the server is up, checked now. -/
theorem collectServer_reconciles (config : CollectorConfig) (hk : s.KeyedAt server.id)
    (hsrv : (s.server? server.id).isSome) (hF : F server.config = .ok A)
    (hlist : Op.exec (A.listSessions now) s e = ((.ok X, s), e₁))
    (hX : ∀ x ∈ X, x.serverId = server.id) :
    let r := Op.exec (collectServer F config server now) s e
    let keys := (X.map (·.sessionKey)).toFinset
    let before := ((s.live.filter (·.serverId == server.id)).map (·.sessionKey)).toFinset
    ∃ o, r.1.1 = .ok o ∧
      (∀ k, (r.1.2.live.filter fun row => row.serverId == server.id && row.sessionKey == k).map
          (·.state) = ((X.filter (·.sessionKey == k)).getLast?.map (·.state)).toList) ∧
      o.sessionsSeen = keys.card ∧ o.stopped = (before \ keys).card ∧
      o.events = o.stopped + (keys.filter fun k => (s.liveRow? server.id k).map (·.state) ≠
        (X.filter (·.sessionKey == k)).getLast?.map (·.state)).card ∧
      r.1.2.server? server.id =
        (s.server? server.id).map fun row => { row with status := .up, lastChecked := some now } := by
  intro r keys before
  obtain ⟨s', hpoll, heff⟩ := pollAndPersist_exec_ok hk hsrv hF hlist hX
  have hr : r = ((.ok (pollOutcome s server.id X), s'.updateStatus server.id (some .up) now), e₁) := by
    simp only [r, collectServer_exec, hpoll]
  refine ⟨pollOutcome s server.id X, by rw [hr], fun k => ?_, sessionMap_length X,
    vanishedKeys_length X, ?_, ?_⟩
  · have hlive : (s'.updateStatus server.id (some .up) now).live = s'.live := rfl
    rw [hr]
    dsimp only
    rw [hlive, heff.keyed.filter_key, ← heff.state k]
    cases s'.liveRow? server.id k <;> rfl
  · simp only [pollOutcome]
    rw [transitions_length X hk, vanishedKeys_length X, Nat.add_comm]
  · rw [hr]
    dsimp only
    rw [Store.server?_updateStatus, Store.server?_congr heff.servers]
    rfl

/-- The rehearsal of a server with no sessions yet, whose scripted adapter reports one playing
session. -/
theorem rehearsal_poll_reconciles :
    let server : ServerRow := { id := 1, kind := .plex }
    let x : NormalizedSession := { serverId := 1, provider := .plex, sessionKey := "a", state := .playing }
    let s : Store := { servers := [server] }
    let e : Stage := { scripts := [(1, .sessions [x])] }
    s.KeyedAt server.id ∧ (s.server? server.id).isSome ∧
      scriptedFactory server.config = .ok (scriptedAdapter server.config) ∧
      Op.exec ((scriptedAdapter server.config).listSessions 0) s e = ((.ok [x], s), e) ∧
      (∀ y ∈ [x], y.serverId = server.id) ∧
      let r := Op.exec (collectServer scriptedFactory {} server 0) s e
      let keys := ([x].map (·.sessionKey)).toFinset
      let before := ((s.live.filter (·.serverId == server.id)).map (·.sessionKey)).toFinset
      ∃ o, r.1.1 = .ok o ∧
        (∀ k, (r.1.2.live.filter fun row => row.serverId == server.id && row.sessionKey == k).map
            (·.state) = (([x].filter (·.sessionKey == k)).getLast?.map (·.state)).toList) ∧
        o.sessionsSeen = keys.card ∧ o.stopped = (before \ keys).card ∧
        o.events = o.stopped + (keys.filter fun k => (s.liveRow? server.id k).map (·.state) ≠
          ([x].filter (·.sessionKey == k)).getLast?.map (·.state)).card ∧
        r.1.2.server? server.id =
          (s.server? server.id).map fun row => { row with status := .up, lastChecked := some 0 } := by
  intro server x s e
  have hk : s.KeyedAt server.id := ⟨List.nodup_nil, fun _ h => nomatch h⟩
  have hsrv : (s.server? server.id).isSome := rfl
  have hlist : Op.exec ((scriptedAdapter server.config).listSessions 0) s e = ((.ok [x], s), e) := rfl
  have hX : ∀ y ∈ [x], y.serverId = server.id := by simp [x, server]
  exact ⟨hk, hsrv, rfl, hlist, hX, collectServer_reconciles {} hk hsrv rfl hlist hX⟩

/-- A poll that sees again what the last poll saw finds no change of state and nothing gone. -/
theorem PollEffect.repoll_quiet {s' : Store} {prov : ProviderKind}
    (heff : PollEffect s s' sid prov now X) :
    transitions (s'.previousStates sid) (sessionMap X) = [] ∧
      vanishedKeys (s'.previousStates sid) (sessionMap X) = [] := by
  constructor
  · rw [← List.length_eq_zero_iff, transitions_length X heff.keyed, Finset.card_eq_zero,
      Finset.filter_eq_empty_iff]
    exact fun k _ hne => hne (heff.state k)
  · refine List.eq_nil_iff_forall_not_mem.mpr fun k hkV => ?_
    obtain ⟨hprev, hnone⟩ := mem_vanishedKeys.mp hkV
    rw [Store.mem_previousStates_keys, heff.gone k hnone] at hprev
    exact absurd hprev (by simp)

/-- Polling again and seeing the same sessions changes nothing but the last sightings: after a
successful poll that saw `X`, a poll at `now₂` that sees `X` again succeeds with no event and
nothing stopped, appends no event and no history, and leaves each row of the server as it was
but last seen at `now₂` (or at its start, when the row started later). -/
theorem repoll_same_sessions_touches_only_lastSeen (config : CollectorConfig) {now₂ : Int}
    {s₁ : Store} {e₂ e₃ : σ} (hk : s.KeyedAt server.id) (hsrv : (s.server? server.id).isSome)
    (hF : F server.config = .ok A) (hlist : Op.exec (A.listSessions now) s e = ((.ok X, s), e₁))
    (hX : ∀ x ∈ X, x.serverId = server.id)
    (hs₁ : (Op.exec (collectServer F config server now) s e).1.2 = s₁)
    (hlist₂ : Op.exec (A.listSessions now₂) s₁ e₂ = ((.ok X, s₁), e₃)) :
    let r := Op.exec (collectServer F config server now₂) s₁ e₂
    ∃ o, r.1.1 = .ok o ∧ o.events = 0 ∧ o.stopped = 0 ∧
      r.1.2.events = s₁.events ∧ r.1.2.history = s₁.history ∧
      ∀ k, (r.1.2.live.filter fun row => row.serverId == server.id && row.sessionKey == k) =
        (s₁.live.filter fun row => row.serverId == server.id && row.sessionKey == k).map
          fun row => { row with lastSeenAt := max now₂ row.startedAt } := by
  intro r
  obtain ⟨s', hpoll, heff⟩ := pollAndPersist_exec_ok hk hsrv hF hlist hX
  have hs₁' : s₁ = s'.updateStatus server.id (some .up) now := by
    rw [← hs₁, collectServer_exec, hpoll]
  have hlive₁ : s₁.live = s'.live := by rw [hs₁']; rfl
  have hk₁ : s₁.KeyedAt server.id := heff.keyed.of_live hlive₁
  have hrow₁ : ∀ k, s₁.liveRow? server.id k = s'.liveRow? server.id k := fun k =>
    Store.liveRow?_of_live hlive₁
  have hsrv₁ : (s₁.server? server.id).isSome := by
    rw [hs₁', Store.server?_updateStatus, Store.server?_congr heff.servers]
    simpa using hsrv
  have haccs₁ : s₁.accounts = s.accounts := by
    rw [hs₁']
    exact heff.accounts
  obtain ⟨s₂, hpoll₂, heff₂⟩ := pollAndPersist_exec_ok hk₁ hsrv₁ hF hlist₂ hX
  have hr : r = ((.ok (pollOutcome s₁ server.id X), s₂.updateStatus server.id (some .up) now₂), e₃) := by
    simp only [r, collectServer_exec, hpoll₂]
  have hprev₁ : s₁.previousStates server.id = s'.previousStates server.id := by
    simp only [Store.previousStates, Store.liveOf, hlive₁]
  obtain ⟨htrans, hvan⟩ := heff.repoll_quiet
  rw [← hprev₁] at htrans hvan
  have hnoevents : pollEvents s₁ server.id server.config.provider now₂ X = [] := by
    simp [pollEvents, htrans, hvan]
  refine ⟨pollOutcome s₁ server.id X, by rw [hr], by simp [pollOutcome, htrans, hvan],
    by simp [pollOutcome, hvan], ?_, ?_, fun k => ?_⟩
  · rw [hr]
    have hlog := heff₂.logs
    rw [hnoevents] at hlog
    exact hlog.events_eq
  · rw [hr]
    exact heff₂.history hvan
  · have hlive₂ : (s₂.updateStatus server.id (some .up) now₂).live = s₂.live := rfl
    rw [hr]
    dsimp only
    rw [hlive₂, heff₂.keyed.filter_key, hk₁.filter_key]
    cases hx : (sessionMap X).lookup k with
    | none => rw [heff₂.gone k hx, hrow₁, heff.gone k hx]; rfl
    | some x =>
      obtain ⟨id₂, hrow₂⟩ := heff₂.seen k x hx
      obtain ⟨id₁, hrowed⟩ := heff.seen k x hx
      rw [hrow₂, hrow₁, hrowed, Store.resolveAccount_congr haccs₁]
      simp only [Option.toList_some, List.map_cons, List.map_nil, List.cons.injEq, and_true]
      exact refreshRow_reportedRow x _ now now₂ _ id₁

/-- The rehearsal of a server polled at 0 and again a minute later, its scripted adapter
reporting the same playing session both times. -/
theorem rehearsal_repoll_touches_only_lastSeen :
    let server : ServerRow := { id := 1, kind := .plex }
    let x : NormalizedSession := { serverId := 1, provider := .plex, sessionKey := "a", state := .playing }
    let s : Store := { servers := [server] }
    let e : Stage := { scripts := [(1, .sessions [x])] }
    let s₁ := (Op.exec (collectServer scriptedFactory {} server 0) s e).1.2
    s.KeyedAt server.id ∧ (s.server? server.id).isSome ∧
      scriptedFactory server.config = .ok (scriptedAdapter server.config) ∧
      Op.exec ((scriptedAdapter server.config).listSessions 0) s e = ((.ok [x], s), e) ∧
      (∀ y ∈ [x], y.serverId = server.id) ∧
      Op.exec ((scriptedAdapter server.config).listSessions 60000) s₁ e = ((.ok [x], s₁), e) ∧
      let r := Op.exec (collectServer scriptedFactory {} server 60000) s₁ e
      ∃ o, r.1.1 = .ok o ∧ o.events = 0 ∧ o.stopped = 0 ∧
        r.1.2.events = s₁.events ∧ r.1.2.history = s₁.history ∧
        ∀ k, (r.1.2.live.filter fun row => row.serverId == server.id && row.sessionKey == k) =
          (s₁.live.filter fun row => row.serverId == server.id && row.sessionKey == k).map
            fun row => { row with lastSeenAt := max 60000 row.startedAt } := by
  intro server x s e s₁
  have hk : s.KeyedAt server.id := ⟨List.nodup_nil, fun _ h => nomatch h⟩
  have hsrv : (s.server? server.id).isSome := rfl
  have hlist : Op.exec ((scriptedAdapter server.config).listSessions 0) s e = ((.ok [x], s), e) := rfl
  have hX : ∀ y ∈ [x], y.serverId = server.id := by simp [x, server]
  have hlist₂ : Op.exec ((scriptedAdapter server.config).listSessions 60000) s₁ e =
      ((.ok [x], s₁), e) := rfl
  exact ⟨hk, hsrv, rfl, hlist, hX, hlist₂,
    repoll_same_sessions_touches_only_lastSeen {} hk hsrv rfl hlist hX rfl hlist₂⟩

/-- A row that started after the time of the second poll keeps its start as last sighting: a
poll at 100 then one at 0 leave the row last seen at 100, not at 0. -/
theorem repoll_before_start_keeps_lastSeen :
    let server : ServerRow := { id := 1, kind := .plex }
    let x : NormalizedSession := { serverId := 1, provider := .plex, sessionKey := "a", state := .playing }
    let s : Store := { servers := [server] }
    let e : Stage := { scripts := [(1, .sessions [x])] }
    let s₁ := (Op.exec (collectServer scriptedFactory {} server 100) s e).1.2
    let s₂ := (Op.exec (collectServer scriptedFactory {} server 0) s₁ e).1.2
    (s₂.liveRow? 1 "a").map (·.lastSeenAt) = some 100 := by
  decide +kernel

end StreamWarden
