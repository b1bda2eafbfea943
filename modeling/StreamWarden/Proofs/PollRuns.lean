import StreamWarden.Monitor.Collect
import StreamWarden.Proofs.TickRuns
import StreamWarden.Proofs.LiveTable
import StreamWarden.Proofs.SessionDiff

/-!
# Runs of one poll

A poll of a server whose row is in the store, and whose adapter answers with sessions of that
server and leaves the store alone, succeeds, and its three stages can be read off one by one.
Writing the sessions refreshes the row of each key of the map, or adds one. Logging the
transitions appends one event per transition. Finishing the vanished keys appends their `stop`
events and deletes their rows. A poll whose adapter cannot be built, or fails to list the
sessions, fails before it writes anything.

Events get their ids from the store, each above every id before it; apart from the id they are
the events the collector builds.
-/

namespace StreamWarden

/-! ## Events given ids by the store -/

/-- An event as the collector builds it, before the store gives it an id. -/
def EventRow.unstamped (e : EventRow) : EventRow := { e with id := 0 }

namespace Store

variable {s s' s₁ s₂ : Store} {sid : Int} {k : String}

/-- `s'` has the events of `s` followed by `es`, each given an id above every id before it. -/
def Logs (s s' : Store) (es : List EventRow) : Prop :=
  ∃ L, s'.events = s.events ++ L ∧ L.map EventRow.unstamped = es.map EventRow.unstamped ∧
    L.Pairwise (fun a b => a.id < b.id) ∧ ∀ a ∈ s.events, ∀ b ∈ L, a.id < b.id

theorem Logs.refl (h : s'.events = s.events) : s.Logs s' [] :=
  ⟨[], by simp [h], rfl, .nil, by simp⟩

theorem Logs.trans {es₁ es₂ : List EventRow} (h₁ : s.Logs s₁ es₁) (h₂ : s₁.Logs s₂ es₂) :
    s.Logs s₂ (es₁ ++ es₂) := by
  obtain ⟨L₁, hev₁, hmap₁, hpw₁, hnew₁⟩ := h₁
  obtain ⟨L₂, hev₂, hmap₂, hpw₂, hnew₂⟩ := h₂
  refine ⟨L₁ ++ L₂, by rw [hev₂, hev₁, List.append_assoc], by simp [hmap₁, hmap₂], ?_, ?_⟩
  · refine List.pairwise_append.mpr ⟨hpw₁, hpw₂, fun a ha b hb => hnew₂ a ?_ b hb⟩
    rw [hev₁]
    exact List.mem_append_right _ ha
  · intro a ha b hb
    rcases List.mem_append.mp hb with hb | hb
    · exact hnew₁ a ha b hb
    · exact hnew₂ a (hev₁ ▸ List.mem_append_left _ ha) b hb

theorem Logs.congr {es es' : List EventRow} (h : s.Logs s' es)
    (hes : es.map EventRow.unstamped = es'.map EventRow.unstamped) : s.Logs s' es' := by
  obtain ⟨L, hev, hmap, hpw, hnew⟩ := h
  exact ⟨L, hev, hmap.trans hes, hpw, hnew⟩

theorem Logs.events_eq (h : s.Logs s' []) : s'.events = s.events := by
  obtain ⟨L, hev, hmap, -, -⟩ := h
  rw [List.map_nil, List.map_eq_nil_iff] at hmap
  rw [hev, hmap, List.append_nil]

/-- One event appended with the next id. -/
theorem Logs.single {e : EventRow}
    (h : s'.events = s.events ++ [{ e with id := nextRowId (s.events.map (·.id)) }]) :
    s.Logs s' [e] := by
  refine ⟨_, h, rfl, List.pairwise_singleton _ _, fun a ha b hb => ?_⟩
  rw [List.mem_singleton] at hb
  subst hb
  exact lt_nextRowId (List.mem_map_of_mem ha)

theorem logs_appendEvent {e : EventRow} :
    s.Logs { s with events := s.events ++ [{ e with id := nextRowId (s.events.map (·.id)) }] } [e] :=
  Logs.single rfl

/-! ## Writing the sessions of a map -/

/-- A map of a poll of server `sid`: keys ascending, each entry under its own key, every session
of that server. -/
structure PollMap (sid : Int) (M : List (String × NormalizedSession)) : Prop where
  ascending : KeysAscending M
  keyed : KeyedBySelf M
  server : ∀ p ∈ M, p.2.serverId = sid

theorem PollMap.tail {p : String × NormalizedSession} {M : List (String × NormalizedSession)}
    (h : PollMap sid (p :: M)) : PollMap sid M :=
  ⟨h.ascending.of_cons, fun q hq => h.keyed q (List.mem_cons_of_mem _ hq),
    fun q hq => h.server q (List.mem_cons_of_mem _ hq)⟩

theorem PollMap.not_mem_tail {k : String} {x : NormalizedSession}
    {M : List (String × NormalizedSession)} (h : PollMap sid ((k, x) :: M)) : M.lookup k = none := by
  cases hl : M.lookup k with
  | none => rfl
  | some v =>
    have hmem : (k, v) ∈ M := (KeysAscending.mem_iff h.ascending.of_cons).mpr hl
    exact absurd (List.rel_of_pairwise_cons h.ascending hmem) (lt_irrefl k)

theorem pollMap_sessionMap {X : List NormalizedSession} (hX : ∀ x ∈ X, x.serverId = sid) :
    PollMap sid (sessionMap X) where
  ascending := sessionMap_ascending X
  keyed := sessionMap_keyedBySelf X
  server p hp := by
    have hlast := mem_sessionMap_iff.mp (show (p.1, p.2) ∈ sessionMap X from hp)
    exact hX p.2 (List.mem_filter.mp (List.mem_of_getLast? hlast)).1

theorem server?_congr (h : s'.servers = s.servers) : s'.server? = s.server? := by
  funext id
  simp [server?, h]

theorem resolveAccount_congr (h : s'.accounts = s.accounts) :
    s'.resolveAccount = s.resolveAccount := by
  funext sid ext name
  simp [resolveAccount, h]

/-- An account a session resolves to is one the store has. -/
theorem hasAccount_of_resolveAccount {ext name : Option String} {a : Int}
    (h : s.resolveAccount sid ext name = some a) : s.hasAccount a = true := by
  have hmem : ∃ acc ∈ s.accounts, acc.id = a := by
    unfold resolveAccount at h
    cases hext : (ext.bind Text.nonBlank).bind fun ext =>
        (s.accounts.find? fun a => a.serverId == sid && a.externalUserId == some ext).map (·.id) with
    | some b =>
      rw [hext, Option.orElse_some, Option.some.injEq] at h
      subst h
      obtain ⟨ext', -, hfound⟩ := Option.bind_eq_some_iff.mp hext
      obtain ⟨acc, hacc, rfl⟩ := Option.map_eq_some_iff.mp hfound
      exact ⟨acc, List.mem_of_find?_eq_some hacc, rfl⟩
    | none =>
      rw [hext, Option.orElse_none] at h
      obtain ⟨name', -, hmin⟩ := Option.bind_eq_some_iff.mp h
      obtain ⟨acc, hacc, rfl⟩ := List.mem_map.mp (List.min?_mem hmin)
      exact ⟨acc, (List.mem_filter.mp hacc).1, rfl⟩
  obtain ⟨acc, hacc, rfl⟩ := hmem
  exact List.any_eq_true.mpr ⟨acc, hacc, by simp⟩

theorem upsertLive_eq_ok {x : NormalizedSession} {account : Option Int} {now : Int}
    (hsrv : (s.server? x.serverId).isSome) (hacc : ∀ a ∈ account, s.hasAccount a = true) :
    s.upsertLive x account now = .ok (s.putLive x account now) := by
  have hnone : (s.server? x.serverId).isNone = false := by simpa using hsrv
  cases account with
  | none => simp [upsertLive, hnone]
  | some a => simp [upsertLive, hnone, hacc a rfl]

/-- The store after the sessions of a map are written one by one, each with the account it
resolves to. -/
def putAll (s : Store) (sid now : Int) : List (String × NormalizedSession) → Store
  | [] => s
  | (_, x) :: rest =>
    (s.putLive x (s.resolveAccount sid x.externalUserId x.username) now).putAll sid now rest

/-- The accounts the sessions of a map resolve to. -/
def accountsOf (s : Store) (sid : Int) (M : List (String × NormalizedSession)) :
    List (String × Option Int) :=
  M.map fun p => (p.1, s.resolveAccount sid p.2.externalUserId p.2.username)

section PutAll

variable {now : Int}

@[simp] theorem putAll_events (M : List (String × NormalizedSession)) :
    (s.putAll sid now M).events = s.events := by
  induction M generalizing s with
  | nil => rfl
  | cons p M ih => simp [putAll, ih]

@[simp] theorem putAll_history (M : List (String × NormalizedSession)) :
    (s.putAll sid now M).history = s.history := by
  induction M generalizing s with
  | nil => rfl
  | cons p M ih => simp [putAll, ih]

@[simp] theorem putAll_servers (M : List (String × NormalizedSession)) :
    (s.putAll sid now M).servers = s.servers := by
  induction M generalizing s with
  | nil => rfl
  | cons p M ih => simp [putAll, ih]

@[simp] theorem putAll_accounts (M : List (String × NormalizedSession)) :
    (s.putAll sid now M).accounts = s.accounts := by
  induction M generalizing s with
  | nil => rfl
  | cons p M ih => simp [putAll, ih]

theorem KeyedAt.putAll {M : List (String × NormalizedSession)} (hk : s.KeyedAt sid)
    (hM : PollMap sid M) : (s.putAll sid now M).KeyedAt sid := by
  induction M generalizing s with
  | nil => exact hk
  | cons p M ih => exact ih (hk.putLive (hM.server p List.mem_cons_self)) hM.tail

/-- A key the map lacks keeps its row. -/
theorem liveRow?_putAll_of_lookup_none {M : List (String × NormalizedSession)} (hk : s.KeyedAt sid)
    (hM : PollMap sid M) (h : M.lookup k = none) : (s.putAll sid now M).liveRow? sid k = s.liveRow? sid k := by
  induction M generalizing s with
  | nil => rfl
  | cons p M ih =>
    obtain ⟨k', x⟩ := p
    have hne : k ≠ k' := by
      intro hkk
      simp [hkk] at h
    have hx : x.serverId = sid := hM.server _ List.mem_cons_self
    have hkey : x.sessionKey = k' := hM.keyed _ List.mem_cons_self
    have hrest : M.lookup k = none := by simpa [List.lookup_cons, beq_false_of_ne hne] using h
    rw [putAll, ih (hk.putLive hx) hM.tail hrest, liveRow?_putLive_other hk hx (hkey ▸ hne)]

/-- The row a report of a key leaves, from the key's row before: that row refreshed, or a new
row with some id. -/
def reportedRow (before : Option LiveRow) (id : Nat) (x : NormalizedSession) (account : Option Int)
    (now : Int) : LiveRow :=
  match before with
  | some old => refreshRow old x account now
  | none => freshRow id x account now

@[simp] theorem reportedRow_state (before : Option LiveRow) (id : Nat) (x : NormalizedSession)
    (account : Option Int) (now : Int) : (reportedRow before id x account now).state = x.state := by
  cases before <;> rfl

/-- A key the map has gets the row its report leaves. -/
theorem liveRow?_putAll_of_lookup {M : List (String × NormalizedSession)} {x : NormalizedSession}
    (hk : s.KeyedAt sid) (hM : PollMap sid M) (h : M.lookup k = some x) :
    ∃ id, (s.putAll sid now M).liveRow? sid k =
      some (reportedRow (s.liveRow? sid k) id x (s.resolveAccount sid x.externalUserId x.username) now) := by
  induction M generalizing s with
  | nil => simp at h
  | cons p M ih =>
    obtain ⟨k', x'⟩ := p
    have hx : x'.serverId = sid := hM.server _ List.mem_cons_self
    have hkey : x'.sessionKey = k' := hM.keyed _ List.mem_cons_self
    by_cases hkk : k = k'
    · subst hkk
      have hxx : x' = x := by simpa [List.lookup_cons] using h
      subst hxx
      refine ⟨nextRowId (s.live.map (·.id)), ?_⟩
      rw [putAll, liveRow?_putAll_of_lookup_none (hk.putLive hx) hM.tail hM.not_mem_tail,
        ← hkey, liveRow?_putLive_self hx]
      rw [putRow, hx]
      cases s.liveRow? sid x'.sessionKey <;> rfl
    · have hrest : M.lookup k = some x := by simpa [List.lookup_cons, beq_false_of_ne hkk] using h
      obtain ⟨id, hid⟩ := ih (hk.putLive hx) hM.tail hrest
      refine ⟨id, ?_⟩
      rw [putAll, hid, liveRow?_putLive_other hk hx (hkey ▸ hkk),
        resolveAccount_congr putLive_accounts]

end PutAll

end Store

/-! ## The stages of a poll -/

variable {σ : Type}

theorem writeStore_exec {α : Type} (f : Store → Except AppError (α × Store)) (s : Store) (e : σ) :
    Op.exec (writeStore (m := Op σ) f).run s e =
      (match f s with
      | .ok (a, s') => (.ok a, s')
      | .error err => (.error err, s), e) := by
  simp only [writeStore, Op.exec_run_bind, Op.exec_run_get]
  rcases f s with err | ⟨a, s'⟩ <;> rfl

section Stages

variable {s : Store} {sid now : Int} {prov : ProviderKind} {M : List (String × NormalizedSession)}

/-- On a server that is there, writing the sessions of a map succeeds, with the accounts they
resolve to. -/
theorem writeSessions_exec (hsrv : (s.server? sid).isSome) (hM : ∀ p ∈ M, p.2.serverId = sid)
    (e : σ) :
    Op.exec (writeSessions (m := Op σ) sid now M).run s e =
      ((.ok (s.accountsOf sid M), s.putAll sid now M), e) := by
  induction M generalizing s with
  | nil => rfl
  | cons p M ih =>
    obtain ⟨k, x⟩ := p
    have hx : x.serverId = sid := hM _ List.mem_cons_self
    have hput : s.upsertLive x (s.resolveAccount sid x.externalUserId x.username) now =
        .ok (s.putLive x (s.resolveAccount sid x.externalUserId x.username) now) :=
      Store.upsertLive_eq_ok (hx ▸ hsrv) fun a ha => Store.hasAccount_of_resolveAccount ha
    have hsrv' : ((s.putLive x (s.resolveAccount sid x.externalUserId x.username) now).server?
        sid).isSome := by
      rw [Store.server?_congr Store.putLive_servers]
      exact hsrv
    simp only [writeSessions, Op.exec_run_bind, Op.exec_run_get, writeStore_exec, hput, Except.map]
    rw [ih hsrv' fun p hp => hM p (List.mem_cons_of_mem _ hp)]
    simp [Store.accountsOf, Store.putAll, Store.resolveAccount_congr Store.putLive_accounts]

/-- On a server that is there, logging transitions succeeds and appends, in order, the event of
each transition whose key the map has; nothing else changes. -/
theorem logTransitions_exec (prov : ProviderKind) (now : Int) (M : List (String × NormalizedSession))
    (accts : List (String × Option Int)) (hsrv : (s.server? sid).isSome) (T : List Transition)
    (e : σ) :
    ∃ s', Op.exec (logTransitions (m := Op σ) sid prov now M accts T).run s e = ((.ok (), s'), e) ∧
      s.Logs s' (T.filterMap fun t => (M.lookup t.sessionKey).map (transitionEvent sid prov now accts t)) ∧
      s' = { s with events := s'.events } := by
  induction T generalizing s with
  | nil => exact ⟨s, rfl, Store.Logs.refl rfl, rfl⟩
  | cons t T ih =>
    cases hx : M.lookup t.sessionKey with
    | none =>
      obtain ⟨s', hrun, hlog, hrest⟩ := ih hsrv
      refine ⟨s', ?_, by simpa [hx] using hlog, hrest⟩
      simp only [logTransitions, hx]
      exact hrun
    | some x =>
      have happ := Store.appendEvent_eq_ok (e := transitionEvent sid prov now accts t x) hsrv
      obtain ⟨s', hrun, hlog, hrest⟩ := ih (s := { s with events := s.events ++
        [{ transitionEvent sid prov now accts t x with id := nextRowId (s.events.map (·.id)) }] })
        hsrv
      refine ⟨s', ?_, ?_, hrest⟩
      · simp only [logTransitions, Op.exec_run_bind, hx, writeStore_exec, happ, Except.map]
        exact hrun
      · simpa [hx] using Store.logs_appendEvent.trans hlog

/-- On a server that is there, finishing distinct keys succeeds: each key with a row gets its
`stop` event and loses its row, and the count is the number of such keys. -/
theorem finishVanished_exec (prov : ProviderKind) (now : Int) (hk : s.KeyedAt sid)
    (hsrv : (s.server? sid).isSome) {V : List String} (hV : V.Nodup) (e : σ) :
    ∃ s', Op.exec (finishVanished (m := Op σ) sid prov now V).run s e =
        ((.ok (V.filter fun k => (s.liveRow? sid k).isSome).length, s'), e) ∧
      s.Logs s' (V.filterMap fun k => (s.liveRow? sid k).map fun row =>
        (s.stopEvent sid prov k now row).unstamped) ∧
      s'.KeyedAt sid ∧ (∀ k, s'.liveRow? sid k = if k ∈ V then none else s.liveRow? sid k) ∧
      s'.servers = s.servers ∧ s'.accounts = s.accounts := by
  induction V generalizing s with
  | nil => exact ⟨s, rfl, Store.Logs.refl rfl, hk, by simp, rfl, rfl⟩
  | cons k V ih =>
    have hkV : k ∉ V := (List.nodup_cons.mp hV).1
    cases hrow : s.liveRow? sid k with
    | none =>
      obtain ⟨s', hrun, hlog, hk', hrows, hsrvs, haccs⟩ := ih hk hsrv (List.nodup_cons.mp hV).2
      refine ⟨s', ?_, by simpa [hrow] using hlog, hk', fun k' => ?_, hsrvs, haccs⟩
      · simp only [finishVanished, Op.exec_run_bind, writeStore_exec, Store.finalize_of_none hrow,
          hrun]
        simp [hrow]
      · by_cases hkk : k' = k
        · subst hkk
          simp [hrows, hkV, hrow]
        · simp [hrows, hkk]
    | some row =>
      obtain ⟨fin, s₁, hfin, hlive, hev, hsrvs₁, haccs₁⟩ :=
        Store.finalize_of_some prov now hrow hsrv
      have hk₁ : s₁.KeyedAt sid := hk.sublist (hlive ▸ List.filter_sublist)
      have hsrv₁ : (s₁.server? sid).isSome := by
        rw [Store.server?_congr hsrvs₁]
        exact hsrv
      have hrows₁ := hk.liveRow?_of_delete hrow hlive
      obtain ⟨s', hrun, hlog, hk', hrows, hsrvs, haccs⟩ := ih hk₁ hsrv₁ (List.nodup_cons.mp hV).2
      have hsame : ∀ k' ∈ V, s₁.liveRow? sid k' = s.liveRow? sid k' := fun k' hk' => by
        have hne : k' ≠ k := fun h => hkV (h ▸ hk')
        rw [hrows₁, if_neg hne]
      have hcount : (V.filter fun k' => (s₁.liveRow? sid k').isSome) =
          V.filter fun k' => (s.liveRow? sid k').isSome :=
        List.filter_congr fun k' hk' => by rw [hsame k' hk']
      have hstops : (V.filterMap fun k' => (s₁.liveRow? sid k').map fun row =>
            (s₁.stopEvent sid prov k' now row).unstamped) =
          V.filterMap fun k' => (s.liveRow? sid k').map fun row =>
            (s.stopEvent sid prov k' now row).unstamped :=
        List.filterMap_congr fun k' hk' => by
          rw [hsame k' hk']
          rfl
      refine ⟨s', ?_, ?_, hk', fun k' => ?_, hsrvs.trans hsrvs₁, haccs.trans haccs₁⟩
      · simp only [finishVanished, Op.exec_run_bind, writeStore_exec, hfin, hrun, Op.exec_run_pure]
        simp [hcount, hrow, Nat.add_comm]
      · refine ((Store.Logs.single (e := s.stopEvent sid prov k now row) hev).trans hlog).congr ?_
        rw [hstops]
        simp [hrow, EventRow.unstamped]
      · rw [hrows, hrows₁]
        by_cases hkk : k' = k
        · simp [hkk]
        · simp [hkk]

end Stages

/-! ## A whole poll -/

namespace Store

variable {s : Store} {sid : Int}

theorem liveRow?_of_live {s' : Store} {k : String} (h : s'.live = s.live) :
    s'.liveRow? sid k = s.liveRow? sid k := by
  simp [liveRow?, h]

theorem KeyedAt.of_live {s' : Store} (hk : s.KeyedAt sid) (h : s'.live = s.live) : s'.KeyedAt sid :=
  hk.sublist (h ▸ List.Sublist.refl _)

theorem mem_liveOf {r : LiveRow} : r ∈ s.liveOf sid ↔ r ∈ s.live ∧ r.serverId = sid := by
  simp [liveOf, List.mem_mergeSort]

theorem previousStates_keys_nodup (hk : s.KeyedAt sid) : ((s.previousStates sid).map (·.1)).Nodup := by
  have hperm : (s.liveOf sid).Perm (s.live.filter (·.serverId == sid)) := List.mergeSort_perm _ _
  simpa [previousStates, List.map_map, Function.comp_def] using (hperm.map _).nodup_iff.mpr hk.keys_nodup

/-- A key of the previous states is a key with a row. -/
theorem mem_previousStates_keys {k : String} :
    k ∈ (s.previousStates sid).map (·.1) ↔ (s.liveRow? sid k).isSome := by
  constructor
  · intro hk
    obtain ⟨r, hr, rfl⟩ : ∃ r ∈ s.liveOf sid, r.sessionKey = k := by
      simpa [previousStates] using hk
    cases hrow : s.liveRow? sid r.sessionKey with
    | none => exact absurd rfl (liveRow?_eq_none_iff.mp hrow r (mem_liveOf.mp hr).1 (mem_liveOf.mp hr).2)
    | some _ => rfl
  · intro hk
    obtain ⟨r, hr⟩ := Option.isSome_iff_exists.mp hk
    obtain ⟨hmem, hs, rfl⟩ := mem_of_liveRow? hr
    simpa [previousStates] using ⟨r, mem_liveOf.mpr ⟨hmem, hs⟩, rfl⟩

/-- The previous state of a key is the state of its row. -/
theorem previousStates_get? (hk : s.KeyedAt sid) (k : String) :
    (s.previousStates sid).get? k = (s.liveRow? sid k).map (·.state) := by
  cases hrow : s.liveRow? sid k with
  | none =>
    refine PreviousStates.get?_eq_none_iff.mpr fun hmem => ?_
    rw [mem_previousStates_keys, hrow] at hmem
    exact absurd hmem (by simp)
  | some r =>
    obtain ⟨hmem, hs, hkey⟩ := mem_of_liveRow? hrow
    refine (PreviousStates.get?_eq_some_iff (previousStates_keys_nodup hk)).mpr ?_
    simpa [previousStates] using ⟨r, mem_liveOf.mpr ⟨hmem, hs⟩, hkey, rfl⟩

end Store

/-- The outcome a successful poll of server `sid` that saw the sessions `X` reports. -/
def pollOutcome (s : Store) (sid : Int) (X : List NormalizedSession) : CollectOutcome :=
  let P := s.previousStates sid
  let M := sessionMap X
  { serverId := sid, sessionsSeen := M.length
    events := (transitions P M).length + (vanishedKeys P M).length
    stopped := (vanishedKeys P M).length }

/-- The events a successful poll of server `sid` at `now` that saw the sessions `X` logs, before
the store gives them ids: one per transition, then a `stop` per vanished key. -/
def pollEvents (s : Store) (sid : Int) (prov : ProviderKind) (now : Int)
    (X : List NormalizedSession) : List EventRow :=
  let P := s.previousStates sid
  let M := sessionMap X
  (transitions P M).filterMap (fun t =>
      (M.lookup t.sessionKey).map (transitionEvent sid prov now (s.accountsOf sid M) t)) ++
    (vanishedKeys P M).filterMap fun k =>
      (s.liveRow? sid k).map fun row => (s.stopEvent sid prov k now row).unstamped

/-- What a successful poll of server `sid` at `now` that saw the sessions `X` leaves: each key
seen has the row its last report leaves, no other key of the server has a row, the events are
logged, and servers and accounts are as they were. -/
structure PollEffect (s s' : Store) (sid : Int) (prov : ProviderKind) (now : Int)
    (X : List NormalizedSession) : Prop where
  keyed : s'.KeyedAt sid
  seen : ∀ k x, (sessionMap X).lookup k = some x → ∃ id, s'.liveRow? sid k =
    some (Store.reportedRow (s.liveRow? sid k) id x (s.resolveAccount sid x.externalUserId x.username)
      now)
  gone : ∀ k, (sessionMap X).lookup k = none → s'.liveRow? sid k = none
  logs : s.Logs s' (pollEvents s sid prov now X)
  servers : s'.servers = s.servers
  accounts : s'.accounts = s.accounts
  history : vanishedKeys (s.previousStates sid) (sessionMap X) = [] → s'.history = s.history

variable {F : ServerConfig → Except ProviderError (Adapter (Op σ))} {server : ServerRow} {now : Int}
  {s : Store} {e e₁ : σ} {A : Adapter (Op σ)} {X : List NormalizedSession}

theorem pollAndPersist_exec_ok (hk : s.KeyedAt server.id) (hsrv : (s.server? server.id).isSome)
    (hF : F server.config = .ok A) (hlist : Op.exec (A.listSessions now) s e = ((.ok X, s), e₁))
    (hX : ∀ x ∈ X, x.serverId = server.id) :
    ∃ s', Op.exec (pollAndPersist F server now).run s e = ((.ok (pollOutcome s server.id X), s'), e₁) ∧
      PollEffect s s' server.id server.config.provider now X := by
  have hM : Store.PollMap server.id (sessionMap X) := Store.pollMap_sessionMap hX
  simp only [pollAndPersist, Op.exec_run_bind, hF, Op.exec_run_pure, Op.exec_run_get,
    Op.exec_run_lift, hlist]
  rw [writeSessions_exec hsrv hM.server]
  generalize hP : s.previousStates server.id = P
  generalize hMX : sessionMap X = M at hM
  have hV : (vanishedKeys P M).Nodup := (vanishedKeys_ascending P M).imp ne_of_lt
  have hsrv₁ : ((s.putAll server.id now M).server? server.id).isSome := by
    rw [Store.server?_congr (Store.putAll_servers M)]
    exact hsrv
  obtain ⟨s₂, hrun₂, hlog₂, hrest₂⟩ := logTransitions_exec server.config.provider now M
    (s.accountsOf server.id M) hsrv₁ (transitions P M) e₁
  have hlive₂ : s₂.live = (s.putAll server.id now M).live := by rw [hrest₂]
  have hk₂ : s₂.KeyedAt server.id := ((hk.putAll hM).of_live hlive₂)
  have hsrv₂ : (s₂.server? server.id).isSome := by
    rw [hrest₂]
    exact hsrv₁
  obtain ⟨s₃, hrun₃, hlog₃, hk₃, hrows₃, hsrvs₃, haccs₃⟩ :=
    finishVanished_exec server.config.provider now hk₂ hsrv₂ hV e₁
  have hrow₂ : ∀ k, M.lookup k = none → s₂.liveRow? server.id k = s.liveRow? server.id k :=
    fun k hnone => by rw [Store.liveRow?_of_live hlive₂, Store.liveRow?_putAll_of_lookup_none hk hM hnone]
  have hvanished : ∀ k ∈ vanishedKeys P M, s₂.liveRow? server.id k = s.liveRow? server.id k ∧
      (s.liveRow? server.id k).isSome := fun k hkV => by
    obtain ⟨hprev, hnone⟩ := mem_vanishedKeys.mp hkV
    rw [← hP, Store.mem_previousStates_keys] at hprev
    exact ⟨hrow₂ k hnone, hprev⟩
  have hstops : ((vanishedKeys P M).filterMap fun k => (s₂.liveRow? server.id k).map fun row =>
        (s₂.stopEvent server.id server.config.provider k now row).unstamped) =
      (vanishedKeys P M).filterMap fun k => (s.liveRow? server.id k).map fun row =>
        (s.stopEvent server.id server.config.provider k now row).unstamped :=
    List.filterMap_congr fun k hkV => by
      rw [(hvanished k hkV).1]
      rfl
  refine ⟨s₃, ?_, hk₃, fun k x hx => ?_, fun k hnone => ?_, ?_, ?_, ?_, fun hV0 => ?_⟩
  · have hall : ∀ k ∈ vanishedKeys P M, (s₂.liveRow? server.id k).isSome := fun k hkV => by
      rw [(hvanished k hkV).1]
      exact (hvanished k hkV).2
    simp only [hrun₂, hrun₃, List.filter_eq_self.mpr hall]
    simp [pollOutcome, hP, hMX]
  · rw [hMX] at hx
    have hkV : k ∉ vanishedKeys P M := fun h => by
      rw [(mem_vanishedKeys.mp h).2] at hx
      cases hx
    rw [hrows₃, if_neg hkV, Store.liveRow?_of_live hlive₂]
    exact Store.liveRow?_putAll_of_lookup hk hM hx
  · rw [hMX] at hnone
    rw [hrows₃]
    split_ifs with hkV
    · rfl
    · rw [hrow₂ k hnone]
      cases hrow : s.liveRow? server.id k with
      | none => rfl
      | some r =>
        have hprev : k ∈ P.map (·.1) := by
          rw [← hP, Store.mem_previousStates_keys, hrow]
          rfl
        exact absurd (mem_vanishedKeys.mpr ⟨hprev, hnone⟩) hkV
  · have h := ((Store.Logs.refl (Store.putAll_events M)).trans hlog₂).trans hlog₃
    rw [List.nil_append, hstops] at h
    unfold pollEvents
    rw [hP, hMX]
    exact h
  · rw [hsrvs₃, hrest₂]
    exact Store.putAll_servers M
  · rw [haccs₃, hrest₂]
    exact Store.putAll_accounts M
  · rw [hP, hMX] at hV0
    rw [hV0] at hrun₃
    have h₃ : s₂ = s₃ := congrArg (fun r => r.1.2) hrun₃
    rw [← h₃, hrest₂]
    exact Store.putAll_history M

/-- After a successful poll each key of the server has the state of its last report, and no row
when it was not reported. -/
theorem PollEffect.state {s s' : Store} {sid : Int} {prov : ProviderKind} {now : Int}
    {X : List NormalizedSession} (h : PollEffect s s' sid prov now X) (k : String) :
    (s'.liveRow? sid k).map (·.state) = ((X.filter (·.sessionKey == k)).getLast?).map (·.state) := by
  rw [← lookup_sessionMap]
  cases hx : (sessionMap X).lookup k with
  | none => rw [h.gone k hx, Option.map_none, Option.map_none]
  | some x =>
    obtain ⟨id, hrow⟩ := h.seen k x hx
    rw [hrow, Option.map_some, Option.map_some, Store.reportedRow_state]

/-- At a store and a state of the servers, every adapter the factory builds for the server lists
sessions of that server only, and leaves the store alone: the adapters of media servers hold no
database. -/
def ListsOwnSessions (F : ServerConfig → Except ProviderError (Adapter (Op σ))) (server : ServerRow)
    (now : Int) (s : Store) (e : σ) : Prop :=
  ∀ A, F server.config = .ok A →
    (Op.exec (A.listSessions now) s e).1.2 = s ∧
      ∀ X, (Op.exec (A.listSessions now) s e).1.1 = .ok X → ∀ x ∈ X, x.serverId = server.id

/-- A poll of `server` at `now` fails with `err` before any session is returned: the factory
cannot build an adapter for the server, or the adapter it builds fails to list the sessions,
leaving the store as it was (media servers hold no part of the store). -/
def FailsBeforeListing (F : ServerConfig → Except ProviderError (Adapter (Op σ)))
    (server : ServerRow) (now : Int) (s : Store) (e : σ) (err : ProviderError) : Prop :=
  F server.config = .error err ∨
    ∃ A e₁, F server.config = .ok A ∧ Op.exec (A.listSessions now) s e = ((.error err, s), e₁)

/-- A poll that fails before the listing returns has written nothing. -/
theorem pollAndPersist_exec_of_fails {err : ProviderError}
    (h : FailsBeforeListing F server now s e err) :
    ∃ e₁, Op.exec (pollAndPersist F server now).run s e = ((.error (.provider err), s), e₁) := by
  rcases h with hF | ⟨A, e₁, hF, hlist⟩
  · exact ⟨e, by simp [pollAndPersist, hF]⟩
  · refine ⟨e₁, ?_⟩
    simp only [pollAndPersist, Op.exec_run_bind, hF, Op.exec_run_pure, Op.exec_run_get,
      Op.exec_run_lift, hlist]
    rfl

/-- A poll of a server that is there either fails before writing anything, or succeeds with
the effect of what it saw. -/
theorem pollAndPersist_exec_cases (hk : s.KeyedAt server.id) (hsrv : (s.server? server.id).isSome)
    (hlists : ListsOwnSessions F server now s e) :
    (∃ err e', Op.exec (pollAndPersist F server now).run s e = ((.error err, s), e')) ∨
      ∃ X s' e', Op.exec (pollAndPersist F server now).run s e =
          ((.ok (pollOutcome s server.id X), s'), e') ∧
        PollEffect s s' server.id server.config.provider now X := by
  cases hF : F server.config with
  | error err =>
    obtain ⟨e₁, hrun⟩ := pollAndPersist_exec_of_fails
      (.inl hF : FailsBeforeListing F server now s e err)
    exact .inl ⟨.provider err, e₁, hrun⟩
  | ok A =>
    obtain ⟨hsame, hown⟩ := hlists A hF
    generalize hlist : Op.exec (A.listSessions now) s e = listed at hsame hown
    rcases listed with ⟨⟨err | X, s₁⟩, e₁⟩
    · have hs₁ : s₁ = s := hsame
      rw [hs₁] at hlist
      obtain ⟨e₂, hrun⟩ := pollAndPersist_exec_of_fails
        (.inr ⟨A, e₁, hF, hlist⟩ : FailsBeforeListing F server now s e err)
      exact .inl ⟨.provider err, e₂, hrun⟩
    · right
      have hs₁ : s₁ = s := hsame
      subst hs₁
      obtain ⟨s', hrun, heff⟩ := pollAndPersist_exec_ok hk hsrv hF hlist (hown X rfl)
      exact ⟨X, s', e₁, hrun, heff⟩

theorem collectServer_exec (config : CollectorConfig) (s : Store) (e : σ) :
    Op.exec (collectServer F config server now) s e =
      match Op.exec (pollAndPersist F server now).run s e with
      | ((.ok o, s₁), e₁) => ((.ok o, s₁.updateStatus server.id (some .up) now), e₁)
      | ((.error err, s₁), e₁) =>
        ((.error err, s₁.updateStatus server.id
          (some (if s₁.hasRecentLive server.id (clampI64 (now - config.graceWindowMs)) then .up
            else statusForFailure (failureClass err))) now), e₁) := by
  simp only [collectServer, Op.exec_bind]
  rcases Op.exec (pollAndPersist F server now).run s e with ⟨⟨err | o, s₁⟩, e₁⟩ <;> rfl

/-- Recording a status changes that server's status and check time, and nothing else. -/
theorem Store.server?_updateStatus (s : Store) (id : Int) (status : Option ServerStatus) (now : Int) :
    (s.updateStatus id status now).server? id =
      (s.server? id).map fun row => { row with status := status.getD row.status, lastChecked := some now } := by
  have hkeep : ((fun row : ServerRow => row.id == id) ∘ fun row =>
      if row.id == id then { row with status := status.getD row.status, lastChecked := some now }
      else row) = fun row => row.id == id := by
    funext row
    by_cases h : row.id = id <;> simp [h]
  simp only [server?, updateStatus, List.find?_map, hkeep]
  cases hfound : s.servers.find? (·.id == id) with
  | none => rfl
  | some row =>
    have hid : row.id = id := by simpa using List.find?_some hfound
    simp [hid]

end StreamWarden
