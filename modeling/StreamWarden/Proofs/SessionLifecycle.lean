import StreamWarden.Proofs.PollRuns
import StreamWarden.Proofs.Lifecycle
import StreamWarden.Media.Scripted

/-!
# Session lifecycles over runs of the collector

Over any run of polls of one server at times that never go back, from a store with no row and no
event of that server, the log of every session key is a lifecycle: in time order, its kinds
form a word of `(start change* stop)* (start change*)?`, each change goes from the state the
event before it went to, and the key has a row exactly while its last session is open, in the
state its last event went to.

One poll keeps this because of what it logs for a key: a start when the key is new, a change
when its state differs from its row's, a stop when its row's key was not reported, and nothing
else; and because the rows it leaves are in the reported states.
-/

namespace StreamWarden

/-! ## What a poll logs for one key -/

/-- The kind and payload of an event: what the lifecycle of its key reads. -/
def EventRow.mark (e : EventRow) : LifecycleEvent × Option Json := (e.eventType, e.payloadJson)

theorem transitionKind_isChange {a b : PlaybackState} {ev : LifecycleEvent}
    (h : transitionKind a b = some ev) : ev.isChange := by
  unfold transitionKind at h
  split_ifs at h
  split at h <;> cases h <;> rfl

theorem Json.lookup_insertMember (key : String) (v : Json) (l : List (String × Json)) (k : String) :
    (Json.insertMember key v l).lookup k = if k = key then some v else l.lookup k := by
  induction l with
  | nil =>
    by_cases h : k = key <;>
      simp [Json.insertMember, List.lookup_cons, List.lookup_nil, h, beq_false_of_ne]
  | cons hd tl ih =>
    obtain ⟨k', v'⟩ := hd
    rw [Json.insertMember]
    split_ifs with hlt heq <;> grind

theorem payloadField_eventPayload_to (t : Transition) (x : NormalizedSession) :
    payloadField (some (eventPayload t x)) "to" = some (.str t.toState.name) := by
  simp [payloadField, eventPayload, Json.object, Json.get?, Json.lookup_insertMember]

theorem payloadField_eventPayload_from (t : Transition) (x : NormalizedSession) :
    payloadField (some (eventPayload t x)) "from" = some (.optStr (t.fromState.map (·.name))) := by
  simp [payloadField, eventPayload, Json.object, Json.get?, Json.lookup_insertMember]

/-- Filtering the images of a partial map by a key that each image shares with its source. -/
theorem filterMap_filter_of_key {α β : Type} (l : List α) (f : α → Option β) (p : α → Bool)
    (q : β → Bool) (h : ∀ a b, f a = some b → q b = p a) :
    (l.filterMap f).filter q = (l.filter p).filterMap f := by
  rw [List.filter_filterMap, List.filterMap_filter]
  refine List.filterMap_congr fun a _ => ?_
  cases hfa : f a with
  | none => simp
  | some b => by_cases hp : p a <;> simp [h a b hfa, hp]

namespace Store

variable {s s' : Store} {sid : Int} {prov : ProviderKind} {now : Int} {X : List NormalizedSession}

/-- The marks of the log of a session key. -/
def trail (s : Store) (sid : Int) (k : String) : List (LifecycleEvent × Option Json) :=
  (s.eventsOf sid k).map EventRow.mark

theorem Logs.trail {es : List EventRow} (h : s.Logs s' es) (k : String) :
    s'.trail sid k = s.trail sid k ++
      (es.filter fun e => e.serverId == sid && e.sessionKey == k).map EventRow.mark := by
  obtain ⟨L, hev, hmap, -, -⟩ := h
  have hunstamped : ∀ l : List EventRow,
      (l.filter fun e => e.serverId == sid && e.sessionKey == k).map EventRow.mark =
        ((l.map EventRow.unstamped).filter fun e => e.serverId == sid && e.sessionKey == k).map
          EventRow.mark := fun l => by
    simp [List.filter_map, Function.comp_def, EventRow.unstamped, EventRow.mark]
  rw [Store.trail, Store.trail, eventsOf_of_events hev, List.map_append, hunstamped L, hmap,
    ← hunstamped es]

/-- For one key, a poll logs the mark of its transition when it was reported, and the `stop` of
its row when it was not. -/
theorem pollEvents_marks (k : String) :
    ((pollEvents s sid prov now X).filter fun e => e.serverId == sid && e.sessionKey == k).map
        EventRow.mark =
      match (sessionMap X).lookup k with
      | some x => ((transitionOf (s.previousStates sid) k x).map
          fun t => (t.event, some (eventPayload t x))).toList
      | none => ((s.liveRow? sid k).map fun row => (LifecycleEvent.stop, some (stopPayload row))).toList := by
  have hM := sessionMap_ascending X
  unfold pollEvents
  rw [List.filter_append, List.map_append,
    filterMap_filter_of_key _ _ (fun t => t.sessionKey == k) _ fun t e h => by
      obtain ⟨x, -, rfl⟩ := Option.map_eq_some_iff.mp h
      simp [transitionEvent],
    filterMap_filter_of_key _ _ (fun k' => k' == k) _ fun k' e h => by
      obtain ⟨row, -, rfl⟩ := Option.map_eq_some_iff.mp h
      simp [stopEvent, EventRow.unstamped],
    transitions_filter_key hM]
  have hvanished : (vanishedKeys (s.previousStates sid) (sessionMap X)).filter (· == k) =
      if (sessionMap X).lookup k = none ∧ (s.liveRow? sid k).isSome then [k] else [] := by
    have hnodup := (vanishedKeys_ascending (s.previousStates sid) (sessionMap X)).imp ne_of_lt
    split_ifs with hin
    · have hmem : k ∈ vanishedKeys (s.previousStates sid) (sessionMap X) :=
        mem_vanishedKeys.mpr ⟨mem_previousStates_keys.mpr hin.2, hin.1⟩
      rw [List.filter_beq, List.count_eq_one_of_mem hnodup hmem, List.replicate_one]
    · refine List.filter_eq_nil_iff.mpr fun k' hk' hkk => ?_
      rw [beq_iff_eq] at hkk
      subst hkk
      exact hin (by simpa [mem_previousStates_keys] using (mem_vanishedKeys.mp hk').symm)
  rw [hvanished]
  cases hx : (sessionMap X).lookup k with
  | some x =>
    cases ht : transitionOf (s.previousStates sid) k x with
    | none => simp [ht]
    | some t =>
      have hkey : t.sessionKey = k := (transitionOf_eq_some ht).1
      simp [ht, hkey, hx, transitionEvent, EventRow.mark]
  | none =>
    cases hrow : s.liveRow? sid k with
    | none => simp
    | some row => simp [hrow, stopEvent, EventRow.unstamped, EventRow.mark]

/-- After a poll, the log of a key is still a lifecycle whose open state is its row's: a new
key starts, a key in another state changes, a key not reported stops, and the log of a key
reported in its row's state is left as it was. -/
theorem lifecycle_after_poll (hk : s.KeyedAt sid) {k : String}
    (hold : Lifecycle (s.trail sid k) ((s.liveRow? sid k).map (·.state)))
    (heff : PollEffect s s' sid prov now X) :
    Lifecycle (s'.trail sid k) ((s'.liveRow? sid k).map (·.state)) := by
  rw [heff.logs.trail k, pollEvents_marks k, heff.state k, ← lookup_sessionMap]
  have hprev := previousStates_get? hk k
  cases hx : (sessionMap X).lookup k with
  | none =>
    cases hrow : s.liveRow? sid k with
    | none =>
      rw [hrow] at hold
      simpa using hold
    | some row =>
      rw [hrow] at hold
      exact .stop hold
  | some x =>
    unfold transitionOf
    rw [hprev]
    cases hrow : s.liveRow? sid k with
    | none =>
      rw [hrow] at hold
      exact .start hold (payloadField_eventPayload_to _ _)
    | some row =>
      rw [hrow] at hold
      cases hkind : transitionKind row.state x.state with
      | none =>
        have hsame : row.state = x.state := by
          by_contra hne
          have := (transitionKind_isSome row.state x.state).mpr hne
          rw [hkind] at this
          exact absurd this (by simp)
        simp only [Option.map_some, hkind, Option.map_none, Option.toList_none, List.append_nil]
        rw [← hsame]
        exact hold
      | some ev =>
        simp only [Option.map_some, hkind, Option.toList_some]
        refine .change hold (transitionKind_isChange hkind) ?_ (payloadField_eventPayload_to _ _)
        rw [payloadField_eventPayload_from]
        rfl

/-! ## What runs of polls keep -/

/-- What polls of server `sid` keep, `T` being the time of the last one: the live table keeps its
keys, the server is there, the log of each key is a lifecycle whose open state is the state of
the key's row, and the server's log is in time order with ids rising, nothing in it later than
`T`. -/
structure LogsLifecycles (s : Store) (sid : Int) (T : Int) : Prop where
  keyed : s.KeyedAt sid
  server : (s.server? sid).isSome
  lifecycle : ∀ k, Lifecycle (s.trail sid k) ((s.liveRow? sid k).map (·.state))
  sorted : (s.events.filter (·.serverId == sid)).Pairwise fun a b => a.ts ≤ b.ts ∧ a.id < b.id
  upTo : ∀ e ∈ s.events, e.serverId = sid → e.ts ≤ T

/-- A store with no row and no event of the server, whose row is there. -/
theorem logsLifecycles_fresh (hsrv : (s.server? sid).isSome) (hlive : ∀ r ∈ s.live, r.serverId ≠ sid)
    (hevents : ∀ e ∈ s.events, e.serverId ≠ sid) (T : Int) : s.LogsLifecycles sid T where
  keyed := by
    refine ⟨?_, fun r hr hs => absurd hs (hlive r hr)⟩
    rw [List.filter_eq_nil_iff.mpr fun r hr => by simpa using hlive r hr]
    exact List.nodup_nil
  server := hsrv
  lifecycle k := by
    have hnone : s.liveRow? sid k = none :=
      liveRow?_eq_none_iff.mpr fun r hr hs => absurd hs (hlive r hr)
    have htrail : s.trail sid k = [] := by
      rw [trail, eventsOf, List.filter_eq_nil_iff.mpr fun e he => by simp [hevents e he]]
      rfl
    rw [hnone, htrail]
    exact .nil
  sorted := by
    rw [List.filter_eq_nil_iff.mpr fun e he => by simpa using hevents e he]
    exact .nil
  upTo e he hs := absurd hs (hevents e he)

variable {T : Int}

theorem LogsLifecycles.mono (h : s.LogsLifecycles sid T) {T' : Int} (hT : T ≤ T') :
    s.LogsLifecycles sid T' :=
  { h with upTo := fun e he hs => (h.upTo e he hs).trans hT }

theorem LogsLifecycles.updateStatus (h : s.LogsLifecycles sid T) (status : Option ServerStatus)
    (checkedAt : Int) : (s.updateStatus sid status checkedAt).LogsLifecycles sid T where
  keyed := h.keyed.of_live rfl
  server := by
    rw [server?_updateStatus]
    simpa using h.server
  lifecycle := h.lifecycle
  sorted := h.sorted
  upTo := h.upTo

/-- Events logged at `now`, after a log in time order up to `T ≤ now`, keep it in time order with
ids rising. -/
theorem Logs.ordered {es : List EventRow} (h : s.Logs s' es) (hts : ∀ e ∈ es, e.ts = now)
    (hsorted : (s.events.filter (·.serverId == sid)).Pairwise fun a b => a.ts ≤ b.ts ∧ a.id < b.id)
    (hup : ∀ e ∈ s.events, e.serverId = sid → e.ts ≤ T) (hT : T ≤ now) :
    (s'.events.filter (·.serverId == sid)).Pairwise (fun a b => a.ts ≤ b.ts ∧ a.id < b.id) ∧
      ∀ e ∈ s'.events, e.serverId = sid → e.ts ≤ now := by
  obtain ⟨L, hev, hmap, hpw, hnew⟩ := h
  have hnow : ∀ b ∈ L, b.ts = now := fun b hb => by
    obtain ⟨e, he, heq⟩ := List.mem_map.mp (hmap ▸ List.mem_map_of_mem hb :
      b.unstamped ∈ es.map EventRow.unstamped)
    rw [← hts e he]
    exact (congrArg EventRow.ts heq).symm
  rw [hev]
  refine ⟨?_, fun e he hs => ?_⟩
  · rw [List.filter_append, List.pairwise_append]
    refine ⟨hsorted, (hpw.sublist List.filter_sublist).imp_of_mem fun ha hb hab => ?_, ?_⟩
    · exact ⟨by rw [hnow _ (List.mem_of_mem_filter ha), hnow _ (List.mem_of_mem_filter hb)], hab⟩
    · intro a ha b hb
      have hb' := List.mem_of_mem_filter hb
      refine ⟨?_, hnew a (List.mem_of_mem_filter ha) b hb'⟩
      rw [hnow b hb']
      exact (hup a (List.mem_of_mem_filter ha) (by simpa using (List.mem_filter.mp ha).2)).trans hT
  · rcases List.mem_append.mp he with he | he
    · exact (hup e he hs).trans hT
    · exact (hnow e he).le

theorem pollEvents_ts {e : EventRow} (he : e ∈ pollEvents s sid prov now X) : e.ts = now := by
  simp only [pollEvents, List.mem_append, List.mem_filterMap, Option.map_eq_some_iff] at he
  rcases he with ⟨t, -, x, -, rfl⟩ | ⟨k, -, row, -, rfl⟩
  · rfl
  · rfl

/-- One successful poll at `now` keeps what polls keep. -/
theorem LogsLifecycles.poll (h : s.LogsLifecycles sid T) (heff : PollEffect s s' sid prov now X)
    (hT : T ≤ now) : s'.LogsLifecycles sid now := by
  obtain ⟨hsorted, hup⟩ := heff.logs.ordered (fun _ he => pollEvents_ts he) h.sorted h.upTo hT
  have hsrv : (s'.server? sid).isSome := by
    rw [server?_congr heff.servers]
    exact h.server
  exact ⟨heff.keyed, hsrv, fun k => lifecycle_after_poll h.keyed (h.lifecycle k) heff, hsorted, hup⟩

end Store

/-! ## Runs of polls -/

variable {σ : Type} {F : ServerConfig → Except ProviderError (Adapter (Op σ))}
  {config : CollectorConfig} {server : ServerRow}

/-- One poll at `now`, failing or not, keeps what polls keep. -/
theorem Store.LogsLifecycles.collectServer {s : Store} {e : σ} {T now : Int}
    (h : s.LogsLifecycles server.id T) (hT : T ≤ now) (hlists : ListsOwnSessions F server now s e) :
    (Op.exec (collectServer F config server now) s e).1.2.LogsLifecycles server.id now := by
  rw [collectServer_exec]
  rcases pollAndPersist_exec_cases h.keyed h.server hlists with
    ⟨err, e', hrun⟩ | ⟨X, s', e', hrun, heff⟩
  · rw [hrun]
    exact (h.mono hT).updateStatus _ _
  · rw [hrun]
    exact (h.poll heff hT).updateStatus _ _

/-- Runs of the collector on one server: it is polled at each listed time, its adapter listing
sessions of that server only and leaving the store alone. Nothing else runs; in particular
retention does not purge the log. -/
inductive CollectorRun (F : ServerConfig → Except ProviderError (Adapter (Op σ)))
    (config : CollectorConfig) (server : ServerRow) : List Int → Store → σ → Store → σ → Prop
  | stop (s : Store) (e : σ) : CollectorRun F config server [] s e s e
  | poll {times : List Int} {s : Store} {e : σ} {s' : Store} {e' : σ} (now : Int) :
      ListsOwnSessions F server now s e →
      CollectorRun F config server times (Op.exec (collectServer F config server now) s e).1.2
        (Op.exec (collectServer F config server now) s e).2 s' e' →
      CollectorRun F config server (now :: times) s e s' e'

/-- Over a run at times that never go back, after a last time `T`, what polls keep is kept. -/
theorem CollectorRun.logsLifecycles {times : List Int} {s s' : Store} {e e' : σ} {T : Int}
    (hrun : CollectorRun F config server times s e s' e') (h : s.LogsLifecycles server.id T)
    (htimes : (T :: times).Pairwise (· ≤ ·)) : ∃ T', s'.LogsLifecycles server.id T' := by
  induction hrun generalizing T with
  | stop => exact ⟨T, h⟩
  | poll now hlists _ ih =>
    have hT : T ≤ now := List.rel_of_pairwise_cons htimes List.mem_cons_self
    exact ih (h.collectServer hT hlists) htimes.of_cons

/-- Lifecycles over runs of the collector, from a store with the server but none of its sessions or
events, polled at times that never go back: each key's log, in time then id order, is a word of
`(start change* stop)* (start change*)?`, the key has a row exactly when the word is open, and
each change and the row continue the state the previous event went to. -/
theorem collector_logs_follow_lifecycles {times : List Int} {s s' : Store} {e e' : σ}
    (hrun : CollectorRun F config server times s e s' e') (hsrv : (s.server? server.id).isSome)
    (hlive : ∀ r ∈ s.live, r.serverId ≠ server.id) (hevents : ∀ ev ∈ s.events, ev.serverId ≠ server.id)
    (htimes : times.Pairwise (· ≤ ·)) (k : String) :
    let E := s'.eventsOf server.id k
    E.Pairwise (fun a b => a.ts ≤ b.ts ∧ a.id < b.id) ∧
      E.map (·.eventType) ∈ lifecycleWords.matches' ∧
      ((s'.liveRow? server.id k).isSome ↔ E ≠ [] ∧ E.getLast?.map (·.eventType) ≠ some .stop) ∧
      E.IsChain (fun a b => b.eventType.isChange →
        payloadField b.payloadJson "from" = payloadField a.payloadJson "to") ∧
      ∀ r, s'.liveRow? server.id k = some r →
        E.getLast?.bind (fun ev => payloadField ev.payloadJson "to") = some (.str r.state.name) := by
  intro E
  have hstart : (times.headD 0 :: times).Pairwise (· ≤ ·) := by
    cases times with
    | nil => exact List.pairwise_singleton _ _
    | cons t ts =>
      refine List.Pairwise.cons (fun u hu => ?_) htimes
      rcases List.mem_cons.mp hu with rfl | hu
      · exact le_refl _
      · exact List.rel_of_pairwise_cons htimes hu
  obtain ⟨T', hinv⟩ := hrun.logsLifecycles
    (Store.logsLifecycles_fresh hsrv hlive hevents (times.headD 0)) hstart
  have hL : Lifecycle (E.map EventRow.mark) ((s'.liveRow? server.id k).map (·.state)) :=
    hinv.lifecycle k
  have hkinds : (E.map EventRow.mark).map (·.1) = E.map (·.eventType) := by
    rw [List.map_map]
    rfl
  refine ⟨?_, hkinds ▸ hL.kinds_mem_words, ?_, ?_, fun r hr => ?_⟩
  · have hsub : E.Sublist (s'.events.filter (·.serverId == server.id)) := by
      simp only [E, Store.eventsOf, ← List.filter_filter]
      exact List.filter_sublist.filter _
    exact hinv.sorted.sublist hsub
  · have h := hL.isSome_iff
    rw [Option.isSome_map, ne_eq, List.map_eq_nil_iff, List.getLast?_map, Option.map_map] at h
    exact h
  · exact (List.isChain_map EventRow.mark).mp hL.chain
  · have h := hL.last_to r.state (by rw [hr]; rfl)
    rw [List.getLast?_map, Option.bind_map] at h
    exact h

/-- A scripted server lists what its script says, without touching the store or the stage. -/
theorem scriptedAdapter_listSessions_exec (cfg : ServerConfig) (now : Int) (s : Store) (e : Stage) :
    Op.exec ((scriptedAdapter cfg).listSessions now) s e =
      ((match e.scripts.lookup cfg.id with
        | some (.sessions xs) => .ok xs
        | some (.failure err) => .error err
        | none => .ok [], s), e) := by
  have hget : (StateT.get : StateT Stage Id Stage).run e = pure (e, e) := rfl
  rcases h : e.scripts.lookup cfg.id with _ | ⟨xs | err⟩ <;>
    simp [Op.exec, scriptedAdapter, getThe, MonadStateOf.get, liftM, monadLift,
      MonadLift.monadLift, hget, h] <;> rfl

/-- A scripted server whose script lists sessions of that server lists its own sessions. -/
theorem scripted_listsOwnSessions {server : ServerRow} {now : Int} {s : Store} {e : Stage}
    (h : ∀ xs, e.scripts.lookup server.id = some (.sessions xs) → ∀ x ∈ xs, x.serverId = server.id) :
    ListsOwnSessions scriptedFactory server now s e := by
  intro A hA
  rw [scriptedFactory, Except.ok.injEq] at hA
  subst hA
  have hid : server.config.id = server.id := rfl
  rw [scriptedAdapter_listSessions_exec, hid]
  refine ⟨rfl, fun X hX => ?_⟩
  cases hscript : e.scripts.lookup server.id with
  | none =>
    rw [hscript] at hX
    cases hX
    exact fun _ h => nomatch h
  | some script =>
    cases script with
    | sessions xs =>
      rw [hscript] at hX
      cases hX
      exact h _ hscript
    | failure err =>
      rw [hscript] at hX
      cases hX

/-- The rehearsal of a server polled twice, a minute apart, its scripted adapter listing one
playing session. -/
theorem rehearsal_logs_follow_lifecycles :
    let server : ServerRow := { id := 1, kind := .plex }
    let x : NormalizedSession := { serverId := 1, provider := .plex, sessionKey := "a", state := .playing }
    let s : Store := { servers := [server] }
    let e : Stage := { scripts := [(1, .sessions [x])] }
    let r₁ := Op.exec (collectServer scriptedFactory {} server 0) s e
    let r₂ := Op.exec (collectServer scriptedFactory {} server 60000) r₁.1.2 r₁.2
    CollectorRun scriptedFactory {} server [0, 60000] s e r₂.1.2 r₂.2 ∧ (s.server? server.id).isSome ∧
      (∀ r ∈ s.live, r.serverId ≠ server.id) ∧ (∀ ev ∈ s.events, ev.serverId ≠ server.id) ∧
      [(0 : Int), 60000].Pairwise (· ≤ ·) ∧
      let E := r₂.1.2.eventsOf server.id "a"
      E.Pairwise (fun a b => a.ts ≤ b.ts ∧ a.id < b.id) ∧
        E.map (·.eventType) ∈ lifecycleWords.matches' ∧
        ((r₂.1.2.liveRow? server.id "a").isSome ↔ E ≠ [] ∧ E.getLast?.map (·.eventType) ≠ some .stop) ∧
        E.IsChain (fun a b => b.eventType.isChange →
          payloadField b.payloadJson "from" = payloadField a.payloadJson "to") ∧
        ∀ r, r₂.1.2.liveRow? server.id "a" = some r →
          E.getLast?.bind (fun ev => payloadField ev.payloadJson "to") = some (.str r.state.name) := by
  intro server x s e r₁ r₂
  have hown : ∀ (now : Int) (t : Store) (st : Stage), st.scripts = e.scripts →
      ListsOwnSessions scriptedFactory server now t st := fun now t st hst =>
    scripted_listsOwnSessions fun xs hxs y hy => by
      have hlook : e.scripts.lookup server.id = some (.sessions [x]) := rfl
      rw [hst, hlook, Option.some.injEq, Script.sessions.injEq] at hxs
      subst hxs
      rw [List.mem_singleton.mp hy]
  have hstage : r₁.2 = e := by
    have hk : s.KeyedAt server.id := ⟨List.nodup_nil, fun _ h => nomatch h⟩
    have hlist : Op.exec ((scriptedAdapter server.config).listSessions 0) s e = ((.ok [x], s), e) :=
      rfl
    have hX : ∀ y ∈ [x], y.serverId = server.id := by simp [x, server]
    obtain ⟨s₁, hpoll, -⟩ := pollAndPersist_exec_ok (F := scriptedFactory) hk rfl rfl hlist hX
    show (Op.exec (collectServer scriptedFactory {} server 0) s e).2 = e
    rw [collectServer_exec, hpoll]
  have hrun : CollectorRun scriptedFactory {} server [0, 60000] s e r₂.1.2 r₂.2 :=
    .poll 0 (hown 0 s e rfl) (.poll 60000 (hown 60000 r₁.1.2 r₁.2 (by rw [hstage])) (.stop _ _))
  have hsrv : (s.server? server.id).isSome := rfl
  have hlive : ∀ r ∈ s.live, r.serverId ≠ server.id := fun _ h => nomatch h
  have hevents : ∀ ev ∈ s.events, ev.serverId ≠ server.id := fun _ h => nomatch h
  have htimes : [(0 : Int), 60000].Pairwise (· ≤ ·) := by decide
  exact ⟨hrun, hsrv, hlive, hevents, htimes,
    collector_logs_follow_lifecycles hrun hsrv hlive hevents htimes "a"⟩

end StreamWarden
