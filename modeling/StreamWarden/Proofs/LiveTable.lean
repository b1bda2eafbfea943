import StreamWarden.Store.Sessions
import StreamWarden.Proofs.Ledger

/-!
# The live table and the session log

A poll changes the live table one row at a time and the session log one event at a time. On a
server the live table keeps its keys: no two of its rows share a session key, and the id of one of
its rows belongs to that row alone. These are the table's unique index on server and session key
and its primary key. Under them the row of a key is the row of the table with that server and
key, and each write changes the row of its own key and no other: refreshing a session, adding
one, and finishing one.

The log of a session is the list of the events of its server and key, in the order they were
appended.
-/

namespace StreamWarden

theorem lt_nextRowId {ids : List Nat} {i : Nat} (hi : i ∈ ids) : i < nextRowId ids := by
  have := (le_foldl_max ids 0).2 i hi
  simp only [nextRowId]
  omega

namespace Store

/-- The live table keeps its keys on a server: no two of its rows share a session key, and no
other row has the id of one of its rows. -/
structure KeyedAt (s : Store) (sid : Int) : Prop where
  keys_nodup : ((s.live.filter (·.serverId == sid)).map (·.sessionKey)).Nodup
  id_owned : ∀ r ∈ s.live, r.serverId = sid → ∀ r' ∈ s.live, r'.id = r.id → r' = r

/-- The log of a session: the events of its server and key, in the order they were appended. -/
def eventsOf (s : Store) (sid : Int) (key : String) : List EventRow :=
  s.events.filter fun e => e.serverId == sid && e.sessionKey == key

variable {s : Store} {sid : Int} {k : String} {r : LiveRow}

/-! ## The row of a key -/

theorem liveRow?_eq_none_iff :
    s.liveRow? sid k = none ↔ ∀ r ∈ s.live, r.serverId = sid → r.sessionKey ≠ k := by
  simp [liveRow?, List.find?_eq_none]

theorem mem_of_liveRow? (h : s.liveRow? sid k = some r) :
    r ∈ s.live ∧ r.serverId = sid ∧ r.sessionKey = k := by
  have hp := List.find?_some h
  simp only [Bool.and_eq_true, beq_iff_eq] at hp
  exact ⟨List.mem_of_find?_eq_some h, hp⟩

theorem KeyedAt.eq_of_key (h : s.KeyedAt sid) {r r' : LiveRow} (hr : r ∈ s.live)
    (hr' : r' ∈ s.live) (hs : r.serverId = sid) (hs' : r'.serverId = sid)
    (hk : r.sessionKey = r'.sessionKey) : r = r' :=
  List.inj_on_of_nodup_map h.keys_nodup (List.mem_filter.mpr ⟨hr, by simpa using hs⟩)
    (List.mem_filter.mpr ⟨hr', by simpa using hs'⟩) hk

/-- Where the live table keeps its keys, the row of a key is any row with that server and key. -/
theorem KeyedAt.liveRow?_eq_some_iff (h : s.KeyedAt sid) :
    s.liveRow? sid k = some r ↔ r ∈ s.live ∧ r.serverId = sid ∧ r.sessionKey = k := by
  refine ⟨mem_of_liveRow?, fun ⟨hr, hs, hk⟩ => ?_⟩
  cases hfound : s.liveRow? sid k with
  | none => exact absurd hk ((liveRow?_eq_none_iff.mp hfound) r hr hs)
  | some r₀ =>
    obtain ⟨hr₀, hs₀, hk₀⟩ := mem_of_liveRow? hfound
    rw [h.eq_of_key hr₀ hr hs₀ hs (hk₀.trans hk.symm)]

/-- A store whose table keeps its keys agrees on the row of a key with any store that holds the
same rows of that key. -/
theorem KeyedAt.liveRow?_congr {s' : Store} (h' : s'.KeyedAt sid)
    (hmem : ∀ r, r.serverId = sid → r.sessionKey = k → (r ∈ s'.live ↔ r ∈ s.live)) :
    s'.liveRow? sid k = s.liveRow? sid k := by
  cases hfound : s.liveRow? sid k with
  | none =>
    refine liveRow?_eq_none_iff.mpr fun r hr hs hk => ?_
    exact liveRow?_eq_none_iff.mp hfound r ((hmem r hs hk).mp hr) hs hk
  | some r =>
    obtain ⟨hr, hs, hk⟩ := mem_of_liveRow? hfound
    exact h'.liveRow?_eq_some_iff.mpr ⟨(hmem r hs hk).mpr hr, hs, hk⟩

/-- The rows of a key are its row, when there is one, and nothing else. -/
theorem KeyedAt.filter_key (h : s.KeyedAt sid) :
    s.live.filter (fun r => r.serverId == sid && r.sessionKey == k) = (s.liveRow? sid k).toList := by
  have hsplit : s.live.filter (fun r => r.serverId == sid && r.sessionKey == k) =
      (s.live.filter (·.serverId == sid)).filter (·.sessionKey == k) := by
    rw [List.filter_filter]
    congr 1
    funext r
    exact Bool.and_comm _ _
  rw [liveRow?, ← List.head?_filter, hsplit]
  have hnodup : (((s.live.filter (·.serverId == sid)).filter (·.sessionKey == k)).map
      (·.sessionKey)).Nodup := h.keys_nodup.sublist (List.filter_sublist.map _)
  have hall : ∀ r ∈ (s.live.filter (·.serverId == sid)).filter (·.sessionKey == k),
      r.sessionKey = k := fun r hr => by simpa using (List.mem_filter.mp hr).2
  generalize (s.live.filter (·.serverId == sid)).filter (·.sessionKey == k) = rows at hnodup hall ⊢
  match rows, hnodup, hall with
  | [], _, _ => rfl
  | [_], _, _ => rfl
  | a :: b :: _, hnodup, hall =>
    have hab := (List.nodup_cons.mp hnodup).1
    simp only [List.map_cons, List.mem_cons, not_or] at hab
    exact absurd ((hall a List.mem_cons_self).trans (hall b (by simp)).symm) hab.1

/-! ## Tables that keep their keys -/

theorem KeyedAt.sublist {s' : Store} (h : s.KeyedAt sid) (hsub : s'.live.Sublist s.live) :
    s'.KeyedAt sid where
  keys_nodup := h.keys_nodup.sublist ((hsub.filter _).map _)
  id_owned r hr hs r' hr' hid := h.id_owned r (hsub.subset hr) hs r' (hsub.subset hr') hid

/-- Rewriting rows in place, each keeping its id, server and key, keeps the keys. -/
theorem KeyedAt.map {s' : Store} (h : s.KeyedAt sid) {f : LiveRow → LiveRow}
    (hf : ∀ r ∈ s.live, (f r).id = r.id ∧ (f r).serverId = r.serverId ∧
      (f r).sessionKey = r.sessionKey)
    (hlive : s'.live = s.live.map f) : s'.KeyedAt sid where
  keys_nodup := by
    have hfilter : (s.live.map f).filter (·.serverId == sid) =
        (s.live.filter (·.serverId == sid)).map f := by
      rw [List.filter_map]
      congr 1
      apply List.filter_congr
      intro r hr
      simp [(hf r hr).2.1]
    rw [hlive, hfilter, List.map_map]
    have hkey : ∀ r ∈ s.live.filter (·.serverId == sid), ((·.sessionKey) ∘ f) r = r.sessionKey :=
      fun r hr => (hf r (List.mem_filter.mp hr).1).2.2
    rw [List.map_congr_left hkey]
    exact h.keys_nodup
  id_owned := by
    intro r₁ hr₁ hs₁ r₂ hr₂ hid
    rw [hlive] at hr₁ hr₂
    obtain ⟨a, ha, rfl⟩ := List.mem_map.mp hr₁
    obtain ⟨b, hb, rfl⟩ := List.mem_map.mp hr₂
    have hab : b = a := by
      refine h.id_owned a ha ?_ b hb ?_
      · rw [← (hf a ha).2.1]
        exact hs₁
      · rw [← (hf a ha).1, ← (hf b hb).1]
        exact hid
    rw [hab]

/-- Adding a row with a new id, and with a key the server has no row for, keeps the keys. -/
theorem KeyedAt.append {s' : Store} (h : s.KeyedAt sid) (r₀ : LiveRow)
    (hid : ∀ r ∈ s.live, r.id ≠ r₀.id)
    (hkey : r₀.serverId = sid → ∀ r ∈ s.live, r.serverId = sid → r.sessionKey ≠ r₀.sessionKey)
    (hlive : s'.live = s.live ++ [r₀]) : s'.KeyedAt sid where
  keys_nodup := by
    rw [hlive, List.filter_append, List.map_append, List.nodup_append]
    refine ⟨h.keys_nodup, ?_, ?_⟩
    · exact List.Sublist.nodup ((List.filter_sublist).map _) (List.nodup_singleton _)
    · intro a ha b hb hab
      obtain ⟨r, hr, rfl⟩ := List.mem_map.mp ha
      obtain ⟨r', hr', rfl⟩ := List.mem_map.mp hb
      simp only [List.mem_filter, List.mem_singleton, beq_iff_eq] at hr hr'
      obtain ⟨rfl, hs₀⟩ := hr'
      exact hkey hs₀ r hr.1 hr.2 hab
  id_owned := by
    intro r hr hs r' hr' hid'
    rw [hlive, List.mem_append, List.mem_singleton] at hr hr'
    rcases hr with hr | rfl <;> rcases hr' with hr' | rfl
    · exact h.id_owned r hr hs r' hr' hid'
    · exact absurd hid'.symm (hid r hr)
    · exact absurd hid' (hid r' hr')
    · rfl

/-! ## Refreshing or adding a session -/

section Put

variable {x : NormalizedSession} {account : Option Int} {now : Int}

@[simp] theorem putLive_events : (s.putLive x account now).events = s.events := by
  unfold putLive; split <;> rfl

@[simp] theorem putLive_history : (s.putLive x account now).history = s.history := by
  unfold putLive; split <;> rfl

@[simp] theorem putLive_servers : (s.putLive x account now).servers = s.servers := by
  unfold putLive; split <;> rfl

@[simp] theorem putLive_accounts : (s.putLive x account now).accounts = s.accounts := by
  unfold putLive; split <;> rfl

@[simp] theorem refreshRow_id (old : LiveRow) : (refreshRow old x account now).id = old.id := rfl

@[simp] theorem refreshRow_serverId (old : LiveRow) :
    (refreshRow old x account now).serverId = old.serverId := rfl

@[simp] theorem refreshRow_sessionKey (old : LiveRow) :
    (refreshRow old x account now).sessionKey = old.sessionKey := rfl

@[simp] theorem refreshRow_state (old : LiveRow) : (refreshRow old x account now).state = x.state :=
  rfl

@[simp] theorem freshRow_state (id : Nat) : (freshRow id x account now).state = x.state := rfl

/-- The row a report leaves for its key: the old row refreshed, or a new one. -/
def putRow (s : Store) (x : NormalizedSession) (account : Option Int) (now : Int) : LiveRow :=
  match s.liveRow? x.serverId x.sessionKey with
  | some old => refreshRow old x account now
  | none => freshRow (nextRowId (s.live.map (·.id))) x account now

@[simp] theorem putRow_state : (s.putRow x account now).state = x.state := by
  unfold putRow; split <;> rfl

/-- A refresh rewrites the row of its key in place; only that row has its id. -/
theorem live_putLive_of_some (hx : x.serverId = sid) {old : LiveRow}
    (hold : s.liveRow? sid x.sessionKey = some old) :
    (s.putLive x account now).live =
      s.live.map fun r => if r.id == old.id then refreshRow old x account now else r := by
  simp only [putLive, hx, hold]

theorem KeyedAt.eq_of_id {old r : LiveRow} (hk : s.KeyedAt sid)
    (hold : s.liveRow? sid k = some old) (hr : r ∈ s.live) (hid : r.id = old.id) : r = old := by
  obtain ⟨hmem, hs, -⟩ := mem_of_liveRow? hold
  exact hk.id_owned old hmem hs r hr hid

theorem KeyedAt.putLive (hk : s.KeyedAt sid) (hx : x.serverId = sid) :
    (s.putLive x account now).KeyedAt sid := by
  cases hold : s.liveRow? sid x.sessionKey with
  | some old =>
    refine hk.map ?_ (live_putLive_of_some hx hold)
    intro r hr
    by_cases hid : r.id = old.id
    · rw [hk.eq_of_id hold hr hid]
      simp
    · simp [hid]
  | none =>
    refine hk.append (freshRow (nextRowId (s.live.map (·.id))) x account now) ?_ ?_ ?_
    · intro r hr hid
      apply nextRowId_not_mem (s.live.map (·.id))
      rw [show nextRowId (s.live.map (·.id)) = r.id from hid.symm]
      exact List.mem_map_of_mem hr
    · intro _ r hr hs
      exact liveRow?_eq_none_iff.mp hold r hr hs
    · simp only [Store.putLive, hx, hold]

/-- Rewriting every row that has the id of the first row satisfying `p` into a row that satisfies
`p` makes that row the first one satisfying `p`: rows before it keep failing `p`. -/
theorem find?_map_of_find? {p : LiveRow → Bool} {rows : List LiveRow} {old new : LiveRow}
    (hold : rows.find? p = some old) (hnew : p new = true) :
    (rows.map fun r => if r.id == old.id then new else r).find? p = some new := by
  induction rows with
  | nil => simp at hold
  | cons r rows ih =>
    by_cases hr : p r = true
    · have hro : r = old := by simpa [List.find?_cons, hr] using hold
      subst hro
      simp [hnew]
    · have hold' : rows.find? p = some old := by simpa [List.find?_cons, hr] using hold
      by_cases hid : r.id = old.id
      · simp [hid, hnew]
      · have hkeep : (if (r.id == old.id) = true then new else r) = r := by simp [hid]
        rw [List.map_cons, hkeep, List.find?_cons_of_neg hr]
        exact ih hold'

/-- After a report is put, the row of its server and key is the row the report leaves, whatever
else the table holds. -/
theorem liveRow?_putLive :
    (s.putLive x account now).liveRow? x.serverId x.sessionKey = some (s.putRow x account now) := by
  cases hold : s.liveRow? x.serverId x.sessionKey with
  | none =>
    simp only [putLive, putRow, hold]
    simp only [liveRow?] at hold ⊢
    simp [List.find?_append, hold, freshRow]
  | some old =>
    simp only [putLive, putRow, hold]
    have hkey := (mem_of_liveRow? hold).2
    exact find?_map_of_find? hold (by simp [hkey.1, hkey.2])

theorem liveRow?_putLive_self (hx : x.serverId = sid) :
    (s.putLive x account now).liveRow? sid x.sessionKey = some (s.putRow x account now) :=
  hx ▸ liveRow?_putLive

theorem liveRow?_putLive_other (hk : s.KeyedAt sid) (hx : x.serverId = sid)
    (hne : k ≠ x.sessionKey) :
    (s.putLive x account now).liveRow? sid k = s.liveRow? sid k := by
  refine (hk.putLive hx).liveRow?_congr fun r hs hkey => ?_
  cases hold : s.liveRow? sid x.sessionKey with
  | some old =>
    have hkold := (mem_of_liveRow? hold).2.2
    rw [live_putLive_of_some hx hold, List.mem_map]
    constructor
    · rintro ⟨r', hr', hr⟩
      by_cases hid : r'.id = old.id
      · rw [hk.eq_of_id hold hr' hid] at hr
        simp only [beq_self_eq_true, if_true] at hr
        rw [← hr, refreshRow_sessionKey, hkold] at hkey
        exact absurd hkey.symm hne
      · simp only [hid, beq_iff_eq, if_false] at hr
        exact hr ▸ hr'
    · intro hr
      have hid : r.id ≠ old.id := by
        intro hid
        rw [hk.eq_of_id hold hr hid, hkold] at hkey
        exact hne hkey.symm
      exact ⟨r, hr, by simp [hid]⟩
  | none =>
    simp only [putLive, hx, hold, List.mem_append, List.mem_singleton]
    constructor
    · rintro (hr | rfl)
      · exact hr
      · exact absurd hkey.symm hne
    · exact .inl

end Put

/-! ## Appending an event -/

theorem appendEvent_eq_ok {e : EventRow} (hsrv : (s.server? e.serverId).isSome) :
    s.appendEvent e =
      .ok { s with events := s.events ++ [{ e with id := nextRowId (s.events.map (·.id)) }] } := by
  simp [appendEvent, Option.isSome_iff_ne_none.mp hsrv]

theorem appendEvent_eq_error {e : EventRow} (hsrv : (s.server? e.serverId).isNone) :
    ∃ err, s.appendEvent e = .error err := by
  simp [appendEvent, hsrv]

theorem eventsOf_of_events {s' : Store} {L : List EventRow} (h : s'.events = s.events ++ L) :
    s'.eventsOf sid k = s.eventsOf sid k ++ L.filter fun e => e.serverId == sid && e.sessionKey == k := by
  simp [eventsOf, h, List.filter_append]

/-! ## Finishing a session -/

section Finalize

variable {prov : ProviderKind} {now : Int}

/-- The `stop` event finishing the row of a key at `now`. -/
def stopEvent (s : Store) (sid : Int) (prov : ProviderKind) (k : String) (now : Int)
    (row : LiveRow) : EventRow :=
  { id := nextRowId (s.events.map (·.id)), serverId := sid, provider := prov, eventType := .stop
    ts := now, sessionKey := k, mediaUserId := row.mediaUserId
    externalUserId := row.externalUserId, mediaKey := row.mediaKey, title := row.title
    payloadJson := some (stopPayload row) }

theorem finalize_of_none (h : s.liveRow? sid k = none) :
    s.finalize sid prov k now = .ok (none, s) := by
  simp [finalize, h, pure, Except.pure]

/-- Logging an event leaves the history row a finished session would write. -/
@[simp] theorem historyEntry_events (es : List EventRow) :
    ({ s with events := es } : Store).historyEntry = s.historyEntry := rfl

@[simp] theorem historyHas_events (es : List EventRow) :
    ({ s with events := es } : Store).historyHas = s.historyHas := rfl

@[simp] theorem historyEntry_startedAt (row : LiveRow) :
    (s.historyEntry sid prov k now row).startedAt = historyStart row now := rfl

@[simp] theorem historyEntry_stoppedAt (row : LiveRow) :
    (s.historyEntry sid prov k now row).stoppedAt = max now (historyStart row now) := rfl

@[simp] theorem historyEntry_watchMs (row : LiveRow) :
    (s.historyEntry sid prov k now row).watchMs = max (row.progressMs.getD 0) 0 := rfl

/-- Finishing a key whose row is there, on a server that is there, is one write: the `stop`
event is logged, the history row is added unless the history has the session with that start
already or the row fails the table's checks, and the row is deleted. -/
theorem finalize_eq_ok (prov : ProviderKind) (now : Int) {row : LiveRow}
    (h : s.liveRow? sid k = some row) (hsrv : (s.server? sid).isSome) :
    let startedAt := historyStart row now
    let written := !s.historyHas sid k startedAt && (s.historyEntry sid prov k now row).passesChecks
    s.finalize sid prov k now =
      .ok (some ⟨k, startedAt, max now startedAt, max (row.progressMs.getD 0) 0, written⟩,
        { s with events := s.events ++ [s.stopEvent sid prov k now row]
                 history := if written then s.history ++ [s.historyEntry sid prov k now row]
                   else s.history
                 live := s.live.filter (·.id != row.id) }) := by
  intro startedAt written
  simp only [finalize, h]
  rw [appendEvent_eq_ok hsrv]
  simp only [bind, Except.bind, pure, Except.pure, historyEntry_events, historyHas_events,
    historyEntry_startedAt, historyEntry_stoppedAt, historyEntry_watchMs]
  cases hw : written
  · have hc : (!s.historyHas sid k (historyStart row now) &&
        (s.historyEntry sid prov k now row).passesChecks) = false := hw
    simp only [hc, Bool.false_eq_true, ↓reduceIte]
    rfl
  · have hc : (!s.historyHas sid k (historyStart row now) &&
        (s.historyEntry sid prov k now row).passesChecks) = true := hw
    simp only [hc, ↓reduceIte]
    rfl

/-- Finishing a key whose row is there, on a server that is there, logs its `stop` event and
deletes the row; it leaves the servers and accounts alone. -/
theorem finalize_of_some (prov : ProviderKind) (now : Int) {row : LiveRow}
    (h : s.liveRow? sid k = some row) (hsrv : (s.server? sid).isSome) :
    ∃ fin s', s.finalize sid prov k now = .ok (some fin, s') ∧
      s'.live = s.live.filter (·.id != row.id) ∧
      s'.events = s.events ++ [s.stopEvent sid prov k now row] ∧
      s'.servers = s.servers ∧ s'.accounts = s.accounts := by
  exact ⟨_, _, finalize_eq_ok prov now h hsrv, rfl, rfl, rfl, rfl⟩

theorem finalize_of_some_of_missing {row : LiveRow} (h : s.liveRow? sid k = some row)
    (hsrv : (s.server? sid).isNone) : ∃ err, s.finalize sid prov k now = .error err := by
  simp [finalize, h, appendEvent, hsrv]

/-- Deleting the row of a key by its id leaves every other key's row. -/
theorem KeyedAt.liveRow?_of_delete {s' : Store} {row : LiveRow} (hk : s.KeyedAt sid)
    (h : s.liveRow? sid k = some row) (hlive : s'.live = s.live.filter (·.id != row.id))
    (k' : String) : s'.liveRow? sid k' = if k' = k then none else s.liveRow? sid k' := by
  have hk' : s'.KeyedAt sid := hk.sublist (hlive ▸ List.filter_sublist)
  split
  · next hkk =>
    subst hkk
    refine liveRow?_eq_none_iff.mpr fun r hr hs hkey => ?_
    rw [hlive, List.mem_filter] at hr
    have hrow := hk.liveRow?_eq_some_iff.mpr ⟨hr.1, hs, hkey⟩
    rw [h, Option.some.injEq] at hrow
    simp [hrow] at hr
  · next hne =>
    refine hk'.liveRow?_congr fun r hs hkey => ?_
    rw [hlive, List.mem_filter]
    refine ⟨fun hr => hr.1, fun hr => ⟨hr, ?_⟩⟩
    have hid : r.id ≠ row.id := by
      intro hid
      rw [hk.eq_of_id h hr hid, (mem_of_liveRow? h).2.2] at hkey
      exact hne hkey.symm
    simpa using hid

end Finalize

end Store

end StreamWarden
