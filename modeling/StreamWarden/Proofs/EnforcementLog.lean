import StreamWarden.Proofs.Ledger
import StreamWarden.Proofs.TickRuns
import StreamWarden.Proofs.Evaluation
import StreamWarden.Media.Scripted

/-!
# What the enforcer writes to its log

Over any run of the enforcer (ticks, and between them any change of the world that leaves the
log and its summary rows alone) the log only grows, and each stop it gains passed the check the
enforcer made before writing it: the log already holds a warning about the same policy, server
and actor (`KillAdmitted`). So every kill logged during a run comes after a warning about its
key, and a kill is logged only once the policy, evaluated again over the live view read at the
recheck, still finds the same violation (`kill_follows_warning`).

This rests on the summary rows being those the log leaves (`Store.Summarized`), which logging an
action keeps, and on a world and adapters that leave the log alone: media servers are reached
over the network and hold no part of the store, and whoever writes the store while a tick waits
changes live sessions, policies and settings, not the log.

The rehearsal's scripted servers and world are such, and `transcode4kStore` is a store where a
tick of the rehearsal warns and then stops.
-/

namespace StreamWarden

variable {σ : Type}

/-- The summary rows of the store are those its log leaves. -/
def Store.Summarized (s : Store) : Prop := s.states = summaryOf s.enforcements

theorem Store.Summarized.of_same_ledger {s s₁ : Store} (hs : s.Summarized)
    (henf : s₁.enforcements = s.enforcements) (hst : s₁.states = s.states) : s₁.Summarized := by
  rw [Store.Summarized, henf, hst]
  exact hs

/-! ## Growth of the log -/

/-- The log grows from `L` to `M` by entries that `ok` admits, each after the entries before
it. -/
inductive LogGrows (ok : List EnforcementRow → EnforcementRow → Prop) (L : List EnforcementRow) :
    List EnforcementRow → Prop
  | refl : LogGrows ok L L
  | snoc {M : List EnforcementRow} {r : EnforcementRow} :
      LogGrows ok L M → ok M r → LogGrows ok L (M ++ [r])

namespace LogGrows

variable {ok ok' : List EnforcementRow → EnforcementRow → Prop} {L M N : List EnforcementRow}

theorem trans (h₁ : LogGrows ok L M) (h₂ : LogGrows ok M N) : LogGrows ok L N := by
  induction h₂ with
  | refl => exact h₁
  | snoc _ hr ih => exact ih.snoc hr

theorem mono (h : LogGrows ok L M) (hok : ∀ M r, ok M r → ok' M r) : LogGrows ok' L M := by
  induction h with
  | refl => exact .refl
  | snoc _ hr ih => exact ih.snoc (hok _ _ hr)

theorem exists_append (h : LogGrows ok L M) : ∃ N, M = L ++ N := by
  induction h with
  | refl => exact ⟨[], (List.append_nil L).symm⟩
  | snoc _ _ ih =>
    obtain ⟨N, rfl⟩ := ih
    exact ⟨N ++ [_], List.append_assoc _ _ _⟩

/-- An entry past the first `L.length` was admitted after the entries before it. -/
theorem admitted (h : LogGrows ok L M) {pre post : List EnforcementRow} {r : EnforcementRow}
    (hM : M = pre ++ r :: post) (hlen : L.length ≤ pre.length) : ok pre r := by
  induction h generalizing post with
  | refl =>
    have hlen' := congrArg List.length hM
    simp only [List.length_append, List.length_cons] at hlen'
    omega
  | @snoc M' r' _ hr ih =>
    rcases List.eq_nil_or_concat post with rfl | ⟨post', x, rfl⟩
    · obtain ⟨rfl, hr'⟩ := List.append_inj' hM rfl
      cases hr'
      exact hr
    · have hM' : M' ++ [r'] = (pre ++ r :: post') ++ [x] := by simpa using hM
      exact ih (List.append_inj' hM' rfl).1

/-- Every entry appended to `L` was admitted, when what admits an entry does not look at the
entries before it. -/
theorem forall_drop {P : EnforcementRow → Prop} (h : LogGrows (fun _ r => P r) L M) :
    ∀ r ∈ M.drop L.length, P r := by
  intro r hr
  obtain ⟨N, rfl⟩ := h.exists_append
  obtain ⟨pre, post, hN⟩ := List.append_of_mem (by simpa using hr)
  exact h.admitted (show L ++ N = (L ++ pre) ++ r :: post by simp [hN]) (by simp)

end LogGrows

/-- The check before logging a stop: the log already holds a warning about the same policy,
server and actor. -/
def KillAdmitted (L : List EnforcementRow) (r : EnforcementRow) : Prop :=
  r.action = .kill → ∃ w ∈ L, w.action = .warn ∧ w.key = r.key

@[simp] theorem enforcementEntry_toRow_action (v : Violation) (t : LiveSession)
    (action : EnforcementAction) (reason : String) (succeeded : Bool) (id : Nat) (now : Int) :
    ((enforcementEntry v t action reason succeeded).toRow id now).action = action := rfl

@[simp] theorem enforcementEntry_toRow_key (v : Violation) (t : LiveSession)
    (action : EnforcementAction) (reason : String) (succeeded : Bool) (id : Nat) (now : Int) :
    ((enforcementEntry v t action reason succeeded).toRow id now).key =
      (v.policyId, v.serverId, v.actorKey) := rfl

@[simp] theorem enforcementEntry_toRow_createdAt (v : Violation) (t : LiveSession)
    (action : EnforcementAction) (reason : String) (succeeded : Bool) (id : Nat) (now : Int) :
    ((enforcementEntry v t action reason succeeded).toRow id now).createdAt = now := rfl

@[simp] theorem enforcementEntry_toRow_sessionKey (v : Violation) (t : LiveSession)
    (action : EnforcementAction) (reason : String) (succeeded : Bool) (id : Nat) (now : Int) :
    ((enforcementEntry v t action reason succeeded).toRow id now).sessionKey = t.sessionKey := rfl

/-! ## A world and adapters that leave the log alone -/

/-- The log of the store is `L` and its summary rows are `S`. -/
def Store.HasLedger (L : List EnforcementRow) (S : List EnforcementState) (s : Store) (_ : σ) :
    Prop :=
  s.enforcements = L ∧ s.states = S

/-- Reading the clocks and pausing leave the log and the summary rows alone. -/
def TickWorld.KeepsLedger (W : TickWorld (Op σ)) : Prop := ∀ L S, W.Keeps (Store.HasLedger L S)

/-- An adapter whose messages and stops leave the log and the summary rows alone. -/
def Adapter.KeepsLedger (A : Adapter (Op σ)) : Prop := ∀ L S, A.Keeps (Store.HasLedger L S)

/-- Every adapter the factory builds leaves the log and the summary rows alone. -/
def FactoryKeepsLedger (F : ServerConfig → Except ProviderError (Adapter (Op σ))) : Prop :=
  ∀ server A, F server = .ok A → A.KeepsLedger

/-- An action that keeps every log and summary rows leaves those it starts from. -/
theorem Op.ledger_eq_of_keeps {α : Type} {x : Op σ α}
    (h : ∀ L S, x.Keeps (Store.HasLedger L S)) (s : Store) (e : σ) :
    (Op.exec x s e).1.2.enforcements = s.enforcements ∧ (Op.exec x s e).1.2.states = s.states :=
  h s.enforcements s.states s e ⟨rfl, rfl⟩

/-! ## Logging one action -/

/-- What logging `entry` at `now` did to the log and the summary rows of `s`, by whether it
succeeded: a success appended the entry and brought the summary rows up to date, a failure left
both alone. -/
def LoggedBy (entry : EnforcementEntry) (now : Int) (s : Store) (logged : Bool) (s' : Store) :
    Prop :=
  if logged then
    ∃ id, s'.enforcements = s.enforcements ++ [entry.toRow id now] ∧
      s'.states = summarize s.states (entry.toRow id now)
  else s'.enforcements = s.enforcements ∧ s'.states = s.states

theorem recordAction_ok {s s' : Store} {entry : EnforcementEntry} {now : Int}
    (h : s.recordAction entry now = .ok s') :
    ∃ id, s'.enforcements = s.enforcements ++ [entry.toRow id now] ∧
      s'.states = summarize s.states (entry.toRow id now) := by
  unfold Store.recordAction at h
  split at h
  · cases h
  · cases h
    exact ⟨_, rfl, rfl⟩

namespace LoggedBy

variable {entry : EnforcementEntry} {now : Int} {s s₁ s' : Store} {b : Bool}

/-- Logging from a store with the same log and summary rows logs the same. -/
theorem of_ledger (h : LoggedBy entry now s₁ b s') (henf : s₁.enforcements = s.enforcements)
    (hst : s₁.states = s.states) : LoggedBy entry now s b s' := by
  unfold LoggedBy at h ⊢
  rw [henf, hst] at h
  exact h

theorem summarized (h : LoggedBy entry now s b s') (hs : s.Summarized) : s'.Summarized := by
  unfold LoggedBy at h
  cases b
  · obtain ⟨henf, hst⟩ := h
    exact hs.of_same_ledger henf hst
  · obtain ⟨id, henf, hst⟩ := h
    rw [Store.Summarized, henf, hst, summaryOf_append_singleton, hs]

theorem grows {ok : List EnforcementRow → EnforcementRow → Prop} (h : LoggedBy entry now s b s')
    (hok : b = true → ∀ id, ok s.enforcements (entry.toRow id now)) :
    LogGrows ok s.enforcements s'.enforcements := by
  unfold LoggedBy at h
  cases b
  · rw [h.1]
    exact .refl
  · obtain ⟨id, henf, -⟩ := h
    rw [henf]
    exact LogGrows.refl.snoc (hok rfl id)

theorem mem (h : LoggedBy entry now s true s') : ∃ id, entry.toRow id now ∈ s'.enforcements := by
  obtain ⟨id, henf, -⟩ := h
  exact ⟨id, by simp [henf]⟩

/-- Logging an entry appends it, or nothing when logging failed. -/
theorem exists_append (h : LoggedBy entry now s b s') :
    ∃ id, s'.enforcements = s.enforcements ++ if b then [entry.toRow id now] else [] := by
  unfold LoggedBy at h
  cases b
  · exact ⟨0, by simpa using h.1⟩
  · obtain ⟨id, henf, -⟩ := h
    exact ⟨id, by simpa using henf⟩

end LoggedBy

/-- The wall clock told `now` at a reading that left the servers at `e'`. -/
def TickWorld.Told (W : TickWorld (Op σ)) (now : Int) (e' : σ) : Prop :=
  ∃ s e, (Op.exec W.now s e).1.1 = now ∧ (Op.exec W.now s e).2 = e'

/-- Logging an action dates it at the time the wall clock tells first. -/
theorem logAction_loggedBy {W : TickWorld (Op σ)} (hW : W.KeepsLedger) (entry : EnforcementEntry)
    (s : Store) (e : σ) :
    W.Told (Op.exec W.now s e).1.1 (Op.exec (logAction W entry).run s e).2 ∧
      LoggedBy entry (Op.exec W.now s e).1.1 s (Op.exec (logAction W entry).run s e).1.1.isOk
        (Op.exec (logAction W entry).run s e).1.2 := by
  obtain ⟨henf, hst⟩ := Op.ledger_eq_of_keeps (fun L S => (hW L S).now) s e
  refine ⟨⟨s, e, rfl, (logAction_exec_servers W entry s e).symm⟩, ?_⟩
  simp only [logAction_exec]
  rcases h : (Op.exec W.now s e).1.2.recordAction entry (Op.exec W.now s e).1.1 with err | s'
  · exact ⟨henf, hst⟩
  · exact LoggedBy.of_ledger (recordAction_ok h) henf hst

/-! ## What each stage logs

Warning and stopping each log one entry, or none when logging fails; the pauses, the clocks and
the pre-kill messages log nothing. Nothing else in a handler writes the log.
-/

section Stages

variable {W : TickWorld (Op σ)} (hW : W.KeepsLedger) {A : Adapter (Op σ)} (hA : A.KeepsLedger)
  (config : EnforcerConfig)
include hW hA

theorem warnActor_loggedBy (v : Violation) (t : LiveSession) (s : Store) (e : σ) :
    ∃ reason succeeded now, W.Told now (Op.exec (warnActor W config A v t).run s e).2 ∧
      LoggedBy (enforcementEntry v t .warn reason succeeded) now s
        (Op.exec (warnActor W config A v t).run s e).1.1.isOk
        (Op.exec (warnActor W config A v t).run s e).1.2 := by
  rw [warnActor_exec]
  cases A.kind with
  | plex => exact ⟨_, _, _, logAction_loggedBy hW _ s e⟩
  | jellyfin =>
    obtain ⟨henf, hst⟩ := Op.ledger_eq_of_keeps (fun L S => (hA L S).sendMessage
      (Jellyfin.controlSessionId t.sessionKey t.raw) v.warnTitle v.warnText
      config.warnToastTimeoutMs) s e
    dsimp only
    generalize Op.exec (A.sendMessage (Jellyfin.controlSessionId t.sessionKey t.raw) v.warnTitle
      v.warnText config.warnToastTimeoutMs) s e = call at henf hst
    obtain ⟨succeeded, reason⟩ := warnDelivery v call.1.1
    obtain ⟨told, logged⟩ :=
      logAction_loggedBy hW (enforcementEntry v t .warn reason succeeded) call.1.2 call.2
    exact ⟨_, _, _, told, logged.of_ledger henf hst⟩

omit config in
theorem killTarget_loggedBy (v : Violation) (t : LiveSession) (s : Store) (e : σ) :
    ∃ reason succeeded now, W.Told now (Op.exec (killTarget W A v t).run s e).2 ∧
      LoggedBy (enforcementEntry v t .kill reason succeeded) now s
        (Op.exec (killTarget W A v t).run s e).1.1.isOk
        (Op.exec (killTarget W A v t).run s e).1.2 := by
  obtain ⟨henf, hst⟩ := Op.ledger_eq_of_keeps
    (fun L S => (hA L S).terminate t.sessionKey v.killReason) s e
  obtain ⟨reason, succeeded, hok, hs, he⟩ := killTarget_exec_logged W A v t s e
  obtain ⟨told, logged⟩ := logAction_loggedBy hW (enforcementEntry v t .kill reason succeeded)
    (Op.exec (A.terminate t.sessionKey v.killReason) s e).1.2
    (Op.exec (A.terminate t.sessionKey v.killReason) s e).2
  rw [hok, hs, he]
  exact ⟨reason, succeeded, _, told, logged.of_ledger henf hst⟩

/-- The warning stage decides at the time the wall clock tells: it logs nothing when the actor
was warned within the cooldown then, and otherwise logs the warning, or nothing when logging
fails. -/
theorem warnUnlessRecent_loggedBy (policy : Policy) (v : Violation) (t : LiveSession) (s : Store)
    (e : σ) :
    let r := Op.exec (warnUnlessRecent W config A policy v t).run s e
    (warnedRecently config (s.lastWarnedAt policy.id v.serverId v.actorKey)
        (Op.exec W.now s e).1.1 = true ∧
      r.1.1 = .ok false ∧ r.1.2.enforcements = s.enforcements ∧ r.1.2.states = s.states) ∨
    (warnedRecently config (s.lastWarnedAt policy.id v.serverId v.actorKey)
        (Op.exec W.now s e).1.1 = false ∧
      ∃ reason succeeded now, W.Told now r.2 ∧
        LoggedBy (enforcementEntry v t .warn reason succeeded) now s r.1.1.isOk r.1.2) := by
  intro r
  obtain ⟨henf, hst⟩ := Op.ledger_eq_of_keeps (fun L S => (hW L S).now) s e
  cases hrecent : warnedRecently config (s.lastWarnedAt policy.id v.serverId v.actorKey)
    (Op.exec W.now s e).1.1
  · obtain ⟨reason, succeeded, now, told, logged⟩ :=
      warnActor_loggedBy hW hA config v t (Op.exec W.now s e).1.2 (Op.exec W.now s e).2
    obtain ⟨hok, hs, he⟩ := warnUnlessRecent_exec_warned W config A policy v t s e hrecent
    refine .inr ⟨rfl, reason, succeeded, now, ?_, ?_⟩
    · rw [he]
      exact told
    · rw [hok, hs]
      exact logged.of_ledger henf hst
  · have hr : r = ((.ok false, (Op.exec W.now s e).1.2), (Op.exec W.now s e).2) := by
      simp only [r, warnUnlessRecent_exec, hrecent, if_true]
    rw [hr]
    exact .inl ⟨rfl, rfl, henf, hst⟩

/-- A stop with notice logs the stop, or nothing when logging it fails or when a pre-kill pause
ended in shutdown. -/
theorem killWithNotice_loggedBy (v : Violation) (t : LiveSession) (s : Store) (e : σ) :
    let r := Op.exec (killWithNotice W config A v t).run s e
    (r.1.2.enforcements = s.enforcements ∧ r.1.2.states = s.states) ∨
    ∃ reason succeeded now, W.Told now r.2 ∧
      LoggedBy (enforcementEntry v t .kill reason succeeded) now s r.1.1.isOk r.1.2 := by
  intro r
  have notice := Op.ledger_eq_of_keeps
    (fun L S => prekillToasts_keeps (v := v) (t := t) (hW L S) config
      ((hA L S).sendMessage _ _ _ _)) s e
  rcases killWithNotice_exec_cases W config A v t s e with ⟨-, -, hp⟩ | ⟨s₁, e₁, hp, hr⟩
  · rw [hp] at notice
    exact .inl notice
  · have hnotice : s₁.enforcements = s.enforcements ∧ s₁.states = s.states := by
      split at hp
      · rw [hp] at notice
        exact notice
      · cases hp
        exact ⟨rfl, rfl⟩
    obtain ⟨reason, succeeded, now, told, logged⟩ := killTarget_loggedBy hW hA v t s₁ e₁
    simp only [r, hr]
    exact .inr ⟨reason, succeeded, now, told, logged.of_ledger hnotice.1 hnotice.2⟩

/-- The recheck logs nothing, or it found the violation again in the live view it read after
its pause and logs the stop of a session of the violation found, or nothing when logging
fails. -/
theorem recheckAndKill_loggedBy (policy : Policy) (o : Overrides) (v : Violation) (s : Store)
    (e : σ) :
    let r := Op.exec (recheckAndKill W config A policy o v).run s e
    (r.1.2.enforcements = s.enforcements ∧ r.1.2.states = s.states) ∨
    ∃ now s₁ e₁, RecheckSees W config s e now s₁ e₁ ∧
      ∃ cur ∈ policy.evaluate (s₁.liveView (liveSince config now)) o, cur.sameAs v = true ∧
        ∃ target ∈ cur.sessions, ∃ reason succeeded now', W.Told now' r.2 ∧
          LoggedBy (enforcementEntry cur target .kill reason succeeded) now' s r.1.1.isOk r.1.2 := by
  intro r
  rcases recheckAndKill_exec_cases W config A policy o v s e with
    ⟨s₁, e₁, hp, hr⟩ | ⟨now, s₁, e₁, hsees, hr⟩
  · have paused := Op.ledger_eq_of_keeps (fun L S => (hW L S).pause config.recheckDelayMs) s e
    rw [hp] at paused
    simp only [r, hr]
    exact .inl paused
  · have hread : s₁.enforcements = s.enforcements ∧ s₁.states = s.states :=
      RecheckSees.keeps (hW s.enforcements s.states) hsees ⟨rfl, rfl⟩
    rcases hr with hr | ⟨cur, target, hcur, htarget, hr⟩
    · simp only [r, hr]
      exact .inl hread
    · rcases killWithNotice_loggedBy hW hA config cur target s₁ e₁ with
        hkept | ⟨reason, succeeded, now', told, logged⟩
      · simp only [r, hr]
        exact .inl ⟨hkept.1.trans hread.1, hkept.2.trans hread.2⟩
      · refine .inr ⟨now, s₁, e₁, hsees, cur, List.mem_of_find?_eq_some hcur,
          by simpa using List.find?_some hcur, target, selectTarget_mem htarget, reason, succeeded,
          now', ?_⟩
        simp only [r, hr]
        exact ⟨told, logged.of_ledger hread.1 hread.2⟩

omit config in
theorem warnUnlessRecent_logs_warnings (config : EnforcerConfig) (policy : Policy) (v : Violation)
    (t : LiveSession) (s : Store) (e : σ) :
    LogGrows (fun _ k => k.action = .warn) s.enforcements
      (Op.exec (warnUnlessRecent W config A policy v t).run s e).1.2.enforcements := by
  rcases warnUnlessRecent_loggedBy hW hA config policy v t s e with
    ⟨-, -, henf, -⟩ | ⟨-, reason, succeeded, now, -, logged⟩
  · rw [henf]
    exact .refl
  · exact logged.grows fun _ _ => by simp

/-- The recheck logs only the stop of a session of a violation that the policy finds again, the
same as the one handled, in the live view it reads after its pause. -/
theorem recheckAndKill_logs_kills (policy : Policy) (o : Overrides) (v : Violation) (s : Store)
    (e : σ) :
    LogGrows (fun _ k => ∃ now s₁ e₁, RecheckSees W config s e now s₁ e₁ ∧
        ∃ cur ∈ policy.evaluate (s₁.liveView (liveSince config now)) o, cur.sameAs v = true ∧
          k.action = .kill ∧ k.key = (cur.policyId, cur.serverId, cur.actorKey) ∧
          ∃ t ∈ cur.sessions, k.sessionKey = t.sessionKey)
      s.enforcements (Op.exec (recheckAndKill W config A policy o v).run s e).1.2.enforcements := by
  rcases recheckAndKill_loggedBy hW hA config policy o v s e with
    ⟨henf, -⟩ | ⟨now, s₁, e₁, hsees, cur, hcur, hsame, target, htarget, reason, succeeded, _, -,
      logged⟩
  · rw [henf]
    exact .refl
  · exact logged.grows fun _ _ => ⟨now, s₁, e₁, hsees, cur, hcur, hsame, by simp, by simp, target,
      htarget, by simp⟩

end Stages

/-! ## Every stop a tick logs passed the check -/

section Checked

variable {W : TickWorld (Op σ)} (hW : W.KeepsLedger) (config : EnforcerConfig)
include hW

/-- The warning stage keeps the summary rows those of the log, logs no stop, and when it
succeeds the log holds a warning about the policy, server and actor: the one it logged, or the
earlier one that made it hold back. -/
theorem warnUnlessRecent_admitted {A : Adapter (Op σ)} (hA : A.KeepsLedger) {policy : Policy}
    {v : Violation} (hv : v.policyId = policy.id) (t : LiveSession) {s : Store}
    (hs : s.Summarized) (e : σ) :
    let r := Op.exec (warnUnlessRecent W config A policy v t).run s e
    r.1.2.Summarized ∧ LogGrows KillAdmitted s.enforcements r.1.2.enforcements ∧
      (r.1.1.isOk = true → ∃ w ∈ r.1.2.enforcements, w.action = .warn ∧
        w.key = (policy.id, v.serverId, v.actorKey)) := by
  intro r
  rcases warnUnlessRecent_loggedBy hW hA config policy v t s e with
    ⟨hrecent, -, henf, hst⟩ | ⟨-, reason, succeeded, now, -, logged⟩
  · refine ⟨hs.of_same_ledger henf hst, by rw [henf]; exact .refl, fun _ => ?_⟩
    cases hlast : s.lastWarnedAt policy.id v.serverId v.actorKey with
    | none =>
      rw [hlast] at hrecent
      cases hrecent
    | some warnedAt =>
      rw [lastWarnedAt_eq_lastWarnIn hs] at hlast
      obtain ⟨w, hw, hwarn, hkey, -⟩ := exists_warn_of_lastWarnIn hlast
      exact ⟨w, henf ▸ hw, hwarn, hkey⟩
  · refine ⟨logged.summarized hs, logged.grows fun _ _ h => by simp at h, fun hok => ?_⟩
    rw [hok] at logged
    obtain ⟨id, hmem⟩ := logged.mem
    exact ⟨_, hmem, by simp, by simp [hv]⟩

/-- The recheck, started where the log holds a warning about the policy, server and actor, keeps
the summary rows those of the log and logs only stops that pass the check. -/
theorem recheckAndKill_admitted {A : Adapter (Op σ)} (hA : A.KeepsLedger) {policy : Policy}
    (o : Overrides) {v : Violation} {s : Store} (hs : s.Summarized)
    (hwarned : ∃ w ∈ s.enforcements, w.action = .warn ∧
      w.key = (policy.id, v.serverId, v.actorKey)) (e : σ) :
    let r := Op.exec (recheckAndKill W config A policy o v).run s e
    r.1.2.Summarized ∧ LogGrows KillAdmitted s.enforcements r.1.2.enforcements := by
  intro r
  rcases recheckAndKill_loggedBy hW hA config policy o v s e with
    ⟨henf, hst⟩ | ⟨now, s₁, e₁, -, cur, hcur, hsame, target, -, reason, succeeded, now', -, logged⟩
  · refine ⟨hs.of_same_ledger henf hst, ?_⟩
    rw [henf]
    exact .refl
  · have hpid := (Policy.finding_of_mem_evaluate hcur).policyId_eq
    obtain ⟨-, hsid, hactor⟩ := Violation.sameAs_iff.mp hsame
    obtain ⟨w, hw, hwarn, hkey⟩ := hwarned
    exact ⟨logged.summarized hs, logged.grows fun _ _ _ =>
      ⟨w, hw, hwarn, by simp [hkey, hpid, hsid, hactor]⟩⟩

/-- Handling a violation of a policy keeps the summary rows those of the log and logs only stops
that pass the check. -/
theorem handleViolation_admitted {F : ServerConfig → Except ProviderError (Adapter (Op σ))}
    (hF : FactoryKeepsLedger F) {policy : Policy} (o : Overrides) {v : Violation}
    (hv : v.policyId = policy.id) {s : Store} (hs : s.Summarized) (e : σ) :
    let r := Op.exec (handleViolation W F config policy o v) s e
    r.1.2.Summarized ∧ LogGrows KillAdmitted s.enforcements r.1.2.enforcements := by
  intro r
  rcases handleViolation_exec_cases W F config policy o v s e with
    ⟨hr, -⟩ | ⟨row, A, target, err, -, hA, -, hw⟩ |
      ⟨row, A, s₁, e₁, -, hA, ⟨target, warned, -, hw⟩, hr, -⟩
  · rw [hr]
    exact ⟨hs, .refl⟩
  · obtain ⟨hs', hg, -⟩ := warnUnlessRecent_admitted hW config (hF _ _ hA) hv target hs e
    rw [hw] at hs' hg
    exact ⟨hs', hg⟩
  · obtain ⟨hs₁, hg₁, hwarned⟩ := warnUnlessRecent_admitted hW config (hF _ _ hA) hv target hs e
    rw [hw] at hs₁ hg₁ hwarned
    obtain ⟨hs', hg'⟩ := recheckAndKill_admitted hW config (hF _ _ hA) o hs₁ (hwarned rfl) e₁
    rw [hr]
    exact ⟨hs', hg₁.trans hg'⟩

/-- A tick keeps the summary rows those of the log, and every stop it logs passed the check. -/
theorem runTick_admitted {F : ServerConfig → Except ProviderError (Adapter (Op σ))}
    (hF : FactoryKeepsLedger F) {s : Store} (hs : s.Summarized) (e : σ) :
    let r := Op.exec (runTick W F config) s e
    r.1.2.Summarized ∧ LogGrows KillAdmitted s.enforcements r.1.2.enforcements := by
  refine runTick_keeps (fun s₁ _ => s₁.Summarized ∧
    LogGrows KillAdmitted s.enforcements s₁.enforcements) (fun s₁ e₁ h₁ => ?_) ?_ ⟨hs, .refl⟩
  · obtain ⟨henf, hst⟩ := Op.ledger_eq_of_keeps (fun L S => (hW L S).now) s₁ e₁
    exact ⟨h₁.1.of_same_ledger henf hst, henf ▸ h₁.2⟩
  · intro p v _ hv s₁ e₁ h₁
    have hpid := (Policy.finding_of_mem_evaluate hv).policyId_eq
    obtain ⟨hs₂, hg₂⟩ := handleViolation_admitted hW config hF _ hpid h₁.1 e₁
    exact ⟨hs₂, h₁.2.trans hg₂⟩

end Checked

/-! ## Runs of the enforcer -/

/-- Runs of the enforcer from a store and a state of the servers and the world: ticks, and
between them any change that leaves the log and its summary rows alone and moves the servers
and the world as `moves` allows (sessions come and go, policies, servers and settings are
edited, time passes). Retention, which deletes old entries, does not run. -/
inductive EnforcerRun (W : TickWorld (Op σ)) (F : ServerConfig → Except ProviderError (Adapter (Op σ)))
    (config : EnforcerConfig) (moves : σ → σ → Prop) : Store → σ → Store → σ → Prop
  | stop (s : Store) (e : σ) : EnforcerRun W F config moves s e s e
  | tick {s : Store} {e : σ} {s' : Store} {e' : σ} :
      EnforcerRun W F config moves (Op.exec (runTick W F config) s e).1.2
        (Op.exec (runTick W F config) s e).2 s' e' →
      EnforcerRun W F config moves s e s' e'
  | world {s : Store} {e : σ} (s₁ : Store) (e₁ : σ) {s' : Store} {e' : σ}
      (log_eq : s₁.enforcements = s.enforcements) (states_eq : s₁.states = s.states)
      (moved : moves e e₁) :
      EnforcerRun W F config moves s₁ e₁ s' e' → EnforcerRun W F config moves s e s' e'

namespace EnforcerRun

variable {W : TickWorld (Op σ)} {F : ServerConfig → Except ProviderError (Adapter (Op σ))}
  {config : EnforcerConfig} {moves : σ → σ → Prop} {s s' : Store} {e e' : σ}

/-- What every tick keeps, and every change between ticks, a run keeps. -/
theorem keeps (I : Store → σ → Prop)
    (tick : ∀ s e, I s e → I (Op.exec (runTick W F config) s e).1.2 (Op.exec (runTick W F config) s e).2)
    (world : ∀ s e s₁ e₁, s₁.enforcements = s.enforcements → s₁.states = s.states → moves e e₁ →
      I s e → I s₁ e₁)
    (h : EnforcerRun W F config moves s e s' e') (hI : I s e) : I s' e' := by
  induction h with
  | stop => exact hI
  | tick _ ih => exact ih (tick _ _ hI)
  | world s₁ e₁ henf hst hmoved _ ih => exact ih (world _ _ s₁ e₁ henf hst hmoved hI)

/-- Over a run, the summary rows stay those of the log, and every stop logged passed the check. -/
theorem admitted (hW : W.KeepsLedger) (hF : FactoryKeepsLedger F)
    (h : EnforcerRun W F config moves s e s' e') (hs : s.Summarized) :
    s'.Summarized ∧ LogGrows KillAdmitted s.enforcements s'.enforcements := by
  refine h.keeps (fun s₁ _ => s₁.Summarized ∧ LogGrows KillAdmitted s.enforcements s₁.enforcements)
    (fun s₁ e₁ h₁ => ?_) (fun s₁ e₁ s₂ e₂ henf hst _ h₁ => ?_) ⟨hs, .refl⟩
  · obtain ⟨hs₂, hg₂⟩ := runTick_admitted hW config hF h₁.1 e₁
    exact ⟨hs₂, h₁.2.trans hg₂⟩
  · exact ⟨h₁.1.of_same_ledger henf hst, henf ▸ h₁.2⟩

end EnforcerRun

/-! ## The rehearsal -/

/-- A store with one Plex server, a policy that bans 4K transcodes, and one 4K transcode
playing on that server. -/
def transcode4kStore : Store :=
  { servers := [{ id := 1, kind := .plex }]
    policies := [{ ruleType := "ban_4k_transcode", ruleValueJson := "" }]
    live := [{ id := 1, serverId := 1, sessionKey := "a", externalUserId := some "u",
               isTranscode := true, mediaHeight := some 2160, startedAt := 1, lastSeenAt := 0 }] }

theorem transcode4kStore_summarized : transcode4kStore.Summarized := rfl

theorem rehearsalWorld_now_exec (s : Store) (e : Stage) :
    Op.exec rehearsalWorld.now s e = ((e.clock, s), e) := rfl

theorem rehearsalWorld_instant_exec (s : Store) (e : Stage) :
    Op.exec rehearsalWorld.instant s e = ((e.clock, s), e) := rfl

theorem rehearsalWorld_pause_exec (ms : Int) (s : Store) (e : Stage) :
    Op.exec (rehearsalWorld.pause ms) s e =
      if e.cancelled then ((true, s), e) else ((false, s), { e with clock := e.clock + max ms 0 }) := by
  rcases e with ⟨scripts, messageReply, terminateReply, clearOnMessage, calls, clock, _ | _⟩ <;> rfl

/-- The rehearsal's world keeps what a pause's wait keeps: it only moves the rehearsal's
clock. -/
theorem rehearsalWorld_keeps {I : Store → Stage → Prop}
    (hI : ∀ s e ms, I s e → I s { e with clock := e.clock + max ms 0 }) : rehearsalWorld.Keeps I where
  now s e h := by
    rw [rehearsalWorld_now_exec]
    exact h
  instant s e h := by
    rw [rehearsalWorld_instant_exec]
    exact h
  pause ms s e h := by
    rw [rehearsalWorld_pause_exec]
    split
    · exact h
    · exact hI s e ms h

theorem rehearsalWorld_keepsLedger : rehearsalWorld.KeepsLedger :=
  fun _ _ => rehearsalWorld_keeps fun _ _ _ h => h

/-- The scripted servers keep what is blind to their record of calls, to the session a message
makes vanish, and to the live sessions. -/
theorem scriptedFactory_keeps {I : Store → Stage → Prop}
    (hI : ∀ s e s' e', s'.enforcements = s.enforcements → s'.states = s.states →
      e'.clock = e.clock → e'.cancelled = e.cancelled → I s e → I s' e') :
    ∀ server A, scriptedFactory server = .ok A → A.Keeps I := by
  intro server A hA
  have hA' : A = scriptedAdapter server :=
    (Except.ok.inj (hA : Except.ok (scriptedAdapter server) = .ok A)).symm
  subst hA'
  constructor
  · intro key title text ms s e h
    rcases e with ⟨scripts, messageReply, terminateReply, _ | gone, calls, clock, cancelled⟩ <;>
      refine hI s _ _ _ ?_ ?_ ?_ ?_ h <;> rfl
  · intro key reason s e h
    exact hI s e _ _ rfl rfl rfl rfl h

/-- The servers of a rehearsal leave the log alone: a message may only make a session vanish
from the live table. -/
theorem scriptedFactory_keepsLedger : FactoryKeepsLedger scriptedFactory :=
  fun server A hA _ _ => scriptedFactory_keeps
    (fun _ _ _ _ henf hst _ _ h => ⟨henf.trans h.1, hst.trans h.2⟩) server A hA

/-! ## Kills follow warnings -/

/-- Every kill the log holds past its first `n` entries comes after a warning about the same
policy, server and actor. -/
def KillsWarned (n : Nat) (log : List EnforcementRow) : Prop :=
  ∀ pre r post, log = pre ++ r :: post → n ≤ pre.length → r.action = .kill →
    ∃ w ∈ pre, w.action = .warn ∧ w.key = r.key

variable {W : TickWorld (Op σ)} {F : ServerConfig → Except ProviderError (Adapter (Op σ))}
  {config : EnforcerConfig}

/-- A handler logs a kill only once the recheck, after its pause, found the violation again in
the live view it read: the kill is about the violation's key and one of the sessions found. -/
theorem handleViolation_kills_rechecked (hW : W.KeepsLedger) (hF : FactoryKeepsLedger F)
    (policy : Policy) (o : Overrides) (v : Violation) (s : Store) (e : σ) :
    ∀ k ∈ (Op.exec (handleViolation W F config policy o v) s e).1.2.enforcements.drop
        s.enforcements.length, k.action = .kill →
      ∃ row A s₁ e₁, s.server? v.serverId = some row ∧ F row.config = .ok A ∧
        ReachesRecheck W config A policy v s e s₁ e₁ ∧
        ∃ now s₂ e₂, RecheckSees W config s₁ e₁ now s₂ e₂ ∧
          ∃ cur ∈ policy.evaluate (s₂.liveView (liveSince config now)) o, cur.sameAs v = true ∧
            k.key = (policy.id, v.serverId, v.actorKey) ∧
            ∃ t ∈ cur.sessions, k.sessionKey = t.sessionKey := by
  intro k hk hkill
  rcases handleViolation_exec_cases W F config policy o v s e with
    ⟨hr, -⟩ | ⟨row, A, target, err, -, hA, -, hw⟩ | ⟨row, A, s₁, e₁, hrow, hA, hreach, hr, -⟩
  · rw [hr, List.drop_length] at hk
    cases hk
  · have hg := warnUnlessRecent_logs_warnings hW (hF _ _ hA) config policy v target s e
    rw [hw] at hg
    rw [hg.forall_drop k hk] at hkill
    cases hkill
  · obtain ⟨target, warned, htarget, hw⟩ := hreach
    have hg₁ := warnUnlessRecent_logs_warnings hW (hF _ _ hA) config policy v target s e
    rw [hw] at hg₁
    have hg₂ := recheckAndKill_logs_kills hW (hF _ _ hA) config policy o v s₁ e₁
    rw [← hr] at hg₂
    have hg := (hg₁.mono fun _ _ h => Or.inl h).trans (hg₂.mono fun _ _ h => Or.inr h)
    rcases hg.forall_drop k hk with hwarn | ⟨now, s₂, e₂, hsees, cur, hcur, hsame, -, hkey, t, ht,
      hsk⟩
    · rw [hwarn] at hkill
      cases hkill
    · have hpid := (Policy.finding_of_mem_evaluate hcur).policyId_eq
      obtain ⟨-, hsid, hactor⟩ := Violation.sameAs_iff.mp hsame
      exact ⟨row, A, s₁, e₁, hrow, hA, ⟨target, warned, htarget, hw⟩, now, s₂, e₂, hsees, cur,
        hcur, hsame, by rw [hkey, hpid, hsid, hactor], t, ht, hsk⟩

/-- A kill comes after a warning. Over any run of the enforcer from a store whose summary rows are
those of its log, the log only grows and every kill it gains follows a warning with its key; a
handler logs a kill only for a session of the same violation, found again by the policy over the
live view read after the recheck pause. -/
theorem kill_follows_warning (hW : W.KeepsLedger) (hF : FactoryKeepsLedger F) :
    (∀ {moves : σ → σ → Prop} {s : Store} {e : σ} {s' : Store} {e' : σ},
      EnforcerRun W F config moves s e s' e' → s.Summarized →
        s.enforcements <+: s'.enforcements ∧
          KillsWarned s.enforcements.length s'.enforcements) ∧
    (∀ (policy : Policy) (o : Overrides) (v : Violation) (s : Store) (e : σ),
      ∀ k ∈ (Op.exec (handleViolation W F config policy o v) s e).1.2.enforcements.drop
          s.enforcements.length, k.action = .kill →
        ∃ row A s₁ e₁, s.server? v.serverId = some row ∧ F row.config = .ok A ∧
          ReachesRecheck W config A policy v s e s₁ e₁ ∧
          ∃ now s₂ e₂, RecheckSees W config s₁ e₁ now s₂ e₂ ∧
            ∃ cur ∈ policy.evaluate (s₂.liveView (liveSince config now)) o, cur.sameAs v = true ∧
              k.key = (policy.id, v.serverId, v.actorKey) ∧
              ∃ t ∈ cur.sessions, k.sessionKey = t.sessionKey) := by
  refine ⟨fun hrun hs => ?_, handleViolation_kills_rechecked hW hF⟩
  obtain ⟨-, hg⟩ := hrun.admitted hW hF hs
  obtain ⟨N, hN⟩ := hg.exists_append
  exact ⟨⟨N, hN.symm⟩, fun pre r post hlog hlen hkill => hg.admitted hlog hlen hkill⟩

/-- A rehearsal meets the law: a tick of the rehearsal on the store with a 4K transcode warns
and then stops, and the stop comes after the warning. -/
theorem rehearsal_kill_follows_warning :
    EnforcerRun rehearsalWorld scriptedFactory {} (fun _ _ => True) transcode4kStore {}
        (Op.exec (runTick rehearsalWorld scriptedFactory {}) transcode4kStore {}).1.2
        (Op.exec (runTick rehearsalWorld scriptedFactory {}) transcode4kStore {}).2 ∧
      (Op.exec (runTick rehearsalWorld scriptedFactory {}) transcode4kStore
        {}).1.2.enforcements.map (·.action) = [.warn, .kill] ∧
      transcode4kStore.enforcements <+:
        (Op.exec (runTick rehearsalWorld scriptedFactory {}) transcode4kStore {}).1.2.enforcements ∧
      KillsWarned transcode4kStore.enforcements.length
        (Op.exec (runTick rehearsalWorld scriptedFactory {}) transcode4kStore {}).1.2.enforcements := by
  have hrun : EnforcerRun rehearsalWorld scriptedFactory {} (fun _ _ => True) transcode4kStore {}
      (Op.exec (runTick rehearsalWorld scriptedFactory {}) transcode4kStore {}).1.2
      (Op.exec (runTick rehearsalWorld scriptedFactory {}) transcode4kStore {}).2 :=
    .tick (.stop _ _)
  exact ⟨hrun, by decide +kernel, (kill_follows_warning rehearsalWorld_keepsLedger
    scriptedFactory_keepsLedger).1 hrun transcode4kStore_summarized⟩

end StreamWarden
