import StreamWarden.Proofs.TickReport
import StreamWarden.Proofs.Routing

/-!
# A tick started after shutdown was requested

Shutdown is seen only at a pause, and the first pause of a handler comes after its warning
stage, before the recheck. A tick started once shutdown was requested, in a world where the
request is never taken back, therefore handles its violations as usual until one of them reaches
that pause: the ones before it had no session or server to act on, or failed before the pause (a
failed warning logs nothing), and the tick stops there. So it logs at most one entry, a warning;
it stops no session and sends no pre-kill message, both coming after the pause; and it counts no
kill and nothing cleared. It is abandoned exactly when some violation reached the pause, and
then handles nothing after it.

Main statement: `cancelled_tick_stops_at_first_pause`. The loop facts it rests on
(`handleEach_abandoned_iff`, `handleEach_exec_append`) hold of every tick.
-/

namespace StreamWarden

variable {σ : Type}

/-! ## Failures of logging are never shutdowns -/

theorem Store.recordAction_ne_unavailable (s : Store) (entry : EnforcementEntry) (now : Int) :
    s.recordAction entry now ≠ .error .unavailable := by
  unfold Store.recordAction
  split <;> simp [Constraint.toAppError]

theorem logAction_exec_ne_unavailable (W : TickWorld (Op σ)) (entry : EnforcementEntry)
    (s : Store) (e : σ) :
    (Op.exec (logAction W entry).run s e).1.1 ≠ .error .unavailable := by
  rw [logAction_exec]
  dsimp only
  have hne := (Op.exec W.now s e).1.2.recordAction_ne_unavailable entry (Op.exec W.now s e).1.1
  cases h : (Op.exec W.now s e).1.2.recordAction entry (Op.exec W.now s e).1.1 with
  | error err =>
    rw [h] at hne
    simpa using hne
  | ok s' => simp

theorem warnUnlessRecent_exec_ne_unavailable (W : TickWorld (Op σ)) (config : EnforcerConfig)
    (A : Adapter (Op σ)) (policy : Policy) (v : Violation) (t : LiveSession) (s : Store) (e : σ) :
    (Op.exec (warnUnlessRecent W config A policy v t).run s e).1.1 ≠ .error .unavailable := by
  have hwarn : ∀ s e, (Op.exec (warnActor W config A v t).run s e).1.1 ≠ .error .unavailable := by
    intro s e
    rw [warnActor_exec]
    cases A.kind with
    | plex => exact logAction_exec_ne_unavailable _ _ _ _
    | jellyfin => exact logAction_exec_ne_unavailable _ _ _ _
  rw [warnUnlessRecent_exec]
  dsimp only
  split
  · simp
  · have hne := hwarn (Op.exec W.now s e).1.2 (Op.exec W.now s e).2
    generalize Op.exec (warnActor W config A v t).run (Op.exec W.now s e).1.2
      (Op.exec W.now s e).2 = run at hne
    rcases run with ⟨⟨err | _, s'⟩, e'⟩
    · simpa using hne
    · simp

/-! ## Shutdown requested -/

/-- Shutdown is requested in every state of the servers that `down` holds of: every pause then
ends in shutdown, and neither the world nor any adapter the factory builds takes the request
back. -/
structure ShutdownRequested (W : TickWorld (Op σ))
    (F : ServerConfig → Except ProviderError (Adapter (Op σ))) (down : σ → Prop) : Prop where
  pause : ∀ ms s e, down e → (Op.exec (W.pause ms) s e).1.1 = true
  world : W.Keeps fun _ e => down e
  adapters : ∀ server A, F server = .ok A → A.Keeps fun _ e => down e

/-- Recording the calls to the servers changes nothing of a shutdown request. -/
theorem ShutdownRequested.beside {W : TickWorld (Op σ)}
    {F : ServerConfig → Except ProviderError (Adapter (Op σ))} {down : σ → Prop}
    (h : ShutdownRequested W F down) :
    ShutdownRequested W.beside (recordCalls F) fun et : σ × List ServerCall => down et.1 where
  pause ms s et hd := h.pause ms s et.1 hd
  world := ⟨fun s et hd => h.world.now s et.1 hd, fun s et hd => h.world.instant s et.1 hd,
    fun ms s et hd => h.world.pause ms s et.1 hd⟩
  adapters server B hB := by
    obtain ⟨A, hA, rfl⟩ := recordCalls_eq_ok.mp hB
    exact ⟨fun key title text ms s et hd => (h.adapters server A hA).sendMessage key title text ms
      s et.1 hd, fun key reason s et hd => (h.adapters server A hA).terminate key reason s et.1 hd⟩

/-- In a rehearsal, shutdown is requested once the stage is cancelled. -/
theorem rehearsal_shutdownRequested :
    ShutdownRequested rehearsalWorld scriptedFactory fun e => e.cancelled = true where
  pause ms s e hd := by
    rw [rehearsalWorld_pause_exec, if_pos hd]
  world := rehearsalWorld_keeps fun _ _ _ h => h
  adapters := scriptedFactory_keeps fun _ _ _ _ _ _ _ hc h => hc.trans h

/-! ## Reaching the pause -/

/-- Handling violation `v` of `policy` from `(s, e)` reaches the pause before its recheck, at
`(s₁, e₁)`: the violation has a session to act on and a server whose adapter the factory builds,
and its warning stage ended at `(s₁, e₁)` without failure. -/
def ReachesPause (W : TickWorld (Op σ)) (F : ServerConfig → Except ProviderError (Adapter (Op σ)))
    (config : EnforcerConfig) (policy : Policy) (v : Violation) (s : Store) (e : σ) (s₁ : Store)
    (e₁ : σ) : Prop :=
  ∃ row A, s.server? v.serverId = some row ∧ F row.config = .ok A ∧
    ReachesRecheck W config A policy v s e s₁ e₁

section Pause

variable {W : TickWorld (Op σ)} {F : ServerConfig → Except ProviderError (Adapter (Op σ))}
  {config : EnforcerConfig} {policy : Policy} {v : Violation} {s : Store} {e : σ}

/-- The pause is reached at one place only. -/
theorem ReachesPause.unique {s₁ s₂ : Store} {e₁ e₂ : σ}
    (h₁ : ReachesPause W F config policy v s e s₁ e₁)
    (h₂ : ReachesPause W F config policy v s e s₂ e₂) : s₁ = s₂ ∧ e₁ = e₂ := by
  obtain ⟨row, A, hrow, hA, target, w, htarget, hw⟩ := h₁
  obtain ⟨row', A', hrow', hA', target', w', htarget', hw'⟩ := h₂
  rw [hrow] at hrow'
  cases hrow'
  rw [hA] at hA'
  cases hA'
  rw [htarget] at htarget'
  cases htarget'
  rw [hw] at hw'
  cases hw'
  exact ⟨rfl, rfl⟩

variable {down : σ → Prop} (hdown : ShutdownRequested W F down)
include hdown

/-- Once shutdown was requested, handling a violation either reaches the pause, where it stops
the tick and ends where the pause ends, or warns nothing and goes on: it had no session or server
to act on, no adapter, or its warning failed. -/
theorem handleViolation_exec_shutdown (o : Overrides) (he : down e) :
    let h := Op.exec (handleViolation W F config policy o v) s e
    (∃ s₁ e₁, ReachesPause W F config policy v s e s₁ e₁ ∧
      h.1.2 = (Op.exec (W.pause config.recheckDelayMs) s₁ e₁).1.2 ∧
      h.2 = (Op.exec (W.pause config.recheckDelayMs) s₁ e₁).2 ∧ h.1.1.2 = .error .unavailable) ∨
    (h.1.1.1 = false ∧ stopsTick h.1.1.2 = false ∧ h.1.1.2.toOption ≠ some .cleared ∧
      h.1.1.2.toOption ≠ some .killed ∧ h.1.1.2.toOption ≠ some .killFailed ∧
      ∀ s₁ e₁, ¬ReachesPause W F config policy v s e s₁ e₁) := by
  intro h
  simp only [h, handleViolation_exec]
  rcases htarget : selectTarget v.sessions v.selector with _ | target
  · refine .inr ⟨rfl, rfl, by simp, by simp, by simp, ?_⟩
    rintro s₁ e₁ ⟨row, A, -, -, target, w, htarget', -⟩
    rw [htarget] at htarget'
    cases htarget'
  rcases hrow : s.server? v.serverId with _ | row
  · refine .inr ⟨rfl, rfl, by simp, by simp, by simp, ?_⟩
    rintro s₁ e₁ ⟨row, A, hrow', -⟩
    rw [hrow] at hrow'
    cases hrow'
  dsimp only
  rcases hA : F row.config with err | A
  · refine .inr ⟨rfl, rfl, by simp, by simp, by simp, ?_⟩
    rintro s₁ e₁ ⟨row', A, hrow', hA', -⟩
    rw [hrow] at hrow'
    cases hrow'
    rw [hA] at hA'
    cases hA'
  dsimp only
  have hne := warnUnlessRecent_exec_ne_unavailable W config A policy v target s e
  have hkeep := warnUnlessRecent_keeps hdown.world (RecordKeeps.servers down) config
    (hdown.adapters _ _ hA) policy v target s e he
  rcases hw : Op.exec (warnUnlessRecent W config A policy v target).run s e with
    ⟨⟨err | w, s₁⟩, e₁⟩
  · rw [hw] at hne
    refine .inr ⟨rfl, ?_, by simp, by simp, by simp, ?_⟩
    · cases err <;> simp_all [stopsTick]
    · rintro s₂ e₂ ⟨row', A', hrow', hA', target', w', htarget', hw'⟩
      rw [hrow] at hrow'
      cases hrow'
      rw [hA] at hA'
      cases hA'
      rw [htarget] at htarget'
      cases htarget'
      rw [hw] at hw'
      cases hw'
  · rw [hw] at hkeep
    have hpause := hdown.pause config.recheckDelayMs s₁ e₁ hkeep
    refine .inl ⟨s₁, e₁, ⟨row, A, hrow, hA, target, w, htarget, hw⟩, ?_⟩
    simp only [recheckAndKill_exec, hpause, if_true, and_self]

/-- Once shutdown was requested, a handler stops the tick exactly when it reaches the pause. -/
theorem stopsTick_shutdown_iff (o : Overrides) (he : down e) :
    stopsTick (Op.exec (handleViolation W F config policy o v) s e).1.1.2 = true ↔
      ∃ s₁ e₁, ReachesPause W F config policy v s e s₁ e₁ := by
  rcases handleViolation_exec_shutdown hdown o he with
    ⟨s₁, e₁, hreach, -, -, hstop⟩ | ⟨-, hgo, -, -, -, hnot⟩
  · rw [hstop]
    exact ⟨fun _ => ⟨_, _, hreach⟩, fun _ => rfl⟩
  · rw [hgo]
    exact ⟨fun h => absurd h Bool.false_ne_true, fun ⟨s₁, e₁, h⟩ => absurd h (hnot s₁ e₁)⟩

/-- Once shutdown was requested, a handler that reaches the pause ends where the pause ends, and
stops the tick. -/
theorem handleViolation_exec_of_reachesPause (o : Overrides) (he : down e) {s₁ : Store} {e₁ : σ}
    (hreach : ReachesPause W F config policy v s e s₁ e₁) :
    let h := Op.exec (handleViolation W F config policy o v) s e
    h.1.2 = (Op.exec (W.pause config.recheckDelayMs) s₁ e₁).1.2 ∧
      h.2 = (Op.exec (W.pause config.recheckDelayMs) s₁ e₁).2 ∧ stopsTick h.1.1.2 = true := by
  intro h
  rcases handleViolation_exec_shutdown hdown o he with
    ⟨s₂, e₂, hreach', hs, he', hstop⟩ | ⟨-, -, -, -, -, hnot⟩
  · obtain ⟨rfl, rfl⟩ := hreach'.unique hreach
    exact ⟨hs, he', by simp only [h, hstop]; rfl⟩
  · exact absurd hreach (hnot s₁ e₁)

end Pause

/-! ## The loop up to its stop -/

section Loop

variable {W : TickWorld (Op σ)} {F : ServerConfig → Except ProviderError (Adapter (Op σ))}
  {config : EnforcerConfig} {o : Overrides}

/-- Handling two lists of violations is handling the first, then, unless it stopped, the
second from where it left the report, the store and the servers. -/
theorem handleEach_exec_append (L₁ L₂ : List (Policy × Violation)) (report : TickReport)
    (s : Store) (e : σ) (hr : report.abandoned = false) :
    Op.exec (handleEach W F config o (L₁ ++ L₂) report) s e =
      let r₁ := Op.exec (handleEach W F config o L₁ report) s e
      if r₁.1.1.abandoned then r₁
      else Op.exec (handleEach W F config o L₂ r₁.1.1) r₁.1.2 r₁.2 := by
  induction L₁ generalizing report s e with
  | nil => simp [handleEach_exec_nil, hr]
  | cons pv rest ih =>
    obtain ⟨policy, v⟩ := pv
    rw [List.cons_append, handleEach_exec_cons_count, handleEach_exec_cons_count]
    dsimp only
    by_cases hstop : stopsTick (Op.exec (handleViolation W F config policy o v) s e).1.1.2 = true
    · simp [hstop, TickReport.count]
    · rw [if_neg hstop, if_neg hstop, ih _ _ _ (by simp [TickReport.count, hstop, hr])]

variable (W F config o) in
/-- What handling violations does to the store and the servers, and whether it stops, does not
depend on the report it adds to. -/
theorem handleEach_exec_congr_report (work : List (Policy × Violation)) (r r' : TickReport)
    (hr : r.abandoned = r'.abandoned) (s : Store) (e : σ) :
    let a := Op.exec (handleEach W F config o work r) s e
    let b := Op.exec (handleEach W F config o work r') s e
    a.1.2 = b.1.2 ∧ a.2 = b.2 ∧ a.1.1.abandoned = b.1.1.abandoned := by
  induction work generalizing r r' s e with
  | nil => exact ⟨rfl, rfl, hr⟩
  | cons pv rest ih =>
    obtain ⟨policy, v⟩ := pv
    simp only [handleEach_exec_cons_count]
    split
    · exact ⟨rfl, rfl, by simp [TickReport.count, *]⟩
    · exact ih _ _ (by simp [TickReport.count, *]) _ _

/-- The loop stops exactly when, after the violations before some violation were handled
without stopping, that violation's handler stops it. -/
theorem handleEach_abandoned_iff (work : List (Policy × Violation)) (report : TickReport)
    (s : Store) (e : σ) (hr : report.abandoned = false) :
    (Op.exec (handleEach W F config o work report) s e).1.1.abandoned = true ↔
      ∃ pre pv post, work = pre ++ pv :: post ∧
        (Op.exec (handleEach W F config o pre report) s e).1.1.abandoned = false ∧
        stopsTick (Op.exec (handleViolation W F config pv.1 o pv.2)
          (Op.exec (handleEach W F config o pre report) s e).1.2
          (Op.exec (handleEach W F config o pre report) s e).2).1.1.2 = true := by
  induction work generalizing report s e with
  | nil =>
    simp only [handleEach_exec_nil, hr, Bool.false_eq_true, false_iff, not_exists, not_and]
    intro pre pv post h
    simp at h
  | cons pv rest ih =>
    obtain ⟨policy, v⟩ := pv
    rw [handleEach_exec_cons_count]
    dsimp only
    by_cases hstop : stopsTick (Op.exec (handleViolation W F config policy o v) s e).1.1.2 = true
    · simp only [hstop, if_true, TickReport.count, true_iff]
      exact ⟨[], (policy, v), rest, rfl, hr, hstop⟩
    · rw [if_neg hstop, ih _ _ _ (by simp [TickReport.count, hstop, hr])]
      constructor
      · rintro ⟨pre, pv, post, rfl, hpre, hpv⟩
        refine ⟨(policy, v) :: pre, pv, post, rfl, ?_, ?_⟩ <;>
          simpa only [handleEach_exec_cons_count, hstop, Bool.false_eq_true, if_false]
      · rintro ⟨pre, pv, post, hwork, hpre, hpv⟩
        cases pre with
        | nil =>
          obtain ⟨rfl, -⟩ := List.cons.inj hwork
          exact absurd hpv hstop
        | cons q pre =>
          obtain ⟨rfl, rfl⟩ := List.cons.inj hwork
          simp only [handleEach_exec_cons_count, hstop, Bool.false_eq_true, if_false] at hpre hpv
          exact ⟨pre, pv, post, rfl, hpre, hpv⟩

/-- Once a violation stops the loop, nothing after it is handled: the loop ends where its handler
ended, having counted it and those before it. -/
theorem handleEach_exec_of_stop {pre : List (Policy × Violation)} {pv : Policy × Violation}
    (post : List (Policy × Violation)) (report : TickReport) (s : Store) (e : σ)
    (hr : report.abandoned = false)
    (hpre : (Op.exec (handleEach W F config o pre report) s e).1.1.abandoned = false)
    (hstop : stopsTick (Op.exec (handleViolation W F config pv.1 o pv.2)
      (Op.exec (handleEach W F config o pre report) s e).1.2
      (Op.exec (handleEach W F config o pre report) s e).2).1.1.2 = true) :
    let r := Op.exec (handleEach W F config o (pre ++ pv :: post) report) s e
    let h := Op.exec (handleViolation W F config pv.1 o pv.2)
      (Op.exec (handleEach W F config o pre report) s e).1.2
      (Op.exec (handleEach W F config o pre report) s e).2
    r.1.2 = h.1.2 ∧ r.2 = h.2 ∧ r.1.1.violations = report.violations + pre.length + 1 := by
  intro r h
  have hviol := handleEach_violations pre report s e hpre
  obtain ⟨policy, v⟩ := pv
  simp only [r, handleEach_exec_append pre _ report s e hr, hpre, Bool.false_eq_true, if_false,
    handleEach_exec_cons_count]
  rw [if_pos hstop]
  exact ⟨rfl, rfl, by simp [TickReport.count, hviol]⟩

end Loop

/-! ## The loop once shutdown was requested -/

section Shutdown

variable {W : TickWorld (Op σ)} {F : ServerConfig → Except ProviderError (Adapter (Op σ))}
  {down : σ → Prop} (hdown : ShutdownRequested W F down) {config : EnforcerConfig}
  {o : Overrides}
include hdown

variable (config o) in
/-- Once shutdown was requested, the loop logs at most one entry, a warning, and counts nothing
cleared or stopped. -/
theorem handleEach_shutdown_logs (hW : W.KeepsLedger) (hF : FactoryKeepsLedger F)
    (work : List (Policy × Violation)) (report : TickReport) (s : Store) (e : σ) (he : down e) :
    let r := Op.exec (handleEach W F config o work report) s e
    ∃ N, r.1.2.enforcements = s.enforcements ++ N ∧ N.length ≤ 1 ∧
      (∀ k ∈ N, k.action = .warn) ∧ r.1.1.cleared = report.cleared ∧
      r.1.1.killed = report.killed := by
  induction work generalizing report s e with
  | nil => exact ⟨[], by simp [handleEach_exec_nil], by simp, by simp, rfl, rfl⟩
  | cons pv rest ih =>
    obtain ⟨policy, v⟩ := pv
    intro r
    obtain ⟨M, hM, ht⟩ := handleViolation_tallies hW hF config policy o v s e
    have hkeep := handleViolation_keeps hdown.world (RecordKeeps.servers down) hdown.adapters
      config policy o v s e he
    simp only [r, handleEach_exec_cons_count]
    rcases handleViolation_exec_shutdown hdown o he with
      ⟨-, -, -, -, -, hstop⟩ | ⟨hw, hgo, hc, hk, hf, -⟩
    · rw [hstop] at ht ⊢
      obtain ⟨hlen, hwarn⟩ := ht.of_no_stop (by simp) (by simp)
      refine ⟨M, hM, by split at hlen <;> omega, hwarn, ?_, ?_⟩ <;>
        simp [stopsTick, TickReport.count]
    · rw [hw] at ht
      obtain ⟨hlen, -⟩ := ht.of_no_stop hk hf
      have hnil : M = [] := List.eq_nil_of_length_eq_zero (by simpa using hlen)
      rw [hnil, List.append_nil] at hM
      rw [if_neg (by simp [hgo])]
      obtain ⟨N, hN, hlenN, hwarnN, hcl, hki⟩ := ih (report.count _ _) _ _ hkeep
      refine ⟨N, hN.trans (by rw [hM]), hlenN, hwarnN, ?_, ?_⟩
      · rw [hcl]
        simp [TickReport.count, hc]
      · rw [hki]
        simp [TickReport.count, hk]

omit hdown in
variable (W config) in
/-- A warning asks at most one thing of the servers: its message. -/
theorem warnActor_records (A : Adapter (Op σ)) (server : ServerConfig) (v : Violation)
    (t : LiveSession) (s : Store) (et : σ × List ServerCall) :
    let r := Op.exec (warnActor W.beside config (A.recorded server) v t).run s et
    r.2.2 = et.2 ∨
      r.2.2 = et.2 ++ [.message server (Jellyfin.controlSessionId t.sessionKey t.raw)] := by
  intro r
  simp only [r, warnActor_exec, recorded_kind]
  cases A.kind with
  | plex => exact .inl (logAction_calls W _ _ _)
  | jellyfin =>
    dsimp only
    obtain ⟨succeeded, reason⟩ := warnDelivery v (Op.exec ((A.recorded server).sendMessage
      (Jellyfin.controlSessionId t.sessionKey t.raw) v.warnTitle v.warnText
      config.warnToastTimeoutMs) s et).1.1
    rw [logAction_calls, recorded_sendMessage_calls]
    exact .inr rfl

omit hdown in
variable (W config) in
/-- A warning stage asks at most one thing of the servers: its message. -/
theorem warnUnlessRecent_records (A : Adapter (Op σ)) (server : ServerConfig) (policy : Policy)
    (v : Violation) (t : LiveSession) (s : Store) (et : σ × List ServerCall) :
    let r := Op.exec (warnUnlessRecent W.beside config (A.recorded server) policy v t).run s et
    r.2.2 = et.2 ∨
      r.2.2 = et.2 ++ [.message server (Jellyfin.controlSessionId t.sessionKey t.raw)] := by
  intro r
  cases hrecent : warnedRecently config (s.lastWarnedAt policy.id v.serverId v.actorKey)
    (Op.exec W.beside.now s et).1.1
  · obtain ⟨-, -, hservers⟩ := warnUnlessRecent_exec_warned W.beside config (A.recorded server)
      policy v t s et hrecent
    simp only [r, hservers]
    exact warnActor_records W config A server v t _ _
  · simp only [r, warnUnlessRecent_exec, hrecent, if_true]
    exact .inl rfl

variable (config o) in
/-- Once shutdown was requested, a handler asks at most one thing of the servers: the warning
message to the client of the session it selected, through its server's adapter. -/
theorem handleViolation_records_shutdown (policy : Policy) (v : Violation) (s : Store) (e : σ)
    (calls : List ServerCall) (he : down e) :
    let h := Op.exec (handleViolation W.beside (recordCalls F) config policy o v) s (e, calls)
    h.2.2 = calls ∨ ∃ row t, s.server? v.serverId = some row ∧
      selectTarget v.sessions v.selector = some t ∧
      h.2.2 = calls ++ [.message row.config (Jellyfin.controlSessionId t.sessionKey t.raw)] := by
  intro h
  simp only [h, handleViolation_exec]
  rcases htarget : selectTarget v.sessions v.selector with _ | target
  · exact .inl rfl
  rcases hrow : s.server? v.serverId with _ | row
  · exact .inl rfl
  dsimp only
  rcases hB : recordCalls F row.config with err | B
  · exact .inl rfl
  obtain ⟨A, -, rfl⟩ := recordCalls_eq_ok.mp hB
  dsimp only
  have hrec := warnUnlessRecent_records W config A row.config policy v target s (e, calls)
  have hkeep := warnUnlessRecent_keeps hdown.beside.world (RecordKeeps.servers _) config
    (hdown.beside.adapters _ _ hB) policy v target s (e, calls) he
  rcases hw : Op.exec (warnUnlessRecent W.beside config (A.recorded row.config) policy v
      target).run s (e, calls) with ⟨⟨err | w, s₁⟩, et₁⟩
  · rw [hw] at hrec
    rcases hrec with hrec | hrec
    · exact .inl hrec
    · exact .inr ⟨row, target, rfl, rfl, hrec⟩
  · rw [hw] at hrec hkeep
    have hpause := hdown.beside.pause config.recheckDelayMs s₁ et₁ hkeep
    simp only [recheckAndKill_exec, hpause, if_true]
    rcases hrec with hrec | hrec
    · exact .inl hrec
    · exact .inr ⟨row, target, rfl, rfl, hrec⟩

variable (config o) in
/-- Once shutdown was requested, the loop asks at most one thing of the servers per violation it
handles: the warning message to the client of the session selected for one of its violations,
through the adapter of that violation's server. -/
theorem handleEach_records_shutdown (work : List (Policy × Violation)) (report : TickReport)
    (s : Store) (e : σ) (calls : List ServerCall) (he : down e) :
    let r := Op.exec (handleEach W.beside (recordCalls F) config o work report) s (e, calls)
    ∃ made, r.2.2 = calls ++ made ∧ report.violations + made.length ≤ r.1.1.violations ∧
      ∀ call ∈ made, ∃ pv ∈ work, ∃ (row : ServerRow) (t : LiveSession),
        selectTarget pv.2.sessions pv.2.selector = some t ∧ row.id = pv.2.serverId ∧
        call = .message row.config (Jellyfin.controlSessionId t.sessionKey t.raw) := by
  induction work generalizing report s e calls with
  | nil => exact ⟨[], by simp [handleEach_exec_nil], by simp [handleEach_exec_nil], by simp⟩
  | cons pv rest ih =>
    obtain ⟨policy, v⟩ := pv
    intro r
    have hrec := handleViolation_records_shutdown hdown config o policy v s e calls he
    have hkeep := handleViolation_keeps hdown.beside.world (RecordKeeps.servers _)
      hdown.beside.adapters config policy o v s (e, calls) he
    obtain ⟨first, hfirst, hlen, hfirstMem⟩ : ∃ first,
        (Op.exec (handleViolation W.beside (recordCalls F) config policy o v) s
          (e, calls)).2.2 = calls ++ first ∧ first.length ≤ 1 ∧
        ∀ call ∈ first, ∃ (row : ServerRow) (t : LiveSession),
          selectTarget v.sessions v.selector = some t ∧ row.id = v.serverId ∧
          call = .message row.config (Jellyfin.controlSessionId t.sessionKey t.raw) := by
      rcases hrec with hrec | ⟨row, t, hrow, ht, hrec⟩
      · exact ⟨[], by simpa using hrec, by simp, by simp⟩
      · refine ⟨_, hrec, by simp, fun call hc => ⟨row, t, ht, Store.server?_id hrow, ?_⟩⟩
        simpa using hc
    simp only [r, handleEach_exec_cons_count]
    generalize Op.exec (handleViolation W.beside (recordCalls F) config policy o v) s
      (e, calls) = h at hfirst hkeep
    obtain ⟨⟨⟨w, outcome⟩, s₁⟩, e₁, calls₁⟩ := h
    simp only at hfirst hkeep
    subst hfirst
    split
    · refine ⟨first, rfl, by simp only [TickReport.count]; omega, fun call hc => ?_⟩
      exact ⟨(policy, v), List.mem_cons_self, hfirstMem call hc⟩
    · obtain ⟨made, hmade, hcount, hmadeMem⟩ :=
        ih (report.count w outcome) s₁ e₁ (calls ++ first) hkeep
      refine ⟨first ++ made, by rw [hmade, List.append_assoc], ?_, fun call hc => ?_⟩
      · have hone : (report.count w outcome).violations = report.violations + 1 := rfl
        simp only [List.length_append]
        omega
      · rcases List.mem_append.mp hc with hc | hc
        · exact ⟨(policy, v), List.mem_cons_self, hfirstMem call hc⟩
        · obtain ⟨pv, hpv, rest'⟩ := hmadeMem call hc
          exact ⟨pv, List.mem_cons_of_mem _ hpv, rest'⟩

variable (config o) in
/-- Once shutdown was requested, a loop that reaches the pause at a violation, after handling
those before it without stopping, ends where that pause ends, having counted it and those
before it. -/
theorem handleEach_ends_at_pause {pre : List (Policy × Violation)} {pv : Policy × Violation}
    (post : List (Policy × Violation)) (report : TickReport) (s : Store) (e : σ) (he : down e)
    (hr : report.abandoned = false)
    (hpre : (Op.exec (handleEach W F config o pre report) s e).1.1.abandoned = false)
    {s₁ : Store} {e₁ : σ}
    (hreach : ReachesPause W F config pv.1 pv.2
      (Op.exec (handleEach W F config o pre report) s e).1.2
      (Op.exec (handleEach W F config o pre report) s e).2 s₁ e₁) :
    let r := Op.exec (handleEach W F config o (pre ++ pv :: post) report) s e
    r.1.2 = (Op.exec (W.pause config.recheckDelayMs) s₁ e₁).1.2 ∧
      r.2 = (Op.exec (W.pause config.recheckDelayMs) s₁ e₁).2 ∧
      r.1.1.violations = report.violations + pre.length + 1 := by
  have hdownPre := handleEach_keeps (fun _ e => down e) pre
    (fun pv _ => handleViolation_keeps hdown.world (RecordKeeps.servers down) hdown.adapters
      config pv.1 o pv.2) report (s := s) he
  obtain ⟨hs, he', hstop⟩ := handleViolation_exec_of_reachesPause hdown o hdownPre hreach
  obtain ⟨hs', he'', hviol⟩ := handleEach_exec_of_stop post report s e hr hpre hstop
  exact ⟨hs'.trans hs, he''.trans he', hviol⟩

end Shutdown

/-! ## The tick once shutdown was requested -/

/-- A tick with violations to handle runs the handler loop over them from where it read the wall
clock. -/
theorem runTick_exec_of_ne_nil (W : TickWorld (Op σ))
    (F : ServerConfig → Except ProviderError (Adapter (Op σ))) (config : EnforcerConfig)
    {s : Store} {e : σ} (h : s.tickWork (W.tickView config s e) ≠ []) :
    ∃ policies live, Op.exec (runTick W F config) s e =
      Op.exec (handleEach W F config s.streamOverrides (s.tickWork (W.tickView config s e))
        { policies := policies, liveSessions := live }) (Op.exec W.now s e).1.2
        (Op.exec W.now s e).2 := by
  obtain ⟨policies, live, s₀, e₀, hstart, hrun⟩ := runTick_exec_tickWork W F config s e
  rcases hstart with ⟨hnil, -, -⟩ | ⟨rfl, rfl⟩
  · exact absurd hnil h
  · exact ⟨policies, live, hrun⟩

/-- A tick with no violation to handle is not abandoned. -/
theorem runTick_not_abandoned_of_nil (W : TickWorld (Op σ))
    (F : ServerConfig → Except ProviderError (Adapter (Op σ))) (config : EnforcerConfig)
    {s : Store} {e : σ} (h : s.tickWork (W.tickView config s e) = []) :
    (Op.exec (runTick W F config) s e).1.1.abandoned = false := by
  obtain ⟨policies, live, s₀, e₀, -, hrun⟩ := runTick_exec_tickWork W F config s e
  rw [hrun, h, handleEach_exec_nil]

section Tick

variable {W : TickWorld (Op σ)} {F : ServerConfig → Except ProviderError (Adapter (Op σ))}
  {down : σ → Prop} (hdown : ShutdownRequested W F down) (config : EnforcerConfig) {s : Store}
  {e : σ} (he : down e)
include hdown he

/-- Once shutdown was requested, a tick logs at most one entry, a warning, and counts no kill and
nothing cleared. -/
theorem runTick_shutdown_logs (hW : W.KeepsLedger) (hF : FactoryKeepsLedger F) :
    let r := Op.exec (runTick W F config) s e
    ∃ N, r.1.2.enforcements = s.enforcements ++ N ∧ N.length ≤ 1 ∧
      (∀ k ∈ N, k.action = .warn) ∧ r.1.1.killed = 0 ∧ r.1.1.cleared = 0 := by
  intro r
  obtain ⟨policies, live, s₀, e₀, hstart, hrun⟩ := runTick_exec_tickWork W F config s e
  have hledger : s₀.enforcements = s.enforcements := by
    rcases hstart with ⟨-, rfl, -⟩ | ⟨rfl, -⟩
    · rfl
    · exact (Op.ledger_eq_of_keeps (fun L S => (hW L S).now) s e).1
  have hd₀ : down e₀ := by
    rcases hstart with ⟨-, -, rfl⟩ | ⟨-, rfl⟩
    · exact he
    · exact hdown.world.now s e he
  obtain ⟨M, hM, hlen, hwarn, hcl, hki⟩ := handleEach_shutdown_logs hdown config s.streamOverrides
    hW hF _ { policies := policies, liveSessions := live } s₀ e₀ hd₀
  rw [← hrun, hledger] at hM
  rw [← hrun] at hcl hki
  exact ⟨M, hM, hlen, hwarn, hki, hcl⟩

/-- Once shutdown was requested, a tick is abandoned exactly when some violation, after those
before it were handled without stopping, reaches the pause before its recheck. -/
theorem runTick_shutdown_abandoned_iff :
    (Op.exec (runTick W F config) s e).1.1.abandoned = true ↔
      ∃ pre pv post, s.tickWork (W.tickView config s e) = pre ++ pv :: post ∧
        (Op.exec (handleEach W F config s.streamOverrides pre {}) (Op.exec W.now s e).1.2
          (Op.exec W.now s e).2).1.1.abandoned = false ∧
        ∃ s₁ e₁, ReachesPause W F config pv.1 pv.2
          (Op.exec (handleEach W F config s.streamOverrides pre {}) (Op.exec W.now s e).1.2
            (Op.exec W.now s e).2).1.2
          (Op.exec (handleEach W F config s.streamOverrides pre {}) (Op.exec W.now s e).1.2
            (Op.exec W.now s e).2).2 s₁ e₁ := by
  by_cases hnil : s.tickWork (W.tickView config s e) = []
  · rw [runTick_not_abandoned_of_nil W F config hnil, hnil]
    simp
  obtain ⟨policies, live, hrun⟩ := runTick_exec_of_ne_nil W F config hnil
  rw [hrun, handleEach_abandoned_iff _ _ _ _ rfl]
  refine exists_congr fun pre => exists_congr fun pv => exists_congr fun post =>
    and_congr_right fun _ => ?_
  obtain ⟨hs, he', ha⟩ := handleEach_exec_congr_report W F config s.streamOverrides pre {}
    { policies := policies, liveSessions := live } rfl (Op.exec W.now s e).1.2
    (Op.exec W.now s e).2
  have hdownPre := handleEach_keeps (fun _ e => down e) pre
    (fun pv _ => handleViolation_keeps hdown.world (RecordKeeps.servers down) hdown.adapters
      config pv.1 s.streamOverrides pv.2) { policies := policies, liveSessions := live }
    (s := (Op.exec W.now s e).1.2) (hdown.world.now s e he)
  rw [ha, hs, he', stopsTick_shutdown_iff hdown s.streamOverrides hdownPre]

/-- Once shutdown was requested, a tick in which a violation reaches the pause, after those
before it were handled without stopping, ends where that pause ends, having handled nothing after
it. -/
theorem runTick_shutdown_ends_at_pause {pre post : List (Policy × Violation)}
    {pv : Policy × Violation} (hwork : s.tickWork (W.tickView config s e) = pre ++ pv :: post)
    (hpre : (Op.exec (handleEach W F config s.streamOverrides pre {}) (Op.exec W.now s e).1.2
      (Op.exec W.now s e).2).1.1.abandoned = false)
    {s₁ : Store} {e₁ : σ}
    (hreach : ReachesPause W F config pv.1 pv.2
      (Op.exec (handleEach W F config s.streamOverrides pre {}) (Op.exec W.now s e).1.2
        (Op.exec W.now s e).2).1.2
      (Op.exec (handleEach W F config s.streamOverrides pre {}) (Op.exec W.now s e).1.2
        (Op.exec W.now s e).2).2 s₁ e₁) :
    let r := Op.exec (runTick W F config) s e
    r.1.2 = (Op.exec (W.pause config.recheckDelayMs) s₁ e₁).1.2 ∧
      r.2 = (Op.exec (W.pause config.recheckDelayMs) s₁ e₁).2 ∧
      r.1.1.violations = pre.length + 1 := by
  intro r
  have hne : s.tickWork (W.tickView config s e) ≠ [] := by simp [hwork]
  obtain ⟨policies, live, hrun⟩ := runTick_exec_of_ne_nil W F config hne
  obtain ⟨hs, he', ha⟩ := handleEach_exec_congr_report W F config s.streamOverrides pre {}
    { policies := policies, liveSessions := live } rfl (Op.exec W.now s e).1.2
    (Op.exec W.now s e).2
  obtain ⟨hs', he'', hviol⟩ := handleEach_ends_at_pause hdown config s.streamOverrides post
    { policies := policies, liveSessions := live } _ _ (hdown.world.now s e he) rfl
    (ha.symm.trans hpre) (by rw [← hs, ← he']; exact hreach)
  simp only [r, hrun]
  rw [hwork]
  exact ⟨hs', he'', by simpa using hviol⟩

/-- Once shutdown was requested, a tick asks the servers only for warning messages, at most one
per violation it handles, each to the session selected for one of its violations through the
adapter of that violation's server. -/
theorem runTick_shutdown_records (calls : List ServerCall) :
    let rc := Op.exec (runTick W.beside (recordCalls F) config) s (e, calls)
    ∃ made, rc.2.2 = calls ++ made ∧ made.length ≤ rc.1.1.violations ∧
      ∀ call ∈ made, ∃ pv ∈ s.tickWork (W.tickView config s e), ∃ (row : ServerRow)
        (t : LiveSession), selectTarget pv.2.sessions pv.2.selector = some t ∧
        row.id = pv.2.serverId ∧
        call = .message row.config (Jellyfin.controlSessionId t.sessionKey t.raw) := by
  obtain ⟨policies, live, s₀, et₀, hstart, hrun⟩ :=
    runTick_exec_tickWork W.beside (recordCalls F) config s (e, calls)
  simp only [TickWorld.beside_tickView] at hrun
  obtain ⟨hd, hcalls⟩ : down et₀.1 ∧ et₀.2 = calls := by
    rcases hstart with ⟨-, -, rfl⟩ | ⟨-, rfl⟩
    · exact ⟨he, rfl⟩
    · exact ⟨hdown.world.now s e he, rfl⟩
  obtain ⟨made, hmade, hcount, hmem⟩ := handleEach_records_shutdown hdown config
    s.streamOverrides (s.tickWork (W.tickView config s e))
    { policies := policies, liveSessions := live } s₀ et₀.1 et₀.2 hd
  rw [Prod.mk.eta, ← hrun, hcalls] at hmade
  rw [Prod.mk.eta, ← hrun] at hcount
  exact ⟨made, hmade, by simpa using hcount, hmem⟩

end Tick

/-- A tick started after shutdown was requested, in a world and with adapters that leave the log
alone and never take the request back, logs at most one entry, a warning, and counts no kill or
clear; it is abandoned exactly when a violation reaches the recheck pause, handling nothing
after it, and asks the servers only for warnings, at most one per violation handled. -/
theorem cancelled_tick_stops_at_first_pause {W : TickWorld (Op σ)}
    {F : ServerConfig → Except ProviderError (Adapter (Op σ))} {down : σ → Prop}
    (hW : W.KeepsLedger) (hF : FactoryKeepsLedger F) (hdown : ShutdownRequested W F down)
    (config : EnforcerConfig) (s : Store) (e : σ) (he : down e) (calls : List ServerCall) :
    let work := s.tickWork (W.tickView config s e)
    let c := Op.exec W.now s e
    let r := Op.exec (runTick W F config) s e
    let N := r.1.2.enforcements.drop s.enforcements.length
    let before := fun pre => Op.exec (handleEach W F config s.streamOverrides pre {}) c.1.2 c.2
    let rc := Op.exec (runTick W.beside (recordCalls F) config) s (e, calls)
    s.enforcements <+: r.1.2.enforcements ∧ N.length ≤ 1 ∧ (∀ k ∈ N, k.action = .warn) ∧
      r.1.1.killed = 0 ∧ r.1.1.cleared = 0 ∧
      (r.1.1.abandoned = true ↔ ∃ pre pv post, work = pre ++ pv :: post ∧
        (before pre).1.1.abandoned = false ∧
        ∃ s₁ e₁, ReachesPause W F config pv.1 pv.2 (before pre).1.2 (before pre).2 s₁ e₁) ∧
      (∀ pre pv post s₁ e₁, work = pre ++ pv :: post → (before pre).1.1.abandoned = false →
        ReachesPause W F config pv.1 pv.2 (before pre).1.2 (before pre).2 s₁ e₁ →
          r.1.2 = (Op.exec (W.pause config.recheckDelayMs) s₁ e₁).1.2 ∧
          r.2 = (Op.exec (W.pause config.recheckDelayMs) s₁ e₁).2 ∧
          r.1.1.violations = pre.length + 1) ∧
      ∃ made, rc.2.2 = calls ++ made ∧ made.length ≤ rc.1.1.violations ∧
        ∀ call ∈ made, ∃ pv ∈ work, ∃ (row : ServerRow) (t : LiveSession),
          selectTarget pv.2.sessions pv.2.selector = some t ∧ row.id = pv.2.serverId ∧
          call = .message row.config (Jellyfin.controlSessionId t.sessionKey t.raw) := by
  intro work c r N before rc
  obtain ⟨M, hM, hlen, hwarn, hki, hcl⟩ := runTick_shutdown_logs hdown config (s := s) he hW hF
  have hN : N = M := by simp only [N, r, hM, List.drop_left]
  exact ⟨⟨M, hM.symm⟩, hN ▸ hlen, hN ▸ hwarn, hki, hcl,
    runTick_shutdown_abandoned_iff hdown config (s := s) he,
    fun _ _ _ _ _ hwork hpre hreach => runTick_shutdown_ends_at_pause hdown config he hwork hpre
      hreach,
    runTick_shutdown_records hdown config (s := s) he calls⟩

/-- A rehearsal of a Plex server streaming a 4K transcode under a policy that bans it, with the
tick started after cancellation: the violation reaches the pause, so the tick logs its warning,
is abandoned there, and stops nothing. -/
theorem rehearsal_cancelled_tick_stops_at_first_pause :
    let e : Stage := { cancelled := true }
    let s := transcode4kStore
    let work := s.tickWork (rehearsalWorld.tickView {} s e)
    let c := Op.exec rehearsalWorld.now s e
    let r := Op.exec (runTick rehearsalWorld scriptedFactory {}) s e
    let N := r.1.2.enforcements.drop s.enforcements.length
    let before := fun pre =>
      Op.exec (handleEach rehearsalWorld scriptedFactory {} s.streamOverrides pre {}) c.1.2 c.2
    let rc := Op.exec (runTick rehearsalWorld.beside (recordCalls scriptedFactory) {}) s (e, [])
    e.cancelled = true ∧ N.map (·.action) = [.warn] ∧ r.1.1.abandoned = true ∧
      s.enforcements <+: r.1.2.enforcements ∧ N.length ≤ 1 ∧ (∀ k ∈ N, k.action = .warn) ∧
      r.1.1.killed = 0 ∧ r.1.1.cleared = 0 ∧
      (r.1.1.abandoned = true ↔ ∃ pre pv post, work = pre ++ pv :: post ∧
        (before pre).1.1.abandoned = false ∧
        ∃ s₁ e₁, ReachesPause rehearsalWorld scriptedFactory {} pv.1 pv.2 (before pre).1.2
          (before pre).2 s₁ e₁) ∧
      (∀ pre pv post s₁ e₁, work = pre ++ pv :: post → (before pre).1.1.abandoned = false →
        ReachesPause rehearsalWorld scriptedFactory {} pv.1 pv.2 (before pre).1.2 (before pre).2
          s₁ e₁ →
          r.1.2 = (Op.exec (rehearsalWorld.pause (({} : EnforcerConfig).recheckDelayMs)) s₁
            e₁).1.2 ∧
          r.2 = (Op.exec (rehearsalWorld.pause (({} : EnforcerConfig).recheckDelayMs)) s₁
            e₁).2 ∧
          r.1.1.violations = pre.length + 1) ∧
      ∃ made, rc.2.2 = [] ++ made ∧ made.length ≤ rc.1.1.violations ∧
        ∀ call ∈ made, ∃ pv ∈ work, ∃ (row : ServerRow) (t : LiveSession),
          selectTarget pv.2.sessions pv.2.selector = some t ∧ row.id = pv.2.serverId ∧
          call = .message row.config (Jellyfin.controlSessionId t.sessionKey t.raw) :=
  ⟨rfl, by decide +kernel, by decide +kernel,
    cancelled_tick_stops_at_first_pause rehearsalWorld_keepsLedger scriptedFactory_keepsLedger
      rehearsal_shutdownRequested {} transcode4kStore { cancelled := true } rfl []⟩

end StreamWarden
