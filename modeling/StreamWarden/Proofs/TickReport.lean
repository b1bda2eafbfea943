import Mathlib
import StreamWarden.Proofs.EnforcementLog

/-!
# What a tick's report counts

A tick reports how many violations it handled, and of those how many it warned about, found
cleared at the recheck, stopped, and failed on. The counters follow the log the tick writes:

* every warning it counts is a warning it logged, and every kill a stop logged as succeeded;
* every stop logged as failed is a failure it counts (and so is every failure that logged
  nothing);
* a violation has at most one outcome;
* unless the tick was abandoned, it handled every violation its enabled policies report over
  its live view.

One handler's part is `Tallies`: what handling one violation logs, read off its answer. The
handler loop adds to the report by `TickReport.count`, and `Counts` carries the relation
between the report and the log through the loop; it composes (`Counts.trans`), so the loop is an
induction over the violations. The world and the adapters leave the log alone, as in
`Proofs.EnforcementLog`.

Main statement: `tick_report_counts_log`.
-/

namespace StreamWarden

variable {σ : Type}

/-! ## Kinds of entries -/

namespace EnforcementRow

/-- The entry logs a warning. -/
def isWarn (r : EnforcementRow) : Bool := r.action == .warn

/-- The entry logs a stop that succeeded (`ok = true`) or one that failed. -/
def isKill (ok : Bool) (r : EnforcementRow) : Bool := r.action == .kill && r.succeeded == ok

/-- Every entry is a warning or a stop, succeeded or failed. -/
theorem length_eq_countP (M : List EnforcementRow) :
    M.length = M.countP (·.isWarn) + M.countP (·.isKill true) + M.countP (·.isKill false) := by
  induction M with
  | nil => rfl
  | cons r M ih =>
    simp only [List.length_cons, List.countP_cons, ih]
    cases ha : r.action <;> cases hs : r.succeeded <;> simp [isWarn, isKill, ha, hs] <;> omega

end EnforcementRow

@[simp] theorem enforcementEntry_toRow_succeeded (v : Violation) (t : LiveSession)
    (action : EnforcementAction) (reason : String) (succeeded : Bool) (id : Nat) (now : Int) :
    ((enforcementEntry v t action reason succeeded).toRow id now).succeeded = succeeded := rfl

/-! ## What one handler logs -/

@[simp] theorem Except.toOption_ok {ε α : Type} (a : α) :
    (Except.ok a : Except ε α).toOption = some a := rfl

@[simp] theorem Except.toOption_error {ε α : Type} (err : ε) :
    (Except.error err : Except ε α).toOption = none := rfl

/-- What handling one violation logged, `M`, against the handler's answer: a warning exactly when
it says it warned, a stop that succeeded exactly when the outcome is a kill, one that failed
exactly when the kill failed, and nothing else. An outcome of `none` is a failure. -/
structure Tallies (warned : Bool) (outcome : Option ViolationOutcome) (M : List EnforcementRow) :
    Prop where
  warnings : M.countP (·.isWarn) = if warned then 1 else 0
  kills : M.countP (·.isKill true) = if outcome = some .killed then 1 else 0
  failedKills : M.countP (·.isKill false) = if outcome = some .killFailed then 1 else 0

namespace Tallies

variable {w : Bool} {o : Option ViolationOutcome} {M M' : List EnforcementRow}

/-- A warning stage, then a stage that stops or not. -/
theorem append (h : Tallies w none M) (h' : Tallies false o M') : Tallies w o (M ++ M') where
  warnings := by simp [List.countP_append, h.warnings, h'.warnings]
  kills := by simp [List.countP_append, h.kills, h'.kills]
  failedKills := by simp [List.countP_append, h.failedKills, h'.failedKills]

/-- What a handler that warned at most and stopped nothing logged is at most its warning. -/
theorem of_no_stop (h : Tallies w o M) (hk : o ≠ some .killed) (hf : o ≠ some .killFailed) :
    M.length = (if w then 1 else 0) ∧ ∀ k ∈ M, k.action = .warn := by
  have hlen := EnforcementRow.length_eq_countP M
  rw [h.warnings, h.kills, h.failedKills, if_neg hk, if_neg hf] at hlen
  refine ⟨by simpa using hlen, fun k hk' => ?_⟩
  cases hka : k.action
  · rfl
  · have hpos := List.countP_pos_iff.mpr ⟨k, hk', show k.isKill k.succeeded = true by
      simp [EnforcementRow.isKill, hka]⟩
    cases hs : k.succeeded
    · rw [hs, h.failedKills, if_neg hf] at hpos
      cases hpos
    · rw [hs, h.kills, if_neg hk] at hpos
      cases hpos

end Tallies

section Stages

variable {W : TickWorld (Op σ)} (hW : W.KeepsLedger) {A : Adapter (Op σ)} (hA : A.KeepsLedger)
  (config : EnforcerConfig)
include hW hA

/-- The warning stage logs one warning exactly when it answers that it warned. -/
theorem warnUnlessRecent_tallies (policy : Policy) (v : Violation) (t : LiveSession) (s : Store)
    (e : σ) :
    let r := Op.exec (warnUnlessRecent W config A policy v t).run s e
    ∃ M, r.1.2.enforcements = s.enforcements ++ M ∧
      Tallies (r.1.1.toOption == some true) none M := by
  intro r
  rcases warnUnlessRecent_loggedBy hW hA config policy v t s e with
    ⟨-, hok, henf, -⟩ | ⟨hrecent, reason, succeeded, now, -, logged⟩
  · refine ⟨[], by rw [henf, List.append_nil], ?_⟩
    rw [hok]
    exact ⟨rfl, rfl, rfl⟩
  · obtain ⟨id, happ⟩ := logged.exists_append
    refine ⟨_, happ, ?_⟩
    have hok : r.1.1.isOk = (r.1.1.toOption == some true) := by
      simp only [r, warnUnlessRecent_exec, hrecent, Bool.false_eq_true, if_false]
      generalize Op.exec (warnActor W config A v t).run (Op.exec W.now s e).1.2
        (Op.exec W.now s e).2 = run
      rcases run with ⟨⟨_ | _, _⟩, _⟩ <;> rfl
    rw [← hok]
    cases r.1.1.isOk <;> exact ⟨by simp [EnforcementRow.isWarn], by simp [EnforcementRow.isKill],
      by simp [EnforcementRow.isKill]⟩

omit config in
/-- The stop logs one stop, succeeded as its outcome says, or nothing when logging failed. -/
theorem killTarget_tallies (v : Violation) (t : LiveSession) (s : Store) (e : σ) :
    let r := Op.exec (killTarget W A v t).run s e
    ∃ M, r.1.2.enforcements = s.enforcements ++ M ∧ Tallies false r.1.1.toOption M := by
  obtain ⟨henf, hst⟩ := Op.ledger_eq_of_keeps
    (fun L S => (hA L S).terminate t.sessionKey v.killReason) s e
  simp only [killTarget_exec]
  generalize Op.exec (A.terminate t.sessionKey v.killReason) s e = call at henf hst
  generalize killResult v call.1.1 = result
  obtain ⟨succeeded, reason⟩ := result
  dsimp only
  have logged := (logAction_loggedBy hW (enforcementEntry v t .kill reason succeeded) call.1.2
    call.2).2.of_ledger henf hst
  generalize Op.exec (logAction W (enforcementEntry v t .kill reason succeeded)).run call.1.2
    call.2 = run at logged
  obtain ⟨id, happ⟩ := logged.exists_append
  rcases run with ⟨⟨err | _, s'⟩, e'⟩
  · exact ⟨[], by simpa [Except.isOk, Except.toBool] using happ, ⟨rfl, rfl, rfl⟩⟩
  · refine ⟨_, by simpa [Except.isOk, Except.toBool] using happ, ?_⟩
    cases succeeded <;> exact ⟨rfl, rfl, rfl⟩

/-- Stopping with notice logs what the stop logs, after pre-kill messages that log nothing, or
nothing at all when a pre-kill pause ends in shutdown. -/
theorem killWithNotice_tallies (v : Violation) (t : LiveSession) (s : Store) (e : σ) :
    let r := Op.exec (killWithNotice W config A v t).run s e
    ∃ M, r.1.2.enforcements = s.enforcements ++ M ∧ Tallies false r.1.1.toOption M := by
  have notice := Op.ledger_eq_of_keeps (fun L S => prekillToasts_keeps (v := v) (t := t)
    (hW L S) config ((hA L S).sendMessage _ _ _ _)) s e
  dsimp only
  rcases killWithNotice_exec_cases W config A v t s e with ⟨-, hfail, hp⟩ | ⟨s₁, e₁, hp, hr⟩
  · rw [hp] at notice
    rw [hfail]
    exact ⟨[], by simpa using notice.1, ⟨rfl, rfl, rfl⟩⟩
  · have hnotice : s₁.enforcements = s.enforcements := by
      split at hp
      · rw [hp] at notice
        exact notice.1
      · cases hp
        rfl
    rw [hr]
    obtain ⟨M, hM, ht⟩ := killTarget_tallies hW hA v t s₁ e₁
    exact ⟨M, hM.trans (by rw [hnotice]), ht⟩

/-- The recheck logs a stop only by stopping: what it logs is what stopping with notice logs, or
nothing at all when its pause ends in shutdown or the violation has cleared. -/
theorem recheckAndKill_tallies (policy : Policy) (o : Overrides) (v : Violation) (s : Store)
    (e : σ) :
    let r := Op.exec (recheckAndKill W config A policy o v).run s e
    ∃ M, r.1.2.enforcements = s.enforcements ++ M ∧ Tallies false r.1.1.toOption M := by
  dsimp only
  rcases recheckAndKill_exec_cases W config A policy o v s e with
    ⟨s₁, e₁, hp, hr⟩ | ⟨now, s₁, e₁, hsees, hr⟩
  · have paused := Op.ledger_eq_of_keeps (fun L S => (hW L S).pause config.recheckDelayMs) s e
    rw [hp] at paused
    rw [hr]
    exact ⟨[], by simpa using paused.1, ⟨rfl, rfl, rfl⟩⟩
  · have hread : s₁.enforcements = s.enforcements :=
      (RecheckSees.keeps (hW s.enforcements s.states) hsees ⟨rfl, rfl⟩).1
    rcases hr with hr | ⟨cur, target, -, -, hr⟩
    · rw [hr]
      exact ⟨[], by simpa using hread, ⟨rfl, rfl, rfl⟩⟩
    · rw [hr]
      obtain ⟨M, hM, ht⟩ := killWithNotice_tallies hW hA config cur target s₁ e₁
      exact ⟨M, hM.trans (by rw [hread]), ht⟩

end Stages

/-- What handling one violation logs is what its answer says. -/
theorem handleViolation_tallies {W : TickWorld (Op σ)}
    {F : ServerConfig → Except ProviderError (Adapter (Op σ))} (hW : W.KeepsLedger)
    (hF : FactoryKeepsLedger F) (config : EnforcerConfig) (policy : Policy) (o : Overrides)
    (v : Violation) (s : Store) (e : σ) :
    let h := Op.exec (handleViolation W F config policy o v) s e
    ∃ M, h.1.2.enforcements = s.enforcements ++ M ∧ Tallies h.1.1.1 h.1.1.2.toOption M := by
  intro h
  simp only [h, handleViolation_exec]
  rcases selectTarget v.sessions v.selector with _ | target
  · exact ⟨[], by simp, ⟨rfl, rfl, rfl⟩⟩
  rcases hrow : s.server? v.serverId with _ | row
  · exact ⟨[], by simp, ⟨rfl, rfl, rfl⟩⟩
  dsimp only
  rcases hA : F row.config with err | A
  · exact ⟨[], by simp, ⟨rfl, rfl, rfl⟩⟩
  dsimp only
  have hwarn := warnUnlessRecent_tallies hW (hF _ _ hA) config policy v target s e
  rcases hw : Op.exec (warnUnlessRecent W config A policy v target).run s e with
    ⟨⟨err | w, s₁⟩, e₁⟩
  · rw [hw] at hwarn
    exact hwarn
  · rw [hw] at hwarn
    obtain ⟨M, hM, ht⟩ := hwarn
    obtain ⟨M', hM', ht'⟩ := recheckAndKill_tallies hW (hF _ _ hA) config policy o v s₁ e₁
    refine ⟨M ++ M', by rw [hM', hM, List.append_assoc], ?_⟩
    have hw' : ((Except.ok w : Except AppError Bool).toOption == some true) = w := by
      cases w <;> rfl
    rw [hw'] at ht
    exact ht.append ht'

/-! ## The handler loop -/

/-- The answer stops the tick: the handler met a cancelled pause. -/
def stopsTick : Except AppError ViolationOutcome → Bool
  | .error .unavailable => true
  | _ => false

/-- The answer counts as a failure: a stop that failed, or any failure but a cancelled pause. -/
def countsFailed : Except AppError ViolationOutcome → Bool
  | .ok .killFailed => true
  | .ok _ => false
  | .error .unavailable => false
  | .error _ => true

/-- The report after one more violation, with whether it was warned about and what became of
it: what the handler loop adds. -/
def TickReport.count (r : TickReport) (warned : Bool) (outcome : Except AppError ViolationOutcome) :
    TickReport :=
  { r with violations := r.violations + 1
           warned := r.warned + if warned then 1 else 0
           cleared := r.cleared + if outcome.toOption = some .cleared then 1 else 0
           killed := r.killed + if outcome.toOption = some .killed then 1 else 0
           failed := r.failed + if countsFailed outcome then 1 else 0
           abandoned := if stopsTick outcome then true else r.abandoned }

section Loop

variable {W : TickWorld (Op σ)} {F : ServerConfig → Except ProviderError (Adapter (Op σ))}
  {config : EnforcerConfig} {o : Overrides}

/-- The loop handles the first violation, adds it to the report, and goes on unless it stopped
the tick. -/
theorem handleEach_exec_cons_count (policy : Policy) (v : Violation)
    (rest : List (Policy × Violation)) (report : TickReport) (s : Store) (e : σ) :
    Op.exec (handleEach W F config o ((policy, v) :: rest) report) s e =
      let h := Op.exec (handleViolation W F config policy o v) s e
      if stopsTick h.1.1.2 then ((report.count h.1.1.1 h.1.1.2, h.1.2), h.2)
      else Op.exec (handleEach W F config o rest (report.count h.1.1.1 h.1.1.2))
        h.1.2 h.2 := by
  rw [handleEach_exec_cons]
  generalize Op.exec (handleViolation W F config policy o v) s e = h
  rcases h with ⟨⟨⟨w, err | outcome⟩, s₁⟩, e₁⟩
  · cases err <;> cases w <;> rfl
  · cases outcome <;> cases w <;> rfl

/-- The report of the loop counts the violations it handled, all of them unless it stopped. -/
theorem handleEach_violations (work : List (Policy × Violation)) (report : TickReport) (s : Store)
    (e : σ) (h : (Op.exec (handleEach W F config o work report) s e).1.1.abandoned =
      false) :
    (Op.exec (handleEach W F config o work report) s e).1.1.violations =
      report.violations + work.length := by
  induction work generalizing report s e with
  | nil => rfl
  | cons pv rest ih =>
    obtain ⟨policy, v⟩ := pv
    rw [handleEach_exec_cons_count] at h ⊢
    dsimp only at h ⊢
    split
    · rename_i hstop
      rw [if_pos hstop] at h
      simp [TickReport.count, hstop] at h
    · rename_i hgo
      rw [if_neg hgo] at h
      rw [ih _ _ _ h]
      simp only [TickReport.count, List.length_cons]
      omega

/-! ## The report against the log -/

/-- Report `r` adds to report `r₀` the entries `N` logged since: a warning per warning counted, a
stop that succeeded per kill, at most one failure per stop that failed, and at most one outcome
per violation. -/
structure Counts (r₀ r : TickReport) (N : List EnforcementRow) : Prop where
  warned : r.warned = r₀.warned + N.countP (·.isWarn)
  killed : r.killed = r₀.killed + N.countP (·.isKill true)
  failed : r₀.failed + N.countP (·.isKill false) ≤ r.failed
  outcomes : r₀.violations + (r.cleared + r.killed + r.failed) ≤
    r.violations + (r₀.cleared + r₀.killed + r₀.failed)

namespace Counts

variable {r₀ r₁ r₂ : TickReport} {N N' : List EnforcementRow}

theorem refl (r : TickReport) : Counts r r [] := ⟨by simp, by simp, by simp, by omega⟩

theorem trans (h₁ : Counts r₀ r₁ N) (h₂ : Counts r₁ r₂ N') : Counts r₀ r₂ (N ++ N') where
  warned := by rw [h₂.warned, h₁.warned, List.countP_append]; omega
  killed := by rw [h₂.killed, h₁.killed, List.countP_append]; omega
  failed := by have := h₁.failed; have := h₂.failed; rw [List.countP_append]; omega
  outcomes := by have := h₁.outcomes; have := h₂.outcomes; omega

/-- One violation counted with what its handler logged. -/
theorem count {w : Bool} {outcome : Except AppError ViolationOutcome}
    (h : Tallies w outcome.toOption N) (r : TickReport) : Counts r (r.count w outcome) N where
  warned := by simp [TickReport.count, h.warnings]
  killed := by simp [TickReport.count, h.kills]
  failed := by
    rw [h.failedKills]
    rcases outcome with err | outcome
    · simp [TickReport.count]
    · cases outcome <;> simp [TickReport.count, countsFailed]
  outcomes := by
    simp only [TickReport.count]
    rcases outcome with err | outcome
    · cases err <;> simp [countsFailed] <;> omega
    · cases outcome <;> simp [countsFailed] <;> omega

end Counts

variable (config o) in
/-- Over the loop, the report counts what the handlers logged. -/
theorem handleEach_counts (hW : W.KeepsLedger) (hF : FactoryKeepsLedger F) (work : List (Policy × Violation))
    (report : TickReport) (s : Store) (e : σ) :
    let r := Op.exec (handleEach W F config o work report) s e
    ∃ N, r.1.2.enforcements = s.enforcements ++ N ∧ Counts report r.1.1 N := by
  induction work generalizing report s e with
  | nil => exact ⟨[], by simp [handleEach_exec_nil], Counts.refl report⟩
  | cons pv rest ih =>
    obtain ⟨policy, v⟩ := pv
    intro r
    obtain ⟨M, hM, ht⟩ := handleViolation_tallies hW hF config policy o v s e
    simp only [r, handleEach_exec_cons_count]
    split
    · exact ⟨M, hM, Counts.count ht report⟩
    · obtain ⟨N, hN, hc⟩ := ih (report.count _ _) _ _
      exact ⟨M ++ N, by rw [hN, hM, List.append_assoc], (Counts.count ht report).trans hc⟩

end Loop

/-! ## The tick -/

/-- No session, no violation. -/
theorem Policy.evaluate_nil (p : Policy) (o : Overrides) : p.evaluate [] o = [] := by
  rw [List.eq_nil_iff_forall_not_mem]
  intro v hv
  have hfind := Policy.finding_of_mem_evaluate hv
  obtain ⟨t, ht⟩ := List.exists_mem_of_ne_nil _ hfind.sessions_ne_nil
  simpa using hfind.mem_pool t ht

/-- A tick is the handler loop over its violations, from a report that counts nothing yet,
started where the tick read the wall clock, or where it began when it has no violation. -/
theorem runTick_exec_tickWork (W : TickWorld (Op σ))
    (F : ServerConfig → Except ProviderError (Adapter (Op σ))) (config : EnforcerConfig)
    (s : Store) (e : σ) :
    ∃ policies live s₀ e₀,
      ((s.tickWork (W.tickView config s e) = [] ∧ s₀ = s ∧ e₀ = e) ∨
        (s₀ = (Op.exec W.now s e).1.2 ∧ e₀ = (Op.exec W.now s e).2)) ∧
      Op.exec (runTick W F config) s e =
        Op.exec (handleEach W F config s.streamOverrides (s.tickWork (W.tickView config s e))
          { policies := policies, liveSessions := live }) s₀ e₀ := by
  rw [runTick_exec, Store.tickWork]
  by_cases off : s.currentSettings.enforcementEnabled = false
  · exact ⟨0, 0, s, e, .inl ⟨by simp [off], rfl, rfl⟩, by simp [off, handleEach_exec_nil]⟩
  have on : s.currentSettings.enforcementEnabled = true := by simpa using off
  simp only [on, Bool.not_true, Bool.false_eq_true, if_false, if_true]
  split
  · rename_i hnone
    have hpolicies := List.isEmpty_iff.mp hnone
    refine ⟨0, 0, s, e, .inl ⟨by rw [hpolicies]; rfl, rfl, rfl⟩, ?_⟩
    rw [hpolicies]
    rfl
  split
  · rename_i hquiet
    refine ⟨(s.enabledPolicies.filterMap fun row => (Policy.ofRow row).toOption).length, 0, _, _,
      .inr ⟨rfl, rfl⟩, ?_⟩
    rw [List.isEmpty_iff.mp hquiet]
    simp only [Policy.evaluate_nil, List.map_nil]
    rw [List.flatMap_eq_nil_iff.mpr fun _ _ => rfl]
    rfl
  · exact ⟨_, _, _, _, .inr ⟨rfl, rfl⟩, rfl⟩

/-- The report of a tick follows its log. For every tick with enforcement on, in a world and with
adapters that leave the log alone: the log only grows; the warnings and successful kills counted
are the warning and succeeded stop entries logged, failed stops logged are at most the failures
counted, at most one outcome per violation, and an unabandoned tick handled every violation. -/
theorem tick_report_counts_log {W : TickWorld (Op σ)}
    {F : ServerConfig → Except ProviderError (Adapter (Op σ))} (hW : W.KeepsLedger)
    (hF : FactoryKeepsLedger F) (config : EnforcerConfig) (s : Store) (e : σ)
    (hon : s.currentSettings.enforcementEnabled = true) :
    let r := Op.exec (runTick W F config) s e
    let N := r.1.2.enforcements.drop s.enforcements.length
    s.enforcements <+: r.1.2.enforcements ∧
      r.1.1.warned = N.countP (·.isWarn) ∧ r.1.1.killed = N.countP (·.isKill true) ∧
      N.countP (·.isKill false) ≤ r.1.1.failed ∧
      r.1.1.cleared + r.1.1.killed + r.1.1.failed ≤ r.1.1.violations ∧
      (r.1.1.abandoned = false → r.1.1.violations =
        ((s.enabledPolicies.filterMap fun row => (Policy.ofRow row).toOption).map fun p =>
          (p.evaluate (W.tickView config s e) s.streamOverrides).length).sum) := by
  intro r N
  obtain ⟨policies, live, s₀, e₀, hstart, hrun⟩ := runTick_exec_tickWork W F config s e
  have hledger : s₀.enforcements = s.enforcements := by
    rcases hstart with ⟨-, rfl, -⟩ | ⟨rfl, -⟩
    · rfl
    · exact (Op.ledger_eq_of_keeps (fun L S => (hW L S).now) s e).1
  obtain ⟨M, hM, hc⟩ := handleEach_counts config s.streamOverrides hW hF
    (s.tickWork (W.tickView config s e)) { policies := policies, liveSessions := live } s₀ e₀
  rw [← hrun, hledger] at hM
  rw [← hrun] at hc
  have hN : N = M := by simp only [N, r, hM, List.drop_left]
  rw [hN]
  refine ⟨⟨M, hM.symm⟩, by simpa using hc.warned, by simpa using hc.killed,
    by simpa using hc.failed, by simpa using hc.outcomes, fun habandoned => ?_⟩
  rw [show r = _ from hrun] at habandoned ⊢
  rw [handleEach_violations _ _ s₀ e₀ habandoned, Store.tickWork, if_pos hon,
    List.length_flatMap]
  simp

/-- A rehearsal of a Plex server streaming a 4K transcode under a policy that bans it: the tick
warns and then stops the stream, and its report follows its log. -/
theorem rehearsal_tick_report_counts_log :
    let r := Op.exec (runTick rehearsalWorld scriptedFactory {}) transcode4kStore {}
    let N := r.1.2.enforcements.drop transcode4kStore.enforcements.length
    transcode4kStore.currentSettings.enforcementEnabled = true ∧
      N.map (·.action) = [.warn, .kill] ∧
      transcode4kStore.enforcements <+: r.1.2.enforcements ∧
      r.1.1.warned = N.countP (·.isWarn) ∧ r.1.1.killed = N.countP (·.isKill true) ∧
      N.countP (·.isKill false) ≤ r.1.1.failed ∧
      r.1.1.cleared + r.1.1.killed + r.1.1.failed ≤ r.1.1.violations ∧
      (r.1.1.abandoned = false → r.1.1.violations =
        ((transcode4kStore.enabledPolicies.filterMap fun row =>
          (Policy.ofRow row).toOption).map fun p =>
            (p.evaluate (rehearsalWorld.tickView {} transcode4kStore {})
              transcode4kStore.streamOverrides).length).sum) :=
  ⟨rfl, by decide +kernel, tick_report_counts_log rehearsalWorld_keepsLedger
    scriptedFactory_keepsLedger {} transcode4kStore {} rfl⟩

end StreamWarden
