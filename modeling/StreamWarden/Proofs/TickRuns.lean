import StreamWarden.Enforce.Tick

/-!
# Runs of the enforcement tick

The tick is written for any monad with the store as state. Its laws are proved in the monad
`Op σ`: the store over a state `σ` of the media servers and of the world around the enforcer,
which the adapters, the clocks and the pauses act on. Nothing is assumed here about `σ`, the
adapters or the world: an adapter may answer anything, a clock may tell any time, a pause may end
in shutdown or not, and each of them may change the store.

Each function of the tick gets one equation that says what running it does in terms of runs of
the functions and world actions it calls (`*_exec`), and each stage one lemma that lists what it
can do (`*_exec_cases`). Later proofs rewrite with these and never unfold the tick. A property
that every action of the world and of the adapters keeps, and that logging keeps, every stage
keeps (`*_keeps`).
-/

namespace StreamWarden

/-- The enforcer's actions: the store is their state, over a state `σ` of the media servers and
the world. -/
abbrev Op (σ : Type) := StateT Store (StateM σ)

namespace Op

variable {σ α β : Type}

/-- Runs an action from a store and a state of the media servers. -/
def exec (x : Op σ α) (s : Store) (e : σ) : (α × Store) × σ := (x.run s).run e

@[simp] theorem exec_pure (a : α) (s : Store) (e : σ) :
    exec (pure a : Op σ α) s e = ((a, s), e) := rfl

@[simp] theorem exec_bind (x : Op σ α) (f : α → Op σ β) (s : Store) (e : σ) :
    exec (x >>= f) s e = exec (f (exec x s e).1.1) (exec x s e).1.2 (exec x s e).2 := rfl

@[simp] theorem exec_get (s : Store) (e : σ) : exec (get : Op σ Store) s e = ((s, s), e) := rfl

@[simp] theorem exec_run_pure (a : α) (s : Store) (e : σ) :
    exec (pure a : ExceptT AppError (Op σ) α).run s e = ((.ok a, s), e) := rfl

@[simp] theorem exec_run_bind (x : ExceptT AppError (Op σ) α)
    (f : α → ExceptT AppError (Op σ) β) (s : Store) (e : σ) :
    exec (x >>= f).run s e =
      match exec x.run s e with
      | ((.ok a, s₁), e₁) => exec (f a).run s₁ e₁
      | ((.error err, s₁), e₁) => ((.error err, s₁), e₁) := by
  simp only [exec, ExceptT.run_bind, StateT.run_bind]
  rcases ((x.run).run s).run e with ⟨⟨_ | _, _⟩, _⟩ <;> rfl

@[simp] theorem exec_run_get (s : Store) (e : σ) :
    exec (get : ExceptT AppError (Op σ) Store).run s e = ((.ok s, s), e) := rfl

@[simp] theorem exec_run_set (s s' : Store) (e : σ) :
    exec (set s' : ExceptT AppError (Op σ) PUnit).run s e = ((.ok ⟨⟩, s'), e) := rfl

@[simp] theorem exec_run_throw (err : AppError) (s : Store) (e : σ) :
    exec (throw err : ExceptT AppError (Op σ) α).run s e = ((.error err, s), e) := rfl

@[simp] theorem exec_run_lift (x : Op σ α) (s : Store) (e : σ) :
    exec (liftM x : ExceptT AppError (Op σ) α).run s e =
      ((.ok (exec x s e).1.1, (exec x s e).1.2), (exec x s e).2) := rfl

/-- An action keeps `I`: from a store and servers where `I` holds, it ends where `I` holds. -/
def Keeps (I : Store → σ → Prop) (x : Op σ α) : Prop :=
  ∀ s e, I s e → I (exec x s e).1.2 (exec x s e).2

end Op

variable {σ : Type}

/-- Every action of the world keeps `I`: reading either clock, and every pause. -/
structure TickWorld.Keeps (W : TickWorld (Op σ)) (I : Store → σ → Prop) : Prop where
  now : W.now.Keeps I
  instant : W.instant.Keeps I
  pause : ∀ ms, (W.pause ms).Keeps I

/-- Every message and every stop of the adapter keeps `I`. -/
structure Adapter.Keeps (A : Adapter (Op σ)) (I : Store → σ → Prop) : Prop where
  sendMessage : ∀ key title text ms, (A.sendMessage key title text ms).Keeps I
  terminate : ∀ key reason, (A.terminate key reason).Keeps I

/-- Logging an action keeps `I`. -/
def RecordKeeps (I : Store → σ → Prop) : Prop :=
  ∀ s s' e entry now, s.recordAction entry now = .ok s' → I s e → I s' e

/-- Logging never touches the servers, so it keeps every property of theirs. -/
theorem RecordKeeps.servers (P : σ → Prop) : RecordKeeps fun (_ : Store) e => P e :=
  fun _ _ _ _ _ _ h => h

variable (W : TickWorld (Op σ))

/-! ## One equation per function -/

theorem pauseFor_exec (ms : Int) (s : Store) (e : σ) :
    Op.exec (pauseFor W ms).run s e =
      let p := Op.exec (W.pause ms) s e
      ((if p.1.1 then .error .unavailable else .ok (), p.1.2), p.2) := by
  simp only [pauseFor, Op.exec_run_bind, Op.exec_run_lift]
  cases (Op.exec (W.pause ms) s e).1.1 <;> rfl

theorem logAction_exec (entry : EnforcementEntry) (s : Store) (e : σ) :
    Op.exec (logAction W entry).run s e =
      let c := Op.exec W.now s e
      (match c.1.2.recordAction entry c.1.1 with
      | .ok s' => (.ok (), s')
      | .error err => (.error err, c.1.2), c.2) := by
  simp only [logAction, Op.exec_run_bind, Op.exec_run_lift, Op.exec_run_get]
  cases (Op.exec W.now s e).1.2.recordAction entry (Op.exec W.now s e).1.1 <;> rfl

theorem logAction_exec_servers (entry : EnforcementEntry) (s : Store) (e : σ) :
    (Op.exec (logAction W entry).run s e).2 = (Op.exec W.now s e).2 := by
  rw [logAction_exec]

theorem warnActor_exec (config : EnforcerConfig) (A : Adapter (Op σ)) (v : Violation)
    (t : LiveSession) (s : Store) (e : σ) :
    Op.exec (warnActor W config A v t).run s e =
      match A.kind with
      | .plex => Op.exec (logAction W (enforcementEntry v t .warn v.reason true)).run s e
      | .jellyfin =>
        let call := Op.exec (A.sendMessage (Jellyfin.controlSessionId t.sessionKey t.raw)
          v.warnTitle v.warnText config.warnToastTimeoutMs) s e
        let (succeeded, reason) := warnDelivery v call.1.1
        Op.exec (logAction W (enforcementEntry v t .warn reason succeeded)).run call.1.2 call.2 := by
  unfold warnActor
  cases A.kind <;> simp only [Op.exec_run_bind, Op.exec_run_pure, Op.exec_run_lift]

theorem killTarget_exec (A : Adapter (Op σ)) (v : Violation) (t : LiveSession) (s : Store)
    (e : σ) :
    Op.exec (killTarget W A v t).run s e =
      let call := Op.exec (A.terminate t.sessionKey v.killReason) s e
      let (succeeded, reason) := killResult v call.1.1
      match Op.exec (logAction W (enforcementEntry v t .kill reason succeeded)).run
          call.1.2 call.2 with
      | ((.ok _, s'), e') => ((.ok (if succeeded then .killed else .killFailed), s'), e')
      | ((.error err, s'), e') => ((.error err, s'), e') := by
  simp only [killTarget, Op.exec_run_bind, Op.exec_run_lift, Op.exec_run_pure]
  split <;> rename_i h <;> rw [h]

/-- A stop ends where logging it ends, and fails exactly when logging it fails. -/
theorem killTarget_exec_logged (A : Adapter (Op σ)) (v : Violation) (t : LiveSession) (s : Store)
    (e : σ) :
    let call := Op.exec (A.terminate t.sessionKey v.killReason) s e
    ∃ reason succeeded,
      let logged := Op.exec (logAction W (enforcementEntry v t .kill reason succeeded)).run
        call.1.2 call.2
      (Op.exec (killTarget W A v t).run s e).1.1.isOk = logged.1.1.isOk ∧
        (Op.exec (killTarget W A v t).run s e).1.2 = logged.1.2 ∧
        (Op.exec (killTarget W A v t).run s e).2 = logged.2 := by
  intro call
  rw [killTarget_exec]
  dsimp only
  generalize killResult v call.1.1 = result
  obtain ⟨succeeded, reason⟩ := result
  refine ⟨reason, succeeded, ?_⟩
  generalize Op.exec (logAction W (enforcementEntry v t .kill reason succeeded)).run
    call.1.2 call.2 = run
  rcases run with ⟨⟨_ | _, s'⟩, e'⟩ <;> exact ⟨rfl, rfl, rfl⟩

theorem prekillRound_exec_zero (config : EnforcerConfig) (A : Adapter (Op σ)) (v : Violation)
    (t : LiveSession) (start : Int) (s : Store) (e : σ) :
    Op.exec (prekillRound W config A v t start 0).run s e = ((.ok (), s), e) := rfl

theorem prekillRound_exec_succ (config : EnforcerConfig) (A : Adapter (Op σ)) (v : Violation)
    (t : LiveSession) (start : Int) (fuel : Nat) (s : Store) (e : σ) :
    Op.exec (prekillRound W config A v t start (fuel + 1)).run s e =
      let i := Op.exec W.instant s e
      if i.1.1 - start ≥ config.prekillWindowMs then ((.ok (), i.1.2), i.2)
      else
        let call := Op.exec (A.sendMessage (Jellyfin.controlSessionId t.sessionKey t.raw)
          v.warnTitle v.warnText config.prekillToastTimeoutMs) i.1.2 i.2
        let wait := min config.prekillTickMs (config.prekillWindowMs - (i.1.1 - start))
        if wait ≤ 0 then ((.ok (), call.1.2), call.2)
        else
          let p := Op.exec (W.pause wait) call.1.2 call.2
          if p.1.1 then ((.error .unavailable, p.1.2), p.2)
          else Op.exec (prekillRound W config A v t start fuel).run p.1.2 p.2 := by
  rw [prekillRound]
  simp only [Op.exec_run_bind, Op.exec_run_lift]
  by_cases hw : (Op.exec W.instant s e).1.1 - start ≥ config.prekillWindowMs
  · simp [hw]
  · simp only [hw, if_false, Op.exec_run_bind, Op.exec_run_lift]
    by_cases hwait : min config.prekillTickMs
        (config.prekillWindowMs - ((Op.exec W.instant s e).1.1 - start)) ≤ 0
    · simp [hwait]
    · simp only [hwait, if_false, Op.exec_run_bind, pauseFor_exec]
      cases (Op.exec (W.pause (min config.prekillTickMs
        (config.prekillWindowMs - ((Op.exec W.instant s e).1.1 - start)))) _ _).1.1 <;> rfl

theorem prekillToasts_exec (config : EnforcerConfig) (A : Adapter (Op σ)) (v : Violation)
    (t : LiveSession) (s : Store) (e : σ) :
    Op.exec (prekillToasts W config A v t).run s e =
      let i := Op.exec W.instant s e
      Op.exec (prekillRound W config A v t i.1.1 (prekillRounds config)).run i.1.2 i.2 := by
  simp only [prekillToasts, Op.exec_run_bind, Op.exec_run_lift]

theorem killWithNotice_exec (config : EnforcerConfig) (A : Adapter (Op σ)) (v : Violation)
    (t : LiveSession) (s : Store) (e : σ) :
    Op.exec (killWithNotice W config A v t).run s e =
      if A.kind = .jellyfin then
        match Op.exec (prekillToasts W config A v t).run s e with
        | ((.ok _, s₁), e₁) => Op.exec (killTarget W A v t).run s₁ e₁
        | ((.error err, s₁), e₁) => ((.error err, s₁), e₁)
      else Op.exec (killTarget W A v t).run s e := by
  by_cases hk : A.kind = .jellyfin
  · simp only [killWithNotice, hk, beq_self_eq_true, ↓reduceIte, Op.exec_run_bind]
    split <;> rename_i h <;> rw [h]
  · simp [killWithNotice, hk]

theorem warnUnlessRecent_exec (config : EnforcerConfig) (A : Adapter (Op σ)) (policy : Policy)
    (v : Violation) (t : LiveSession) (s : Store) (e : σ) :
    Op.exec (warnUnlessRecent W config A policy v t).run s e =
      let c := Op.exec W.now s e
      if warnedRecently config (s.lastWarnedAt policy.id v.serverId v.actorKey) c.1.1 then
        ((.ok false, c.1.2), c.2)
      else
        match Op.exec (warnActor W config A v t).run c.1.2 c.2 with
        | ((.ok _, s'), e') => ((.ok true, s'), e')
        | ((.error err, s'), e') => ((.error err, s'), e') := by
  simp only [warnUnlessRecent, Op.exec_run_bind, Op.exec_run_get, Op.exec_run_lift]
  split
  · rfl
  · simp only [Op.exec_run_bind, Op.exec_run_pure]
    split <;> rename_i h <;> rw [h]

/-- When the actor was not warned within the cooldown at the time the clock tells, the warning
stage ends where the warning ends, and fails exactly when it fails. -/
theorem warnUnlessRecent_exec_warned (config : EnforcerConfig) (A : Adapter (Op σ))
    (policy : Policy) (v : Violation) (t : LiveSession) (s : Store) (e : σ)
    (h : warnedRecently config (s.lastWarnedAt policy.id v.serverId v.actorKey)
      (Op.exec W.now s e).1.1 = false) :
    let warned := Op.exec (warnActor W config A v t).run (Op.exec W.now s e).1.2
      (Op.exec W.now s e).2
    (Op.exec (warnUnlessRecent W config A policy v t).run s e).1.1.isOk = warned.1.1.isOk ∧
      (Op.exec (warnUnlessRecent W config A policy v t).run s e).1.2 = warned.1.2 ∧
      (Op.exec (warnUnlessRecent W config A policy v t).run s e).2 = warned.2 := by
  intro warned
  simp only [warnUnlessRecent_exec, h, Bool.false_eq_true, if_false, warned]
  generalize Op.exec (warnActor W config A v t).run (Op.exec W.now s e).1.2
    (Op.exec W.now s e).2 = run
  rcases run with ⟨⟨_ | _, s'⟩, e'⟩ <;> exact ⟨rfl, rfl, rfl⟩

theorem recheckAndKill_exec (config : EnforcerConfig) (A : Adapter (Op σ)) (policy : Policy)
    (o : Overrides) (v : Violation) (s : Store) (e : σ) :
    Op.exec (recheckAndKill W config A policy o v).run s e =
      let p := Op.exec (W.pause config.recheckDelayMs) s e
      if p.1.1 then ((.error .unavailable, p.1.2), p.2)
      else
        let c := Op.exec W.now p.1.2 p.2
        match (policy.evaluate (c.1.2.liveView (liveSince config c.1.1)) o).find? (·.sameAs v) with
        | none => ((.ok .cleared, c.1.2), c.2)
        | some cur =>
          match selectTarget cur.sessions cur.selector with
          | none => ((.ok .cleared, c.1.2), c.2)
          | some target => Op.exec (killWithNotice W config A cur target).run c.1.2 c.2 := by
  simp only [recheckAndKill, Op.exec_run_bind, pauseFor_exec]
  cases (Op.exec (W.pause config.recheckDelayMs) s e).1.1
  · simp only [Bool.false_eq_true, ↓reduceIte, Op.exec_run_lift, Op.exec_run_get]
    generalize Op.exec W.now (Op.exec (W.pause config.recheckDelayMs) s e).1.2
      (Op.exec (W.pause config.recheckDelayMs) s e).2 = c
    generalize (policy.evaluate (c.1.2.liveView (liveSince config c.1.1)) o).find? (·.sameAs v)
      = found
    rcases found with _ | cur
    · rfl
    · dsimp only
      generalize selectTarget cur.sessions cur.selector = selected
      rcases selected with _ | target <;> rfl
  · rfl

theorem handleViolation_exec (F : ServerConfig → Except ProviderError (Adapter (Op σ)))
    (config : EnforcerConfig) (policy : Policy) (o : Overrides) (v : Violation) (s : Store)
    (e : σ) :
    Op.exec (handleViolation W F config policy o v) s e =
      match selectTarget v.sessions v.selector, s.server? v.serverId with
      | some target, some server =>
        match F server.config with
        | .error err => (((false, .error (.provider err)), s), e)
        | .ok A =>
          match Op.exec (warnUnlessRecent W config A policy v target).run s e with
          | ((.error err, s₁), e₁) => (((false, .error err), s₁), e₁)
          | ((.ok w, s₁), e₁) =>
            let r := Op.exec (recheckAndKill W config A policy o v).run s₁ e₁
            (((w, r.1.1), r.1.2), r.2)
      | _, _ => (((false, .ok .skipped), s), e) := by
  simp only [handleViolation]
  generalize selectTarget v.sessions v.selector = selected
  rcases selected with _ | target
  · rfl
  · simp only [Op.exec_bind, Op.exec_get]
    generalize s.server? v.serverId = found
    rcases found with _ | server
    · rfl
    · dsimp only
      generalize F server.config = built
      rcases built with err | A
      · rfl
      · simp only [Op.exec_bind]
        generalize Op.exec (warnUnlessRecent W config A policy v target).run s e = warned
        rcases warned with ⟨⟨_ | w, s₁⟩, e₁⟩ <;> rfl

theorem handleEach_exec_nil (F : ServerConfig → Except ProviderError (Adapter (Op σ)))
    (config : EnforcerConfig) (o : Overrides) (report : TickReport) (s : Store) (e : σ) :
    Op.exec (handleEach W F config o [] report) s e = ((report, s), e) := rfl

theorem handleEach_exec_cons (F : ServerConfig → Except ProviderError (Adapter (Op σ)))
    (config : EnforcerConfig) (o : Overrides) (policy : Policy) (v : Violation)
    (rest : List (Policy × Violation)) (report : TickReport) (s : Store) (e : σ) :
    Op.exec (handleEach W F config o ((policy, v) :: rest) report) s e =
      let h := Op.exec (handleViolation W F config policy o v) s e
      let counted := { report with violations := report.violations + 1 }
      let counted := if h.1.1.1 then { counted with warned := counted.warned + 1 } else counted
      let next := fun report => Op.exec (handleEach W F config o rest report) h.1.2 h.2
      match h.1.1.2 with
      | .ok .skipped => next counted
      | .ok .cleared => next { counted with cleared := counted.cleared + 1 }
      | .ok .killed => next { counted with killed := counted.killed + 1 }
      | .ok .killFailed => next { counted with failed := counted.failed + 1 }
      | .error .unavailable => (({ counted with abandoned := true }, h.1.2), h.2)
      | .error _ => next { counted with failed := counted.failed + 1 } := by
  simp only [handleEach, Op.exec_bind]
  generalize Op.exec (handleViolation W F config policy o v) s e = h
  rcases h with ⟨⟨⟨warned, err | outcome⟩, s₁⟩, e₁⟩
  · cases err <;> rfl
  · cases outcome <;> rfl

/-- The violations the enabled policies of `s` report over the live view `live`, in order. -/
def Store.tickWork (s : Store) (live : List LiveSession) : List (Policy × Violation) :=
  if s.currentSettings.enforcementEnabled then
    (s.enabledPolicies.filterMap fun row => (Policy.ofRow row).toOption).flatMap fun p =>
      (p.evaluate live s.streamOverrides).map (p, ·)
  else []

/-- The live view of a tick started from `(s, e)`: that of the store where the wall clock is
read, at the time it tells. -/
def TickWorld.tickView (config : EnforcerConfig) (s : Store) (e : σ) : List LiveSession :=
  (Op.exec W.now s e).1.2.liveView (liveSince config (Op.exec W.now s e).1.1)

theorem runTick_exec (F : ServerConfig → Except ProviderError (Adapter (Op σ)))
    (config : EnforcerConfig) (s : Store) (e : σ) :
    Op.exec (runTick W F config) s e =
      if !s.currentSettings.enforcementEnabled then (({}, s), e)
      else
        let policies := s.enabledPolicies.filterMap fun row => (Policy.ofRow row).toOption
        if policies.isEmpty then (({ policies := policies.length }, s), e)
        else
          let c := Op.exec W.now s e
          let live := W.tickView config s e
          if live.isEmpty then
            (({ policies := policies.length, liveSessions := live.length }, c.1.2), c.2)
          else
            Op.exec (handleEach W F config s.streamOverrides
              (policies.flatMap fun p => (p.evaluate live s.streamOverrides).map (p, ·))
              { policies := policies.length, liveSessions := live.length }) c.1.2 c.2 := by
  simp only [runTick, Op.exec_bind, Op.exec_get]
  by_cases off : (!s.currentSettings.enforcementEnabled) = true
  · simp only [off, ↓reduceIte]
    rfl
  · by_cases none : (s.enabledPolicies.filterMap fun row => (Policy.ofRow row).toOption).isEmpty
    · simp only [off, none, ↓reduceIte]
      rfl
    · simp only [off, none, Bool.false_eq_true, ↓reduceIte, Op.exec_bind, Op.exec_get,
        TickWorld.tickView]
      by_cases quiet :
          ((Op.exec W.now s e).1.2.liveView (liveSince config (Op.exec W.now s e).1.1)).isEmpty
      · simp only [quiet, ↓reduceIte]
        rfl
      · simp only [quiet, Bool.false_eq_true, ↓reduceIte]

/-! ## What each stage can do -/

/-- Handling `v` through adapter `A` from `(s, e)` reaches its recheck at `(s₁, e₁)`: the
violation has a session to act on, and the warning stage ended there without failure. -/
def ReachesRecheck (config : EnforcerConfig) (A : Adapter (Op σ)) (policy : Policy)
    (v : Violation) (s : Store) (e : σ) (s₁ : Store) (e₁ : σ) : Prop :=
  ∃ target warned, selectTarget v.sessions v.selector = some target ∧
    Op.exec (warnUnlessRecent W config A policy v target).run s e = ((.ok warned, s₁), e₁)

/-- From `(s, e)` the recheck's pause ends without shutdown, and the wall clock then tells `now`
with the store at `s'` and the servers at `e'`: the recheck reads the live view of `s'` at
`now`. -/
def RecheckSees (config : EnforcerConfig) (s : Store) (e : σ) (now : Int) (s' : Store) (e' : σ) :
    Prop :=
  ∃ s₁ e₁, Op.exec (W.pause config.recheckDelayMs) s e = ((false, s₁), e₁) ∧
    Op.exec W.now s₁ e₁ = ((now, s'), e')

/-- Handling a violation leaves the store and the servers as they were (no session to act on, no
such server, or no adapter for it), or ends with a failed warning stage run through the adapter
the factory built for the violation's server, or goes on to the recheck from where a successful
warning stage left them. -/
theorem handleViolation_exec_cases (F : ServerConfig → Except ProviderError (Adapter (Op σ)))
    (config : EnforcerConfig) (policy : Policy) (o : Overrides) (v : Violation) (s : Store)
    (e : σ) :
    let r := Op.exec (handleViolation W F config policy o v) s e
    (r.1.2 = s ∧ r.2 = e) ∨
    (∃ row A target err, s.server? v.serverId = some row ∧ F row.config = .ok A ∧
      selectTarget v.sessions v.selector = some target ∧
      Op.exec (warnUnlessRecent W config A policy v target).run s e = ((.error err, r.1.2), r.2)) ∨
    (∃ row A s₁ e₁, s.server? v.serverId = some row ∧ F row.config = .ok A ∧
      ReachesRecheck W config A policy v s e s₁ e₁ ∧
      r.1.2 = (Op.exec (recheckAndKill W config A policy o v).run s₁ e₁).1.2 ∧
      r.2 = (Op.exec (recheckAndKill W config A policy o v).run s₁ e₁).2) := by
  intro r
  simp only [r, handleViolation_exec]
  rcases htarget : selectTarget v.sessions v.selector with _ | target
  · exact .inl ⟨rfl, rfl⟩
  rcases hrow : s.server? v.serverId with _ | row
  · exact .inl ⟨rfl, rfl⟩
  dsimp only
  rcases hA : F row.config with err | A
  · exact .inl ⟨rfl, rfl⟩
  dsimp only
  rcases hw : Op.exec (warnUnlessRecent W config A policy v target).run s e with
    ⟨⟨err | warned, s₁⟩, e₁⟩
  · exact .inr (.inl ⟨row, A, target, err, rfl, hA, rfl, hw⟩)
  · exact .inr (.inr ⟨row, A, s₁, e₁, rfl, hA, ⟨target, warned, htarget, hw⟩, rfl, rfl⟩)

/-- The recheck stops at a pause that ended in shutdown, or it reads the live view after its
pause and finds the violation cleared there, or it finds the violation again there and stops the
session it selects, after the pre-kill messages of a Jellyfin server. -/
theorem recheckAndKill_exec_cases (config : EnforcerConfig) (A : Adapter (Op σ))
    (policy : Policy) (o : Overrides) (v : Violation) (s : Store) (e : σ) :
    let r := Op.exec (recheckAndKill W config A policy o v).run s e
    (∃ s₁ e₁, Op.exec (W.pause config.recheckDelayMs) s e = ((true, s₁), e₁) ∧
      r = ((.error .unavailable, s₁), e₁)) ∨
    ∃ now s₁ e₁, RecheckSees W config s e now s₁ e₁ ∧
      (r = ((.ok .cleared, s₁), e₁) ∨
        ∃ cur target,
          (policy.evaluate (s₁.liveView (liveSince config now)) o).find? (·.sameAs v) = some cur ∧
          selectTarget cur.sessions cur.selector = some target ∧
          r = Op.exec (killWithNotice W config A cur target).run s₁ e₁) := by
  intro r
  simp only [r, recheckAndKill_exec]
  rcases hp : Op.exec (W.pause config.recheckDelayMs) s e with ⟨⟨_ | _, s₁⟩, e₁⟩
  · rcases hc : Op.exec W.now s₁ e₁ with ⟨⟨now, s₂⟩, e₂⟩
    refine .inr ⟨now, s₂, e₂, ⟨s₁, e₁, hp, hc⟩, ?_⟩
    simp only [Bool.false_eq_true, if_false]
    split
    · exact .inl rfl
    · rename_i cur hcur
      split
      · exact .inl rfl
      · rename_i target htarget
        exact .inr ⟨cur, target, hcur, htarget, rfl⟩
  · exact .inl ⟨s₁, e₁, rfl, rfl⟩

/-- Pre-kill messages end without failure, or at a pause that ended in shutdown. -/
theorem prekillRound_exec_result (config : EnforcerConfig) (A : Adapter (Op σ)) (v : Violation)
    (t : LiveSession) (start : Int) (fuel : Nat) (s : Store) (e : σ) :
    (Op.exec (prekillRound W config A v t start fuel).run s e).1.1 = .ok () ∨
      (Op.exec (prekillRound W config A v t start fuel).run s e).1.1 = .error .unavailable := by
  induction fuel generalizing s e with
  | zero => exact .inl rfl
  | succ fuel ih =>
    rw [prekillRound_exec_succ]
    dsimp only
    split
    · exact .inl rfl
    · split
      · exact .inl rfl
      · split
        · exact .inr rfl
        · exact ih _ _

/-- Stopping with notice fails at a pre-kill pause that ended in shutdown, or stops the session
once the notice, if any, has been given without failure. -/
theorem killWithNotice_exec_cases (config : EnforcerConfig) (A : Adapter (Op σ)) (v : Violation)
    (t : LiveSession) (s : Store) (e : σ) :
    let r := Op.exec (killWithNotice W config A v t).run s e
    (A.kind = .jellyfin ∧ r.1.1 = .error .unavailable ∧
      Op.exec (prekillToasts W config A v t).run s e = ((.error .unavailable, r.1.2), r.2)) ∨
    ∃ s₁ e₁, Op.exec (if A.kind = .jellyfin then prekillToasts W config A v t
        else pure ()).run s e = ((.ok (), s₁), e₁) ∧
      r = Op.exec (killTarget W A v t).run s₁ e₁ := by
  intro r
  simp only [r, killWithNotice_exec]
  by_cases hk : A.kind = .jellyfin
  · simp only [if_pos hk]
    have hres := prekillRound_exec_result W config A v t (Op.exec W.instant s e).1.1
      (prekillRounds config) (Op.exec W.instant s e).1.2 (Op.exec W.instant s e).2
    rw [← prekillToasts_exec] at hres
    rcases hp : Op.exec (prekillToasts W config A v t).run s e with ⟨⟨err | _, s₁⟩, e₁⟩
    · rw [hp] at hres
      have herr : err = .unavailable := by
        rcases hres with h | h <;> cases h
        rfl
      subst herr
      exact .inl ⟨hk, rfl, rfl⟩
    · exact .inr ⟨s₁, e₁, rfl, rfl⟩
  · simp only [if_neg hk]
    exact .inr ⟨s, e, rfl, rfl⟩

/-- Handling a list of violations goes on from where handling the first one left the store and
the servers, or stops there. -/
theorem handleEach_exec_cons_cases (F : ServerConfig → Except ProviderError (Adapter (Op σ)))
    (config : EnforcerConfig) (o : Overrides) (policy : Policy) (v : Violation)
    (rest : List (Policy × Violation)) (report : TickReport) (s : Store) (e : σ) :
    let h := Op.exec (handleViolation W F config policy o v) s e
    let r := Op.exec (handleEach W F config o ((policy, v) :: rest) report) s e
    (r.1.2 = h.1.2 ∧ r.2 = h.2) ∨
      ∃ report', r = Op.exec (handleEach W F config o rest report') h.1.2 h.2 := by
  intro h r
  simp only [r, handleEach_exec_cons]
  split
  case h_5 => exact .inl ⟨rfl, rfl⟩
  all_goals exact .inr ⟨_, rfl⟩

/-- A tick ends where it began, or where it read the wall clock, or it handles from there every
violation its enabled policies report over its live view. -/
theorem runTick_exec_cases (F : ServerConfig → Except ProviderError (Adapter (Op σ)))
    (config : EnforcerConfig) (s : Store) (e : σ) :
    let r := Op.exec (runTick W F config) s e
    let c := Op.exec W.now s e
    (r.1.2 = s ∧ r.2 = e) ∨ (r.1.2 = c.1.2 ∧ r.2 = c.2) ∨
      ∃ report, r = Op.exec (handleEach W F config s.streamOverrides
        ((s.enabledPolicies.filterMap fun row => (Policy.ofRow row).toOption).flatMap fun p =>
          (p.evaluate (W.tickView config s e) s.streamOverrides).map (p, ·))
        report) c.1.2 c.2 := by
  intro r c
  simp only [r, runTick_exec]
  split
  · exact .inl ⟨rfl, rfl⟩
  · split
    · exact .inl ⟨rfl, rfl⟩
    · split
      · exact .inr (.inl ⟨rfl, rfl⟩)
      · exact .inr (.inr ⟨_, rfl⟩)

/-! ## What every stage keeps -/

/-- What the world keeps holds where the recheck reads the live view. -/
theorem RecheckSees.keeps {I : Store → σ → Prop} {W} (hW : W.Keeps I) {config : EnforcerConfig}
    {s : Store} {e : σ} {now : Int} {s' : Store} {e' : σ} (h : RecheckSees W config s e now s' e')
    (hI : I s e) : I s' e' := by
  obtain ⟨s₁, e₁, hp, hc⟩ := h
  have paused := hW.pause config.recheckDelayMs s e hI
  rw [hp] at paused
  have read := hW.now s₁ e₁ paused
  rw [hc] at read
  exact read

/-- Handling a violation keeps what its warning stage and its recheck keep, through every adapter
the factory builds. -/
theorem handleViolation_keeps_of_stages {W} {I : Store → σ → Prop}
    {F : ServerConfig → Except ProviderError (Adapter (Op σ))} {config : EnforcerConfig}
    {policy : Policy} {o : Overrides} {v : Violation}
    (warn : ∀ server A, F server = .ok A → ∀ t, (warnUnlessRecent W config A policy v t).run.Keeps I)
    (recheck : ∀ server A, F server = .ok A → (recheckAndKill W config A policy o v).run.Keeps I) :
    (handleViolation W F config policy o v).Keeps I := by
  intro s e h
  rcases handleViolation_exec_cases W F config policy o v s e with
    ⟨hs, he⟩ | ⟨row, A, target, err, -, hA, -, hw⟩ |
      ⟨row, A, s₁, e₁, -, hA, ⟨target, w, -, hw⟩, hs, he⟩
  · rw [hs, he]
    exact h
  · have warned := warn _ _ hA target s e h
    rw [hw] at warned
    exact warned
  · have warned := warn _ _ hA target s e h
    rw [hw] at warned
    rw [hs, he]
    exact recheck _ _ hA s₁ e₁ warned

section Keeps

variable {W} {I : Store → σ → Prop} (hW : W.Keeps I) (hlog : RecordKeeps I)
include hW hlog

theorem logAction_keeps (entry : EnforcementEntry) : (logAction W entry).run.Keeps I := by
  intro s e h
  have hc := hW.now s e h
  rw [logAction_exec]
  dsimp only
  split
  · rename_i s' hrec
    exact hlog _ _ _ _ _ hrec hc
  · exact hc

theorem warnActor_keeps (config : EnforcerConfig) {A : Adapter (Op σ)} (hA : A.Keeps I)
    (v : Violation) (t : LiveSession) : (warnActor W config A v t).run.Keeps I := by
  intro s e h
  rw [warnActor_exec]
  cases A.kind with
  | plex => exact logAction_keeps hW hlog _ s e h
  | jellyfin => exact logAction_keeps hW hlog _ _ _ (hA.sendMessage _ _ _ _ s e h)

theorem killTarget_keeps {A : Adapter (Op σ)} (hA : A.Keeps I) (v : Violation)
    (t : LiveSession) : (killTarget W A v t).run.Keeps I := by
  intro s e h
  obtain ⟨reason, succeeded, -, hs, he⟩ := killTarget_exec_logged W A v t s e
  rw [hs, he]
  exact logAction_keeps hW hlog _ _ _ (hA.terminate _ _ s e h)

omit hlog in
/-- The pre-kill rounds keep what the world and their one message keep. -/
theorem prekillRound_keeps (config : EnforcerConfig) {A : Adapter (Op σ)} {v : Violation}
    {t : LiveSession} (hmsg : (A.sendMessage (Jellyfin.controlSessionId t.sessionKey t.raw)
      v.warnTitle v.warnText config.prekillToastTimeoutMs).Keeps I) (start : Int) (fuel : Nat) :
    (prekillRound W config A v t start fuel).run.Keeps I := by
  induction fuel with
  | zero => exact fun _ _ h => h
  | succ fuel ih =>
    intro s e h
    have hi := hW.instant s e h
    rw [prekillRound_exec_succ]
    dsimp only
    split
    · exact hi
    · have sent := hmsg _ _ hi
      split
      · exact sent
      · have paused := hW.pause (min config.prekillTickMs
          (config.prekillWindowMs - ((Op.exec W.instant s e).1.1 - start))) _ _ sent
        split
        · exact paused
        · exact ih _ _ paused

omit hlog in
theorem prekillToasts_keeps (config : EnforcerConfig) {A : Adapter (Op σ)} {v : Violation}
    {t : LiveSession} (hmsg : (A.sendMessage (Jellyfin.controlSessionId t.sessionKey t.raw)
      v.warnTitle v.warnText config.prekillToastTimeoutMs).Keeps I) :
    (prekillToasts W config A v t).run.Keeps I := by
  intro s e h
  rw [prekillToasts_exec]
  exact prekillRound_keeps hW config hmsg _ _ _ _ (hW.instant s e h)

theorem killWithNotice_keeps (config : EnforcerConfig) {A : Adapter (Op σ)} (hA : A.Keeps I)
    (v : Violation) (t : LiveSession) : (killWithNotice W config A v t).run.Keeps I := by
  intro s e h
  have notice := prekillToasts_keeps (v := v) (t := t) hW config (hA.sendMessage _ _ _ _) s e h
  rcases killWithNotice_exec_cases W config A v t s e with ⟨-, -, hp⟩ | ⟨s₁, e₁, hp, hr⟩
  · rw [hp] at notice
    exact notice
  · have hnotice : I s₁ e₁ := by
      split at hp
      · rw [hp] at notice
        exact notice
      · cases hp
        exact h
    rw [hr]
    exact killTarget_keeps hW hlog hA v t s₁ e₁ hnotice

theorem warnUnlessRecent_keeps (config : EnforcerConfig) {A : Adapter (Op σ)} (hA : A.Keeps I)
    (policy : Policy) (v : Violation) (t : LiveSession) :
    (warnUnlessRecent W config A policy v t).run.Keeps I := by
  intro s e h
  have hc := hW.now s e h
  have warned := warnActor_keeps hW hlog config hA v t _ _ hc
  rw [warnUnlessRecent_exec]
  dsimp only
  split
  · exact hc
  · split <;> rename_i hw <;> rw [hw] at warned <;> exact warned

theorem recheckAndKill_keeps (config : EnforcerConfig) {A : Adapter (Op σ)} (hA : A.Keeps I)
    (policy : Policy) (o : Overrides) (v : Violation) :
    (recheckAndKill W config A policy o v).run.Keeps I := by
  intro s e h
  rcases recheckAndKill_exec_cases W config A policy o v s e with
    ⟨s₁, e₁, hp, hr⟩ | ⟨now, s₁, e₁, hsees, hr⟩
  · have paused := hW.pause config.recheckDelayMs s e h
    rw [hp] at paused
    rw [hr]
    exact paused
  · have read := hsees.keeps hW h
    rcases hr with hr | ⟨cur, target, -, -, hr⟩
    · rw [hr]
      exact read
    · rw [hr]
      exact killWithNotice_keeps hW hlog config hA cur target s₁ e₁ read

theorem handleViolation_keeps {F : ServerConfig → Except ProviderError (Adapter (Op σ))}
    (hF : ∀ server A, F server = .ok A → A.Keeps I) (config : EnforcerConfig) (policy : Policy)
    (o : Overrides) (v : Violation) : (handleViolation W F config policy o v).Keeps I :=
  handleViolation_keeps_of_stages
    (fun _ _ hA t => warnUnlessRecent_keeps hW hlog config (hF _ _ hA) policy v t)
    (fun _ _ hA => recheckAndKill_keeps hW hlog config (hF _ _ hA) policy o v)

end Keeps

/-! ## What a tick keeps

A tick changes the store and the servers only by reading the clock and handling its violations
one after another, so a property that both keep holds after the whole tick.
-/

section TickKeeps

variable {W} {F : ServerConfig → Except ProviderError (Adapter (Op σ))} {config : EnforcerConfig}
  {o : Overrides}

theorem handleEach_keeps (I : Store → σ → Prop) (work : List (Policy × Violation))
    (step : ∀ pv ∈ work, (handleViolation W F config pv.1 o pv.2).Keeps I)
    (report : TickReport) {s : Store} {e : σ} (h : I s e) :
    I (Op.exec (handleEach W F config o work report) s e).1.2
      (Op.exec (handleEach W F config o work report) s e).2 := by
  induction work generalizing report s e with
  | nil => exact h
  | cons pv rest ih =>
    obtain ⟨policy, v⟩ := pv
    have first := step (policy, v) List.mem_cons_self s e h
    rcases handleEach_exec_cons_cases W F config o policy v rest report s e with
      ⟨hs, he⟩ | ⟨report', hr⟩
    · rw [hs, he]
      exact first
    · rw [hr]
      exact ih (fun pv hpv => step pv (List.mem_cons_of_mem _ hpv)) report' first

/-- What reading the clock keeps, and handling any violation that an enabled policy finds in the
tick's live view keeps, a tick keeps. -/
theorem runTick_keeps (I : Store → σ → Prop) {s : Store} {e : σ}
    (clock : ∀ s e, I s e → I (Op.exec W.now s e).1.2 (Op.exec W.now s e).2)
    (step : ∀ p v, p ∈ s.enabledPolicies.filterMap (fun row => (Policy.ofRow row).toOption) →
      v ∈ p.evaluate (W.tickView config s e) s.streamOverrides →
        (handleViolation W F config p s.streamOverrides v).Keeps I)
    (h : I s e) :
    I (Op.exec (runTick W F config) s e).1.2 (Op.exec (runTick W F config) s e).2 := by
  rcases runTick_exec_cases W F config s e with ⟨hs, he⟩ | ⟨hs, he⟩ | ⟨report, hr⟩
  · rw [hs, he]
    exact h
  · rw [hs, he]
    exact clock s e h
  · rw [hr]
    refine handleEach_keeps I _ ?_ report (clock s e h)
    intro pv hpv
    obtain ⟨p, hp, hpv⟩ := List.mem_flatMap.mp hpv
    obtain ⟨v, hv, rfl⟩ := List.mem_map.mp hpv
    exact step p v hp hv

end TickKeeps

end StreamWarden
