import StreamWarden.Proofs.TickRuns
import StreamWarden.Proofs.Evaluation
import StreamWarden.Media.Scripted

/-!
# Which server each call of a tick reaches

Messages and stops are observed by recording them: `recordCalls F` builds the adapters `F`
builds, each noting every message and stop it is asked for, with the settings of the server it
was built for, in a record kept beside the servers' state. Nothing else changes.

The law (`calls_reach_violation_server`): every message and stop made while handling a
violation goes through the adapter built from the server row with the violation's server id, to
a session of that server that the policy applies to. The warning goes to a session of the
violation, taken from the live view the tick evaluated; the pre-kill messages and the stop go to
a session of the violation the recheck found again, in the live view it read after its pause. So
no session is ever warned or stopped through another server's adapter.
-/

namespace StreamWarden

variable {σ : Type}

/-- A message or a stop asked of a media server, with the settings of the server whose adapter
was asked. -/
inductive ServerCall where
  | message (server : ServerConfig) (sessionId : String)
  | stop (server : ServerConfig) (sessionKey : String)

/-- The settings of the server whose adapter took the call. -/
def ServerCall.server : ServerCall → ServerConfig
  | .message server _ | .stop server _ => server

namespace Op

variable {τ α : Type}

/-- Runs an action over the servers' state beside a record that it leaves alone. -/
def beside (x : Op σ α) : Op (σ × τ) α := fun s et =>
  let r := Op.exec x s et.1
  ((r.1.1, r.1.2), (r.2, et.2))

/-- Adds a call to the record. -/
def note (c : τ) : Op (σ × List τ) Unit := fun s et => (((), s), (et.1, et.2 ++ [c]))

/-- An action run beside the record keeps every property of the record. -/
theorem beside_keeps (x : Op σ α) (P : τ → Prop) : x.beside.Keeps fun _ et => P et.2 :=
  fun _ _ h => h

end Op

/-- The world `W`, over the servers' state beside a record that it leaves alone. -/
def TickWorld.beside {τ : Type} (W : TickWorld (Op σ)) : TickWorld (Op (σ × τ)) where
  now := W.now.beside
  instant := W.instant.beside
  pause ms := (W.pause ms).beside

theorem TickWorld.beside_keeps {τ : Type} (W : TickWorld (Op σ)) (P : τ → Prop) :
    W.beside.Keeps fun _ et => P et.2 :=
  ⟨Op.beside_keeps _ P, Op.beside_keeps _ P, fun _ => Op.beside_keeps _ P⟩

@[simp] theorem TickWorld.beside_tickView {τ : Type} (W : TickWorld (Op σ))
    (config : EnforcerConfig) (s : Store) (e : σ) (c : τ) :
    W.beside.tickView config s (e, c) = W.tickView config s e := rfl

/-- The adapter `A` of the server with settings `server`, noting each message and stop it is
asked for. -/
def Adapter.recorded (A : Adapter (Op σ)) (server : ServerConfig) :
    Adapter (Op (σ × List ServerCall)) where
  kind := A.kind
  serverId := A.serverId
  listSessions at_ := (A.listSessions at_).beside
  sendMessage key title text ms := do
    Op.note (.message server key)
    (A.sendMessage key title text ms).beside
  terminate key reason := do
    Op.note (.stop server key)
    (A.terminate key reason).beside

/-- The factory `F`, each adapter it builds noting its calls. -/
def recordCalls (F : ServerConfig → Except ProviderError (Adapter (Op σ))) (server : ServerConfig) :
    Except ProviderError (Adapter (Op (σ × List ServerCall))) :=
  (F server).map (·.recorded server)

@[simp] theorem recordCalls_eq_ok {F : ServerConfig → Except ProviderError (Adapter (Op σ))}
    {server : ServerConfig} {B : Adapter (Op (σ × List ServerCall))} :
    recordCalls F server = .ok B ↔ ∃ A, F server = .ok A ∧ B = A.recorded server := by
  unfold recordCalls
  cases F server <;> simp [Except.map, eq_comm]

@[simp] theorem recorded_kind (A : Adapter (Op σ)) (server : ServerConfig) :
    (A.recorded server).kind = A.kind := rfl

theorem recorded_sendMessage_calls (A : Adapter (Op σ)) (server : ServerConfig)
    (key title text : String) (ms : Nat) (s : Store) (et : σ × List ServerCall) :
    (Op.exec ((A.recorded server).sendMessage key title text ms) s et).2.2 =
      et.2 ++ [.message server key] := rfl

theorem recorded_terminate_calls (A : Adapter (Op σ)) (server : ServerConfig)
    (key reason : String) (s : Store) (et : σ × List ServerCall) :
    (Op.exec ((A.recorded server).terminate key reason) s et).2.2 = et.2 ++ [.stop server key] :=
  rfl

/-! ## What each stage asks of the servers -/

/-- The record holds `calls` and then only calls that `P` admits. -/
def CallsAfter (calls : List ServerCall) (P : ServerCall → Prop) (record : List ServerCall) :
    Prop :=
  ∃ made, record = calls ++ made ∧ ∀ c ∈ made, P c

namespace CallsAfter

variable {calls record record' : List ServerCall} {P Q : ServerCall → Prop}

theorem refl (calls : List ServerCall) (P : ServerCall → Prop) : CallsAfter calls P calls :=
  ⟨[], (List.append_nil calls).symm, fun _ h => nomatch h⟩

theorem of_eq (h : record = calls) (P : ServerCall → Prop) : CallsAfter calls P record :=
  h ▸ refl calls P

theorem snoc {c : ServerCall} (hc : P c) : CallsAfter calls P (calls ++ [c]) :=
  ⟨[c], rfl, fun _ h => List.mem_singleton.mp h ▸ hc⟩

theorem trans (h₁ : CallsAfter calls P record) (h₂ : CallsAfter record P record') :
    CallsAfter calls P record' := by
  obtain ⟨made₁, rfl, hP₁⟩ := h₁
  obtain ⟨made₂, rfl, hP₂⟩ := h₂
  refine ⟨made₁ ++ made₂, List.append_assoc _ _ _, fun c hc => ?_⟩
  rcases List.mem_append.mp hc with hc | hc
  · exact hP₁ c hc
  · exact hP₂ c hc

theorem mono (h : CallsAfter calls P record) (hPQ : ∀ c, P c → Q c) : CallsAfter calls Q record := by
  obtain ⟨made, rfl, hP⟩ := h
  exact ⟨made, rfl, fun c hc => hPQ c (hP c hc)⟩

end CallsAfter

section Stages

variable (W : TickWorld (Op σ)) (config : EnforcerConfig) (A : Adapter (Op σ))
  (server : ServerConfig)

/-- Logging an action asks nothing of the servers. -/
theorem logAction_calls (entry : EnforcementEntry) (s : Store) (et : σ × List ServerCall) :
    (Op.exec (logAction W.beside entry).run s et).2.2 = et.2 := by
  rw [logAction_exec_servers]
  rfl

/-- The warning asks at most one thing of the server: a message to the selected session's
client. -/
theorem warnActor_calls (v : Violation) (t : LiveSession) (s : Store) (et : σ × List ServerCall) :
    CallsAfter et.2 (· = .message server (Jellyfin.controlSessionId t.sessionKey t.raw))
      (Op.exec (warnActor W.beside config (A.recorded server) v t).run s et).2.2 := by
  rw [warnActor_exec, recorded_kind]
  cases A.kind with
  | plex =>
    rw [logAction_calls]
    exact .refl _ _
  | jellyfin =>
    dsimp only
    obtain ⟨succeeded, reason⟩ := warnDelivery v (Op.exec ((A.recorded server).sendMessage
      (Jellyfin.controlSessionId t.sessionKey t.raw) v.warnTitle v.warnText
      config.warnToastTimeoutMs) s et).1.1
    rw [logAction_calls, recorded_sendMessage_calls]
    exact .snoc rfl

theorem warnUnlessRecent_calls (policy : Policy) (v : Violation) (t : LiveSession) (s : Store)
    (et : σ × List ServerCall) :
    CallsAfter et.2 (· = .message server (Jellyfin.controlSessionId t.sessionKey t.raw))
      (Op.exec (warnUnlessRecent W.beside config (A.recorded server) policy v t).run s
        et).2.2 := by
  cases hrecent : warnedRecently config (s.lastWarnedAt policy.id v.serverId v.actorKey)
    (Op.exec W.beside.now s et).1.1
  · obtain ⟨-, -, hservers⟩ := warnUnlessRecent_exec_warned W.beside config (A.recorded server)
      policy v t s et hrecent
    rw [hservers]
    exact warnActor_calls W config A server v t _ _
  · simp only [warnUnlessRecent_exec, hrecent, if_true]
    exact .refl _ _

/-- The pre-kill messages all go to the selected session's client. -/
theorem prekillToasts_calls (v : Violation) (t : LiveSession) (s : Store)
    (et : σ × List ServerCall) :
    CallsAfter et.2 (· = .message server (Jellyfin.controlSessionId t.sessionKey t.raw))
      (Op.exec (prekillToasts W.beside config (A.recorded server) v t).run s et).2.2 :=
  prekillToasts_keeps (W.beside_keeps _) config
    (fun _ _ h => by
      simp only [recorded_sendMessage_calls]
      exact CallsAfter.trans h (.snoc rfl)) s et (.refl _ _)

/-- The stop asks one thing of the server: to stop the selected session. -/
theorem killTarget_calls (v : Violation) (t : LiveSession) (s : Store) (et : σ × List ServerCall) :
    CallsAfter et.2 (· = .stop server t.sessionKey)
      (Op.exec (killTarget W.beside (A.recorded server) v t).run s et).2.2 := by
  obtain ⟨reason, succeeded, -, -, hservers⟩ :=
    killTarget_exec_logged W.beside (A.recorded server) v t s et
  rw [hservers, logAction_calls, recorded_terminate_calls]
  exact .snoc rfl

/-- Stopping with notice asks the server for messages to the selected session's client and for
the stop of that session. -/
theorem killWithNotice_calls (v : Violation) (t : LiveSession) (s : Store)
    (et : σ × List ServerCall) :
    CallsAfter et.2 (fun c => c = .message server (Jellyfin.controlSessionId t.sessionKey t.raw) ∨
        c = .stop server t.sessionKey)
      (Op.exec (killWithNotice W.beside config (A.recorded server) v t).run s et).2.2 := by
  have hnotice := prekillToasts_calls W config A server v t s et
  rcases killWithNotice_exec_cases W.beside config (A.recorded server) v t s et with
    ⟨-, -, hp⟩ | ⟨s₁, et₁, hp, hr⟩
  · rw [hp] at hnotice
    exact hnotice.mono fun _ h => .inl h
  · have hbefore : CallsAfter et.2
        (· = .message server (Jellyfin.controlSessionId t.sessionKey t.raw)) et₁.2 := by
      split at hp
      · rw [hp] at hnotice
        exact hnotice
      · cases hp
        exact .refl _ _
    rw [hr]
    exact (hbefore.mono fun _ h => .inl h).trans
      ((killTarget_calls W A server v t s₁ et₁).mono fun _ h => .inr h)

/-- The recheck asks something of the server only once it found the violation again in the live
view it read after its pause: messages to, and the stop of, a session of the violation found. -/
theorem recheckAndKill_calls (policy : Policy) (o : Overrides) (v : Violation) (s : Store)
    (et : σ × List ServerCall) :
    CallsAfter et.2 (fun c => ∃ now s₁ et₁, RecheckSees W.beside config s et now s₁ et₁ ∧
        ∃ cur ∈ policy.evaluate (s₁.liveView (liveSince config now)) o, cur.sameAs v = true ∧
          ∃ t ∈ cur.sessions, c = .message server (Jellyfin.controlSessionId t.sessionKey t.raw) ∨
            c = .stop server t.sessionKey)
      (Op.exec (recheckAndKill W.beside config (A.recorded server) policy o v).run s et).2.2 := by
  rcases recheckAndKill_exec_cases W.beside config (A.recorded server) policy o v s et with
    ⟨s₁, et₁, hp, hr⟩ | ⟨now, s₁, et₁, hsees, hr⟩
  · have paused := (W.beside_keeps (· = et.2)).pause config.recheckDelayMs s et rfl
    rw [hp] at paused
    rw [hr]
    exact .of_eq paused _
  · have hread : et₁.2 = et.2 := RecheckSees.keeps (W.beside_keeps (· = et.2)) hsees rfl
    rcases hr with hr | ⟨cur, target, hcur, htarget, hr⟩
    · rw [hr]
      exact .of_eq hread _
    · have hcurMem := List.mem_of_find?_eq_some hcur
      have hsame : cur.sameAs v = true := by simpa using List.find?_some hcur
      rw [hr, ← hread]
      exact (killWithNotice_calls W config A server cur target s₁ et₁).mono fun c hc =>
        ⟨now, s₁, et₁, hsees, cur, hcurMem, hsame, target, selectTarget_mem htarget, hc⟩

end Stages

/-! ## Calls made on behalf of a violation -/

theorem Store.server?_id {s : Store} {id : Int} {row : ServerRow} (h : s.server? id = some row) :
    row.id = id := by
  simpa using List.find?_some h

/-- Call `c` was made on behalf of violation `v` of `policy`, reported over the live view `live`
and handled from store `s` with the servers and the record at `et`: it went through the adapter
the factory built from the settings of the server row with the violation's server id, to a
session `t` of that server that the policy applies to. The warning goes to a session of `v`; the
pre-kill messages and the stop go to a session of the violation that the recheck found again in
the live view it read after its pause. -/
def RoutedCall (W : TickWorld (Op σ)) (F : ServerConfig → Except ProviderError (Adapter (Op σ)))
    (config : EnforcerConfig) (policy : Policy) (o : Overrides) (live : List LiveSession)
    (v : Violation) (s : Store) (et : σ × List ServerCall) (c : ServerCall) : Prop :=
  ∃ row A, s.server? v.serverId = some row ∧ row.id = v.serverId ∧ F row.config = .ok A ∧
    ∃ t, t.serverId = v.serverId ∧ policy.appliesTo t = true ∧ c.server.id = t.serverId ∧
      ((c = .message row.config (Jellyfin.controlSessionId t.sessionKey t.raw) ∧
          t ∈ v.sessions ∧ t ∈ live) ∨
        ((c = .message row.config (Jellyfin.controlSessionId t.sessionKey t.raw) ∨
            c = .stop row.config t.sessionKey) ∧
          ∃ s₁ et₁, ReachesRecheck W.beside config (A.recorded row.config) policy v s et s₁ et₁ ∧
            ∃ now s₂ et₂, RecheckSees W.beside config s₁ et₁ now s₂ et₂ ∧
              ∃ cur ∈ policy.evaluate (s₂.liveView (liveSince config now)) o,
                cur.sameAs v = true ∧ t ∈ cur.sessions ∧ t ∈ s₂.liveView (liveSince config now)))

section Routed

variable {W : TickWorld (Op σ)} {F : ServerConfig → Except ProviderError (Adapter (Op σ))}
  {config : EnforcerConfig} {policy : Policy} {o : Overrides} {live : List LiveSession}
  {v : Violation} {s : Store} {et : σ × List ServerCall} {row : ServerRow} {A : Adapter (Op σ)}

/-- The warning of a violation the policy reported goes to a session of that violation. -/
theorem routedCall_warning (hv : v ∈ policy.evaluate live o) (hrow : s.server? v.serverId = some row)
    (hA : F row.config = .ok A) {t : LiveSession} (ht : t ∈ v.sessions) :
    RoutedCall W F config policy o live v s et
      (.message row.config (Jellyfin.controlSessionId t.sessionKey t.raw)) := by
  have hfind := Policy.finding_of_mem_evaluate hv
  have hpool := List.mem_filter.mp (hfind.mem_pool t ht)
  have hid := Store.server?_id hrow
  have htserver := hfind.serverId_eq t ht
  refine ⟨row, A, hrow, hid, hA, t, htserver, hpool.2, ?_, .inl ⟨rfl, ht, hpool.1⟩⟩
  show row.id = t.serverId
  rw [hid, htserver]

/-- A message or the stop of the recheck goes to a session of the violation found again. -/
theorem routedCall_recheck (hrow : s.server? v.serverId = some row) (hA : F row.config = .ok A)
    {s₁ : Store} {et₁ : σ × List ServerCall}
    (hreach : ReachesRecheck W.beside config (A.recorded row.config) policy v s et s₁ et₁)
    {now : Int} {s₂ : Store} {et₂ : σ × List ServerCall}
    (hsees : RecheckSees W.beside config s₁ et₁ now s₂ et₂)
    {cur : Violation} (hcur : cur ∈ policy.evaluate (s₂.liveView (liveSince config now)) o)
    (hsame : cur.sameAs v = true) {t : LiveSession} (ht : t ∈ cur.sessions) {c : ServerCall}
    (hc : c = .message row.config (Jellyfin.controlSessionId t.sessionKey t.raw) ∨
      c = .stop row.config t.sessionKey) :
    RoutedCall W F config policy o live v s et c := by
  have hfind := Policy.finding_of_mem_evaluate hcur
  have hpool := List.mem_filter.mp (hfind.mem_pool t ht)
  obtain ⟨-, hsid, -⟩ := Violation.sameAs_iff.mp hsame
  have htserver : t.serverId = v.serverId := (hfind.serverId_eq t ht).trans hsid
  have hid := Store.server?_id hrow
  have hserver : c.server = row.config := by
    rcases hc with rfl | rfl <;> rfl
  refine ⟨row, A, hrow, hid, hA, t, htserver, hpool.2, ?_,
    .inr ⟨hc, s₁, et₁, hreach, now, s₂, et₂, hsees, cur, hcur, hsame, ht, hpool.1⟩⟩
  rw [hserver]
  show row.id = t.serverId
  rw [hid, htserver]

end Routed

/-- Every call made while handling a violation the policy reported is made on its behalf. -/
theorem handleViolation_calls (W : TickWorld (Op σ))
    (F : ServerConfig → Except ProviderError (Adapter (Op σ))) (config : EnforcerConfig)
    (policy : Policy) (o : Overrides) (live : List LiveSession) {v : Violation}
    (hv : v ∈ policy.evaluate live o) (s : Store) (e : σ) (calls : List ServerCall) :
    CallsAfter calls (RoutedCall W F config policy o live v s (e, calls))
      (Op.exec (handleViolation W.beside (recordCalls F) config policy o v) s (e, calls)).2.2 := by
  rcases handleViolation_exec_cases W.beside (recordCalls F) config policy o v s (e, calls) with
    ⟨-, he⟩ | ⟨row, B, target, err, hrow, hB, htarget, hw⟩ |
      ⟨row, B, s₁, et₁, hrow, hB, hreach, -, he⟩
  · rw [he]
    exact .refl _ _
  · obtain ⟨A, hA, rfl⟩ := recordCalls_eq_ok.mp hB
    have hwarn := warnUnlessRecent_calls W config A row.config policy v target s (e, calls)
    rw [hw] at hwarn
    exact hwarn.mono fun c hc => hc ▸ routedCall_warning hv hrow hA (selectTarget_mem htarget)
  · obtain ⟨A, hA, rfl⟩ := recordCalls_eq_ok.mp hB
    obtain ⟨target, warned, htarget, hw⟩ := id hreach
    have hwarn := warnUnlessRecent_calls W config A row.config policy v target s (e, calls)
    rw [hw] at hwarn
    have hrecheck := recheckAndKill_calls W config A row.config policy o v s₁ et₁
    rw [he]
    refine (hwarn.mono fun c hc => hc ▸ routedCall_warning hv hrow hA
      (selectTarget_mem htarget)).trans (hrecheck.mono fun c hc => ?_)
    obtain ⟨now, s₂, et₂, hsees, cur, hcur, hsame, t, ht, hct⟩ := hc
    exact routedCall_recheck hrow hA hreach hsees hcur hsame ht hct

/-- Calls reach the violation's server. Every message and stop made for a reported violation goes
through the adapter built from the row with its server id, to a session of that server the
policy applies to: the warning to one of the violation's, the rest to one the recheck found again.
A tick makes every call on behalf of one of its violations. -/
theorem calls_reach_violation_server (W : TickWorld (Op σ))
    (F : ServerConfig → Except ProviderError (Adapter (Op σ))) (config : EnforcerConfig) :
    (∀ (policy : Policy) (o : Overrides) (live : List LiveSession) (v : Violation),
      v ∈ policy.evaluate live o → ∀ (s : Store) (e : σ) (calls : List ServerCall),
        CallsAfter calls (RoutedCall W F config policy o live v s (e, calls))
          (Op.exec (handleViolation W.beside (recordCalls F) config policy o v) s
            (e, calls)).2.2) ∧
    (∀ (s : Store) (e : σ) (calls : List ServerCall),
      CallsAfter calls (fun c =>
          ∃ p ∈ s.enabledPolicies.filterMap (fun row => (Policy.ofRow row).toOption),
          ∃ v ∈ p.evaluate (W.tickView config s e) s.streamOverrides,
          ∃ s₁ et₁, RoutedCall W F config p s.streamOverrides (W.tickView config s e) v s₁ et₁ c)
        (Op.exec (runTick W.beside (recordCalls F) config) s (e, calls)).2.2) := by
  refine ⟨fun policy o live v hv s e calls =>
    handleViolation_calls W F config policy o live hv s e calls, ?_⟩
  intro s e calls
  refine runTick_keeps (fun _ (et : σ × List ServerCall) => CallsAfter calls (fun c =>
      ∃ p ∈ s.enabledPolicies.filterMap (fun row => (Policy.ofRow row).toOption),
      ∃ v ∈ p.evaluate (W.tickView config s e) s.streamOverrides,
      ∃ s₁ et₁, RoutedCall W F config p s.streamOverrides (W.tickView config s e) v s₁ et₁ c) et.2)
    (W.beside_keeps _).now ?_ (show CallsAfter calls _ (e, calls).2 from .refl _ _)
  intro p v hp hv s₁ et₁ h
  rw [TickWorld.beside_tickView] at hv
  have handled := handleViolation_calls W F config p s.streamOverrides _ hv s₁ et₁.1 et₁.2
  exact h.trans (handled.mono fun c hc => ⟨p, hp, v, hv, s₁, _, hc⟩)

/-- A rehearsal meets the law: a 4K transcode, reported by a policy that bans them, handled with
the scripted servers from a store with one Jellyfin server. -/
theorem rehearsal_calls_reach_violation_server :
    let p : Policy := { (default : Policy) with rule := .ban4kTranscode }
    let t : LiveSession := { isTranscode := true, mediaHeight := some 2160, serverId := 1 }
    let v := p.violation .transcode4k none "rule:4k_transcode" 1 "plex" [t]
      "ban_4k_transcode: 4K transcode detected"
    let s : Store := { servers := [{ id := 1, kind := .jellyfin }] }
    v ∈ p.evaluate [t] [] ∧
      CallsAfter [] (RoutedCall rehearsalWorld scriptedFactory {} p [] [t] v s ({}, []))
        (Op.exec (handleViolation rehearsalWorld.beside (recordCalls scriptedFactory) {} p [] v) s
          ({}, [])).2.2 := by
  intro p t v s
  have hv : v ∈ p.evaluate [t] [] := by
    have he : p.evaluate [t] [] = [v] := rfl
    rw [he]
    exact List.mem_singleton_self v
  exact ⟨hv, (calls_reach_violation_server rehearsalWorld scriptedFactory {}).1 p [] [t] v hv s {}
    []⟩

end StreamWarden
