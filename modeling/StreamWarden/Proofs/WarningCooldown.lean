import StreamWarden.Proofs.EnforcementLog

/-!
# Warnings a cooldown apart

The warning stage checks the cooldown at the time the wall clock tells when it starts, and the
warning is logged at the time the clock tells when it is written. Under a clock that never goes
back (every action of the world and of the adapters leaves it where it was or moves it on, and
the wall clock tells it), two warnings about one policy, server and actor logged during a run
are a cooldown apart (`warnings_spaced_by_cooldown`).

The invariant is `SpacedLog`: the log is in time order, none of its entries is later than the
clock, its summary rows are those it leaves, and its warnings past a given position are a
cooldown apart. Logging a stop keeps it because the stop is dated by the clock; logging a
warning keeps it because the cooldown held at a time between the latest warning about its key
and the warning's own date.

One tick may still warn one key twice: each violation is checked against the cooldown when it
is handled, and handling the violations before it (their recheck pause, the pre-kill messages)
may take longer than the cooldown (`tick_warns_key_twice`).
-/

namespace StreamWarden

variable {σ : Type}

/-! ## The cooldown -/

theorem clampI64_le_of_nonneg {x : Int} (hx : 0 ≤ x) : clampI64 x ≤ x := by
  unfold clampI64 Text.i64Min Text.i64Max
  omega

/-- A warning at `t`, not later than `now`, that is not recent was a cooldown ago. -/
theorem add_cooldown_le_of_not_recent {config : EnforcerConfig} {t now : Int}
    (h : warnedRecently config (some t) now = false) (ht : t ≤ now) :
    t + config.warnCooldownMs ≤ now := by
  have hcool : config.warnCooldownMs ≤ clampI64 (now - t) := by
    simpa [warnedRecently] using h
  have hclamp := clampI64_le_of_nonneg (Int.sub_nonneg_of_le ht)
  omega

/-- A warning decided at `decided`, when the latest warning about its key was not within the
cooldown, in a log in time order with no entry later than `decided`, and logged at `now` no
earlier, comes a cooldown after every earlier warning about its key. -/
theorem add_cooldown_le_of_decided {config : EnforcerConfig} {L : List EnforcementRow}
    {key : Int × Int × String} {decided now : Int}
    (hsorted : L.Pairwise fun a b => a.createdAt ≤ b.createdAt)
    (hdated : ∀ x ∈ L, x.createdAt ≤ decided)
    (hrecent : warnedRecently config (lastWarnIn L key) decided = false) (hnow : decided ≤ now) :
    ∀ w ∈ L, w.action = .warn → w.key = key → w.createdAt + config.warnCooldownMs ≤ now := by
  intro w hw hwarn hkey
  obtain ⟨last, hlastMem, -, -, hlast⟩ := exists_lastWarnIn_of_mem hw hwarn hkey
  rw [hlast] at hrecent
  calc w.createdAt + config.warnCooldownMs
      ≤ last.createdAt + config.warnCooldownMs := by
        have := createdAt_le_lastWarnIn hsorted hlast hw hwarn hkey
        omega
    _ ≤ decided := add_cooldown_le_of_not_recent hrecent (hdated last hlastMem)
    _ ≤ now := hnow

/-- Every warning the log holds past its first `n` entries comes at least `cooldown` after each
earlier warning about the same policy, server and actor. -/
def WarningsSpaced (cooldown : Int) (n : Nat) (log : List EnforcementRow) : Prop :=
  ∀ pre r post, log = pre ++ r :: post → n ≤ pre.length → r.action = .warn →
    ∀ w ∈ pre, w.action = .warn → w.key = r.key → w.createdAt + cooldown ≤ r.createdAt

namespace WarningsSpaced

variable {c : Int} {n : Nat} {L : List EnforcementRow}

theorem of_length (L : List EnforcementRow) : WarningsSpaced c L.length L := by
  intro pre r post hlog hlen
  have hlen' := congrArg List.length hlog
  simp only [List.length_append, List.length_cons] at hlen'
  omega

/-- Appending an entry keeps the warnings spaced when, being a warning, it is a cooldown after
every earlier warning about its key. -/
theorem snoc (h : WarningsSpaced c n L) {r : EnforcementRow}
    (hr : r.action = .warn → ∀ w ∈ L, w.action = .warn → w.key = r.key →
      w.createdAt + c ≤ r.createdAt) :
    WarningsSpaced c n (L ++ [r]) := by
  intro pre x post hlog hlen hwarn
  rcases List.eq_nil_or_concat post with rfl | ⟨post', y, rfl⟩
  · obtain ⟨rfl, hx⟩ := List.append_inj' hlog rfl
    cases hx
    exact hr hwarn
  · have hL : L ++ [r] = (pre ++ x :: post') ++ [y] := by simpa using hlog
    exact h pre x post' (List.append_inj' hL rfl).1 hlen hwarn

end WarningsSpaced

/-! ## A clock that never goes back -/

/-- A clock of the servers and the world that the wall clock tells, and that no action of the
world moves back. -/
structure TickWorld.Clocked (W : TickWorld (Op σ)) (clock : σ → Int) : Prop where
  tells : ∀ s e, (Op.exec W.now s e).1.1 = clock (Op.exec W.now s e).2
  forward : ∀ t, W.Keeps fun _ e => t ≤ clock e

/-- No adapter the factory builds moves the clock back. -/
def FactoryClocked (clock : σ → Int) (F : ServerConfig → Except ProviderError (Adapter (Op σ))) :
    Prop :=
  ∀ server A, F server = .ok A → ∀ t, A.Keeps fun _ e => t ≤ clock e

theorem TickWorld.Clocked.told {W : TickWorld (Op σ)} {clock : σ → Int} (hc : W.Clocked clock)
    {now : Int} {e' : σ} (h : W.Told now e') : now = clock e' := by
  obtain ⟨s, e, rfl, rfl⟩ := h
  exact hc.tells s e

/-- The log is in time order, none of its entries is later than the clock, its summary rows are
those it leaves, and its warnings past the first `n` entries are a cooldown apart. -/
structure SpacedLog (config : EnforcerConfig) (clock : σ → Int) (n : Nat) (s : Store) (e : σ) :
    Prop where
  summarized : s.Summarized
  sorted : s.enforcements.Pairwise fun a b => a.createdAt ≤ b.createdAt
  dated : ∀ x ∈ s.enforcements, x.createdAt ≤ clock e
  spaced : WarningsSpaced config.warnCooldownMs n s.enforcements

namespace SpacedLog

variable {config : EnforcerConfig} {clock : σ → Int} {n : Nat} {s s' : Store} {e e' : σ}

theorem of_ledger (h : SpacedLog config clock n s e) (henf : s'.enforcements = s.enforcements)
    (hst : s'.states = s.states) (hclock : clock e ≤ clock e') : SpacedLog config clock n s' e' where
  summarized := h.summarized.of_same_ledger henf hst
  sorted := henf ▸ h.sorted
  dated x hx := le_trans (h.dated x (henf ▸ hx)) hclock
  spaced := henf ▸ h.spaced

/-- Logging an entry dated by the clock keeps the log spaced when, being a warning, it is a
cooldown after every earlier warning about its key. -/
theorem logged (h : SpacedLog config clock n s e) {entry : EnforcementEntry} {now : Int} {b : Bool}
    (hlog : LoggedBy entry now s b s') (hnow : now = clock e') (hclock : clock e ≤ clock e')
    (hwarn : ∀ id, (entry.toRow id now).action = .warn → ∀ w ∈ s.enforcements,
      w.action = .warn → w.key = (entry.toRow id now).key →
        w.createdAt + config.warnCooldownMs ≤ now) :
    SpacedLog config clock n s' e' := by
  have hs' := hlog.summarized h.summarized
  unfold LoggedBy at hlog
  cases b
  · obtain ⟨henf, hst⟩ := hlog
    exact h.of_ledger henf hst hclock
  · obtain ⟨id, henf, -⟩ := hlog
    have hdated : ∀ x ∈ s.enforcements, x.createdAt ≤ now := fun x hx =>
      hnow ▸ le_trans (h.dated x hx) hclock
    refine ⟨hs', ?_, ?_, ?_⟩
    · rw [henf, List.pairwise_append]
      exact ⟨h.sorted, List.pairwise_singleton _ _,
        fun x hx y hy => (List.mem_singleton.mp hy) ▸ hdated x hx⟩
    · intro x hx
      rw [henf] at hx
      rcases List.mem_append.mp hx with hx | hx
      · exact hnow ▸ hdated x hx
      · rw [List.mem_singleton.mp hx]
        exact le_of_eq hnow
    · rw [henf]
      exact h.spaced.snoc (hwarn id)

end SpacedLog

/-! ## What each stage keeps -/

section Stages

variable {W : TickWorld (Op σ)} {clock : σ → Int} (hW : W.KeepsLedger) (hc : W.Clocked clock)
  {A : Adapter (Op σ)} (hA : A.KeepsLedger) (hAc : ∀ t, A.Keeps fun _ e => t ≤ clock e)
  (config : EnforcerConfig) {n : Nat}
include hW hc hA hAc

/-- The warning stage keeps the log spaced: the cooldown is checked at the time the clock tells
first, no earlier than any entry, and the warning is dated later still. -/
theorem warnUnlessRecent_spaced {policy : Policy} {v : Violation} (hv : v.policyId = policy.id)
    (t : LiveSession) : (warnUnlessRecent W config A policy v t).run.Keeps
      (SpacedLog config clock n) := by
  intro s e h
  have hfwd := warnUnlessRecent_keeps (hc.forward (clock e)) (RecordKeeps.servers _) config
    (hAc (clock e)) policy v t s e le_rfl
  rcases warnUnlessRecent_loggedBy hW hA config policy v t s e with
    ⟨-, -, henf, hst⟩ | ⟨hrecent, reason, succeeded, now, told, logged⟩
  · exact h.of_ledger henf hst hfwd
  · have hdecided : (Op.exec W.now s e).1.1 = clock (Op.exec W.now s e).2 := hc.tells s e
    have hbefore : clock e ≤ clock (Op.exec W.now s e).2 :=
      (hc.forward (clock e)).now s e le_rfl
    obtain ⟨-, -, he⟩ := warnUnlessRecent_exec_warned W config A policy v t s e hrecent
    have hafter : clock (Op.exec W.now s e).2 ≤
        clock (Op.exec (warnUnlessRecent W config A policy v t).run s e).2 := by
      rw [he]
      exact warnActor_keeps (hc.forward _) (RecordKeeps.servers _) config (hAc _) v t _ _ le_rfl
    have hnow := hc.told told
    refine h.logged logged hnow hfwd fun id _ => ?_
    rw [lastWarnedAt_eq_lastWarnIn h.summarized] at hrecent
    simp only [enforcementEntry_toRow_key, hv]
    exact add_cooldown_le_of_decided h.sorted
      (fun x hx => hdecided ▸ le_trans (h.dated x hx) hbefore) hrecent
      (hdecided ▸ hnow ▸ hafter)

omit hAc in
/-- The recheck keeps the log spaced: it logs at most a stop, dated by the clock. -/
theorem recheckAndKill_spaced (hAc : ∀ t, A.Keeps fun _ e => t ≤ clock e) (policy : Policy)
    (o : Overrides) (v : Violation) :
    (recheckAndKill W config A policy o v).run.Keeps (SpacedLog config clock n) := by
  intro s e h
  have hfwd := recheckAndKill_keeps (hc.forward (clock e)) (RecordKeeps.servers _) config
    (hAc (clock e)) policy o v s e le_rfl
  rcases recheckAndKill_loggedBy hW hA config policy o v s e with
    ⟨henf, hst⟩ | ⟨_, _, _, -, cur, -, -, target, -, reason, succeeded, now, told, logged⟩
  · exact h.of_ledger henf hst hfwd
  · exact h.logged logged (hc.told told) hfwd fun _ hwarn => by simp at hwarn

end Stages

section Tick

variable {W : TickWorld (Op σ)} {F : ServerConfig → Except ProviderError (Adapter (Op σ))}
  {config : EnforcerConfig} {clock : σ → Int} {n : Nat}
  (hW : W.KeepsLedger) (hc : W.Clocked clock) (hF : FactoryKeepsLedger F)
  (hFc : FactoryClocked clock F)
include hW hc hF hFc

theorem handleViolation_spaced {policy : Policy} (o : Overrides) {v : Violation}
    (hv : v.policyId = policy.id) :
    (handleViolation W F config policy o v).Keeps (SpacedLog config clock n) :=
  handleViolation_keeps_of_stages
    (fun _ _ hA t => warnUnlessRecent_spaced hW hc (hF _ _ hA) (hFc _ _ hA) config hv t)
    (fun _ _ hA => recheckAndKill_spaced hW hc (hF _ _ hA) config (hFc _ _ hA) policy o v)

theorem runTick_spaced : (runTick W F config).Keeps (SpacedLog config clock n) := by
  intro s e h
  refine runTick_keeps (SpacedLog config clock n) (fun s₁ e₁ h₁ => ?_) (fun p v _ hv => ?_) h
  · obtain ⟨henf, hst⟩ := Op.ledger_eq_of_keeps (fun L S => (hW L S).now) s₁ e₁
    exact h₁.of_ledger henf hst ((hc.forward (clock e₁)).now s₁ e₁ le_rfl)
  · exact handleViolation_spaced hW hc hF hFc _ (Policy.finding_of_mem_evaluate hv).policyId_eq

end Tick

variable {W : TickWorld (Op σ)} {F : ServerConfig → Except ProviderError (Adapter (Op σ))}
  {config : EnforcerConfig}

/-- Warnings are a cooldown apart. Over any run of the enforcer under a clock that never goes
back, from a store whose summary rows are those of its log, whose log is in time order and no
later than the clock, every warning the log gains comes at least the cooldown after each
earlier warning about the same policy, server and actor. -/
theorem warnings_spaced_by_cooldown {clock : σ → Int} (hW : W.KeepsLedger) (hc : W.Clocked clock)
    (hF : FactoryKeepsLedger F) (hFc : FactoryClocked clock F) {s : Store} {e : σ} {s' : Store}
    {e' : σ} (hrun : EnforcerRun W F config (fun e₁ e₂ => clock e₁ ≤ clock e₂) s e s' e')
    (hs : s.Summarized) (hsorted : s.enforcements.Pairwise fun a b => a.createdAt ≤ b.createdAt)
    (hdated : ∀ x ∈ s.enforcements, x.createdAt ≤ clock e) :
    WarningsSpaced config.warnCooldownMs s.enforcements.length s'.enforcements := by
  have hstart : SpacedLog config clock s.enforcements.length s e :=
    ⟨hs, hsorted, hdated, WarningsSpaced.of_length _⟩
  have hend := hrun.keeps (SpacedLog config clock s.enforcements.length)
    (fun s₁ e₁ h₁ => runTick_spaced hW hc hF hFc s₁ e₁ h₁)
    (fun _ _ _ _ henf hst hmoved h₁ => h₁.of_ledger henf hst hmoved) hstart
  exact hend.spaced

/-- The rehearsal's clock: only a pause moves it, forward. -/
theorem rehearsalWorld_clocked : rehearsalWorld.Clocked Stage.clock where
  tells _ _ := rfl
  forward _ := rehearsalWorld_keeps fun _ _ ms h =>
    le_trans h (Int.le_add_of_nonneg_right (le_max_right ms 0))

theorem scriptedFactory_clocked : FactoryClocked Stage.clock scriptedFactory :=
  fun server A hA _ => scriptedFactory_keeps (fun _ _ _ _ _ _ hclock _ h => hclock ▸ h) server A hA

/-- A rehearsal meets the law: a tick of the rehearsal on the store with a 4K transcode warns
and then stops. -/
theorem rehearsal_warnings_spaced_by_cooldown :
    EnforcerRun rehearsalWorld scriptedFactory {} (fun e₁ e₂ => e₁.clock ≤ e₂.clock)
        transcode4kStore {}
        (Op.exec (runTick rehearsalWorld scriptedFactory {}) transcode4kStore {}).1.2
        (Op.exec (runTick rehearsalWorld scriptedFactory {}) transcode4kStore {}).2 ∧
      (Op.exec (runTick rehearsalWorld scriptedFactory {}) transcode4kStore
        {}).1.2.enforcements.map (·.action) = [.warn, .kill] ∧
      WarningsSpaced ({} : EnforcerConfig).warnCooldownMs transcode4kStore.enforcements.length
        (Op.exec (runTick rehearsalWorld scriptedFactory {}) transcode4kStore {}).1.2.enforcements := by
  have hrun : EnforcerRun rehearsalWorld scriptedFactory {} (fun e₁ e₂ => e₁.clock ≤ e₂.clock)
      transcode4kStore {}
      (Op.exec (runTick rehearsalWorld scriptedFactory {}) transcode4kStore {}).1.2
      (Op.exec (runTick rehearsalWorld scriptedFactory {}) transcode4kStore {}).2 :=
    .tick (.stop _ _)
  exact ⟨hrun, by decide +kernel, warnings_spaced_by_cooldown rehearsalWorld_keepsLedger
    rehearsalWorld_clocked scriptedFactory_keepsLedger scriptedFactory_clocked hrun
    transcode4kStore_summarized List.Pairwise.nil (fun _ hx => nomatch hx)⟩

/-! ## One tick, one key, two warnings -/

/-- A live view whose sessions are already in order is not reordered. -/
theorem Store.liveView_of_pairwise (s : Store) (since : Int)
    (h : ((s.live.filter (·.lastSeenAt ≥ since)).filterMap s.viewOf).Pairwise
      fun a b => viewBefore a b = true) :
    s.liveView since = (s.live.filter (·.lastSeenAt ≥ since)).filterMap s.viewOf :=
  List.mergeSort_of_pairwise h

/-- A store with one Jellyfin server, a policy that allows no stream per user, and two sessions
whose actors share one key: one with no account, one with the account `unknown`. -/
def sharedKeyStore : Store :=
  { servers := [{ id := 1, kind := .jellyfin }]
    policies := [{ ruleValueJson := "\x7b\"max\": 0\x7d" }]
    live := [{ id := 1, serverId := 1, sessionKey := "a", startedAt := 1, lastSeenAt := 1 },
             { id := 2, serverId := 1, sessionKey := "b", externalUserId := some "unknown",
               startedAt := 2, lastSeenAt := 2 }] }

/-- One tick warns one key twice. The two sessions of `sharedKeyStore` are two violations with
one key; the first is warned at time 0, and the viewer of session `a` gives up when warned. Its
recheck pause and the pre-kill message to session `b` take 70 ms, more than the cooldown of
1 ms, so the second violation is warned again. -/
theorem tick_warns_key_twice :
    let config : EnforcerConfig :=
      { warnCooldownMs := 1, recheckDelayMs := 20, prekillWindowMs := 50, prekillTickMs := 60000 }
    let r := Op.exec (runTick rehearsalWorld scriptedFactory config) sharedKeyStore
      { clearOnMessage := some "a" }
    0 < config.warnCooldownMs ∧
      ¬((r.1.2.enforcements.drop sharedKeyStore.enforcements.length).filter
        (·.action == .warn)).Pairwise (·.key ≠ ·.key) := by
  intro config r
  refine ⟨by decide, ?_⟩
  simp only [r, runTick_exec, TickWorld.tickView, rehearsalWorld_now_exec]
  have hview := Store.liveView_of_pairwise sharedKeyStore (liveSince config 0) (by decide +kernel)
  simp only [hview]
  decide +kernel

end StreamWarden
