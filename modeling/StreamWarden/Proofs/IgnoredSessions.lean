import StreamWarden.Proofs.CountingRules

/-!
# Sessions the counting rules never see

Two kinds of session are invisible to the rules that count streams or addresses. When a policy
allows local addresses, a session from a local address is neither counted nor chosen to stop, by
all three counting rules. A monitor user with an override above zero is exempt from the two
address rules: the address count per user skips that user's whole group, and the count per
address skips each of the user's sessions.

Evaluating such a policy without the invisible sessions therefore gives the same violations
(`evaluate_ignores_local_sessions`, `evaluate_ignores_exempt_users`). A group left empty reports
nothing, even under a negative limit, since a group reports only when it has a session to stop;
every other group keeps the sessions its report reads (`flatMap_groupSorted_filter`).
-/

namespace StreamWarden

theorem LiveSession.userKey_fst (s : LiveSession) : s.userKey.1 = s.vodumUserId := by
  unfold LiveSession.userKey
  cases s.vodumUserId <;> rfl

/-- Dropping items that a later filter would drop anyway changes nothing. -/
theorem filter_filter_of_drop {α : Type} {l : List α} {Q C : α → Bool}
    (h : ∀ x ∈ l, Q x = false → C x = false) : (l.filter Q).filter C = l.filter C := by
  rw [List.filter_filter]
  refine List.filter_congr fun x hx => ?_
  cases hQ : Q x
  · simp [h x hx hQ]
  · simp

namespace Policy

variable {p : Policy} {o : Overrides}

/-- A user's distinct addresses are the same without sessions whose address is not counted. -/
theorem distinctIps_filter {Q : LiveSession → Bool} {ss : List LiveSession}
    (hQ : ∀ s ∈ ss, Q s = false →
      (p.options.ignoreUnknown = true ∧ Net.normalizeIp s.ip = "unknown") ∨
        (p.options.allowLocalIp = true ∧ Net.isLocalIp (Net.normalizeIp s.ip) = true)) :
    p.distinctIps (ss.filter Q) = p.distinctIps ss := by
  unfold distinctIps
  rw [List.filter_map, List.filter_map, filter_filter_of_drop fun s hs hq => ?_]
  rcases hQ s hs hq with ⟨hign, hunk⟩ | ⟨hallow, hlocal⟩
  · simp [hign, hunk]
  · simp [hallow, hlocal]

theorem single_nil (kind : ViolationKind) (user : Option UserKey) (actorKey reason : String) :
    p.single kind user actorKey [] reason = [] := by
  simp [single, selectTarget_nil]

/-! ## Each counting rule reads only some of its sessions -/

/-- The stream limit per user reads only the sessions that count: dropping sessions that do not
count changes nothing. -/
theorem userStreams_filter {Q : LiveSession → Bool}
    (hQ : ∀ s, Q s = false → s.countsIp p.options.allowLocalIp = false)
    (inScope : List LiveSession) :
    p.userStreams (inScope.filter Q) o = p.userStreams inScope o := by
  unfold userStreams
  refine flatMap_groupSorted_filter _ Q (fun k b _ => ?_) (fun k => ?_) inScope
  · have hcounted : (b.filter Q).filter (·.countsIp p.options.allowLocalIp) =
        b.filter (·.countsIp p.options.allowLocalIp) :=
      filter_filter_of_drop fun s _ hq => hQ s hq
    simp only [hcounted]
  · simp [single_nil]

/-- The address limit per user reads, in each group that is not exempt, the group's distinct
addresses and its candidates: dropping sessions that change neither changes nothing. -/
theorem userIps_filter {Q : LiveSession → Bool}
    (hQ : ∀ user b, (∀ s ∈ b, s.userKey = user) → o.isVip user.1 = false →
      p.distinctIps (b.filter Q) = p.distinctIps b ∧
        (b.filter Q).filter (·.countsIp p.options.allowLocalIp) =
          b.filter (·.countsIp p.options.allowLocalIp))
    (inScope : List LiveSession) :
    p.userIps (inScope.filter Q) o = p.userIps inScope o := by
  unfold userIps
  refine flatMap_groupSorted_filter _ Q (fun user b hb => ?_) (fun user => ?_) inScope
  · cases hvip : o.isVip user.1
    · obtain ⟨hips, hcand⟩ := hQ user b hb hvip
      simp only [hvip, hips, hcand]
    · simp [hvip]
  · simp [distinctIps, single_nil]

/-- The stream limit per address never reads an exempt user's session, nor a local one when local
addresses are allowed: dropping such sessions changes nothing. -/
theorem ipStreams_filter {Q : LiveSession → Bool}
    (hQ : ∀ s, Q s = false → o.isVip s.vodumUserId = true ∨
      (p.options.allowLocalIp = true ∧ Net.isLocalIp (s.ip.getD "") = true))
    (inScope : List LiveSession) :
    p.ipStreams (inScope.filter Q) o = p.ipStreams inScope o := by
  unfold ipStreams
  rw [filter_filter_of_drop fun s _ hq => ?_]
  rcases hQ s hq with hvip | ⟨hallow, hlocal⟩
  · simp [hvip]
  · simp [hallow, Net.isLocalIp_normalizeIp, hlocal]

/-! ## Evaluating without them -/

/-- When an evaluation is the same after a drop, its violations name only sessions that are kept:
they are the violations found among the sessions left. -/
theorem keep_of_evaluate_eq_filter {Q : LiveSession → Bool} {sessions : List LiveSession}
    (heq : p.evaluate sessions o = p.evaluate (sessions.filter Q) o) {v : Violation}
    (hv : v ∈ p.evaluate sessions o) {s : LiveSession} (hs : s ∈ v.sessions) : Q s = true := by
  have hpool := (finding_of_mem_evaluate (heq ▸ hv)).mem_pool s hs
  exact (List.mem_filter.mp (List.mem_filter.mp hpool).1).2

end Policy

/-- When local addresses are allowed, the rules that count streams or addresses give the same
violations without the sessions from local addresses, and none of their violations names such a
session. -/
theorem evaluate_ignores_local_sessions {p : Policy} (hallow : p.options.allowLocalIp = true)
    (hrule : p.rule = .maxStreamsPerUser ∨ p.rule = .maxIpsPerUser ∨
      p.rule = .maxStreamsPerIp)
    (sessions : List LiveSession) (o : Overrides) :
    p.evaluate sessions o =
        p.evaluate (sessions.filter fun s => !Net.isLocalIp (s.ip.getD "")) o ∧
      ∀ v ∈ p.evaluate sessions o, ∀ s ∈ v.sessions, Net.isLocalIp (s.ip.getD "") = false := by
  have hcounts : ∀ s : LiveSession, (!Net.isLocalIp (s.ip.getD "")) = false →
      s.countsIp p.options.allowLocalIp = false := fun s hs => by
    simpa [LiveSession.countsIp, hallow] using hs
  have heq : p.evaluate sessions o =
      p.evaluate (sessions.filter fun s => !Net.isLocalIp (s.ip.getD "")) o := by
    rcases hrule with h | h | h <;> simp only [Policy.evaluate, h, List.filter_comm p.appliesTo]
    · exact (Policy.userStreams_filter hcounts _).symm
    · refine (Policy.userIps_filter (fun user b _ _ => ⟨?_, ?_⟩) _).symm
      · exact Policy.distinctIps_filter fun s _ hs =>
          .inr ⟨hallow, by simpa [Net.isLocalIp_normalizeIp] using hs⟩
      · exact filter_filter_of_drop fun s _ hq => hcounts s hq
    · exact (Policy.ipStreams_filter (fun s hs => .inr ⟨hallow, by simpa using hs⟩) _).symm
  exact ⟨heq, fun v hv s hs => by simpa using Policy.keep_of_evaluate_eq_filter heq hv hs⟩

/-- A policy of one stream per user that allows local addresses, over a user watching from home and
from outside, evaluates as over the outside stream alone. -/
theorem lan_stream_ignored_by_user_limit :
    let p : Policy := { id := 5, priority := 100, scope := .global, scopeId := none,
                        provider := none, serverId := none, rule := .maxStreamsPerUser,
                        options := { max := some 1, allowLocalIp := true } }
    let ss : List LiveSession :=
      [{ sessionKey := "a", vodumUserId := some 7, ip := some "192.168.1.10" },
       { sessionKey := "b", vodumUserId := some 7, ip := some "203.0.113.4" }]
    p.options.allowLocalIp = true ∧
      (p.rule = .maxStreamsPerUser ∨ p.rule = .maxIpsPerUser ∨
        p.rule = .maxStreamsPerIp) ∧
      (p.evaluate ss [] = p.evaluate (ss.filter fun s => !Net.isLocalIp (s.ip.getD "")) [] ∧
        ∀ v ∈ p.evaluate ss [], ∀ s ∈ v.sessions, Net.isLocalIp (s.ip.getD "") = false) := by
  intro p ss
  exact ⟨rfl, Or.inl rfl, evaluate_ignores_local_sessions rfl (Or.inl rfl) ss []⟩

/-- The address rules give the same violations without the sessions of monitor users with an
override above zero, and none of their violations names such a session. -/
theorem evaluate_ignores_exempt_users {p : Policy}
    (hrule : p.rule = .maxIpsPerUser ∨ p.rule = .maxStreamsPerIp)
    (sessions : List LiveSession) (o : Overrides) :
    p.evaluate sessions o =
        p.evaluate (sessions.filter fun s => !(s.vodumUserId.bind o.get?).any (0 < ·)) o ∧
      ∀ v ∈ p.evaluate sessions o, ∀ s ∈ v.sessions,
        (s.vodumUserId.bind o.get?).any (0 < ·) = false := by
  have hexempt : ∀ s : LiveSession, (!(s.vodumUserId.bind o.get?).any (0 < ·)) = false →
      o.isVip s.vodumUserId = true := fun s hs => by
    simpa [Overrides.isVip_eq_any] using hs
  have heq : p.evaluate sessions o =
      p.evaluate (sessions.filter fun s => !(s.vodumUserId.bind o.get?).any (0 < ·)) o := by
    rcases hrule with h | h <;> simp only [Policy.evaluate, h, List.filter_comm p.appliesTo]
    · refine (Policy.userIps_filter (fun user b hb hvip => ?_) _).symm
      have hkeep : (b.filter fun s => !(s.vodumUserId.bind o.get?).any (0 < ·)) = b := by
        refine List.filter_eq_self.mpr fun s hs => ?_
        have huser : s.vodumUserId = user.1 := by rw [← LiveSession.userKey_fst, hb s hs]
        simpa [Overrides.isVip_eq_any, huser] using hvip
      rw [hkeep]
      exact ⟨rfl, rfl⟩
    · exact (Policy.ipStreams_filter (fun s hs => .inl (hexempt s hs)) _).symm
  exact ⟨heq, fun v hv s hs => by simpa using Policy.keep_of_evaluate_eq_filter heq hv hs⟩

/-- A policy of one stream per address, over an exempt monitor user and a guest sharing one
address on two servers, evaluates as over the guest alone. -/
theorem exempt_user_ignored_by_address_limit :
    let p : Policy := { id := 6, priority := 100, scope := .global, scopeId := none,
                        provider := none, serverId := none, rule := .maxStreamsPerIp,
                        options := { max := some 1, perServer := false } }
    let ss : List LiveSession :=
      [{ serverId := 1, sessionKey := "a", vodumUserId := some 7, ip := some "203.0.113.4" },
       { serverId := 2, sessionKey := "b", ip := some "203.0.113.4" }]
    let o : Overrides := [(7, 3)]
    (p.rule = .maxIpsPerUser ∨ p.rule = .maxStreamsPerIp) ∧
      (p.evaluate ss o =
          p.evaluate (ss.filter fun s => !(s.vodumUserId.bind o.get?).any (0 < ·)) o ∧
        ∀ v ∈ p.evaluate ss o, ∀ s ∈ v.sessions,
          (s.vodumUserId.bind o.get?).any (0 < ·) = false) := by
  intro p ss o
  exact ⟨Or.inr rfl, evaluate_ignores_exempt_users (Or.inr rfl) ss o⟩

end StreamWarden
