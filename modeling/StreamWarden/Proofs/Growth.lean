import StreamWarden.Proofs.CountingRules
import StreamWarden.Proofs.ServerRules
import StreamWarden.Proofs.Selection

/-!
# More streams never clear a violation

Evaluated over more sessions (every session of the smaller list, as often, and possibly others),
a policy reports again every kind and actor it reported, and a server-wide rule every server
(`evaluate_reports_persist`). The enforcer's recheck before it stops a stream relies on this.

Every rule is monotone group by group. A group only grows when sessions are added: it counts at
least as many streams or addresses, and its candidates grow too, so a group that reported still
has a session to stop. The groups themselves are read off the sessions by key, so a key present
before is present after. The server-wide rules find at fault every session they found before.
-/

namespace StreamWarden

/-- A violation is reported again among `vs`: with the same kind and actor, and on the same server
when its kind reports whole servers. -/
def Violation.ReportedIn (v : Violation) (vs : List Violation) : Prop :=
  ∃ w ∈ vs, w.kind = v.kind ∧ w.actorKey = v.actorKey ∧
    (v.kind.narrowed = false → w.serverId = v.serverId)

theorem Violation.ReportedIn.mono {v : Violation} {vs vs' : List Violation} (h : v.ReportedIn vs)
    (hsub : ∀ w ∈ vs, w ∈ vs') : v.ReportedIn vs' := by
  obtain ⟨w, hw, hrest⟩ := h
  exact ⟨w, hsub w hw, hrest⟩

/-! ## Groups only grow -/

section Groups

variable {K : Type} [DecidableEq K] {lt : K → K → Bool}
  [IsTrans K fun a b => lt a b = true] [Std.Irrefl fun a b : K => lt a b = true]
  [Std.Trichotomous fun a b : K => lt a b = true]

/-- Grouping more items reports again what grouping fewer reported, when each group's report is
reported again by the same group with more items. -/
theorem reportedIn_groupSorted {key : LiveSession → K} {F : K × List LiveSession → List Violation}
    (hF : ∀ k b b', b.Subperm b' → ∀ v ∈ F (k, b), v.ReportedIn (F (k, b')))
    {xs xs' : List LiveSession} (hsub : xs.Subperm xs') :
    ∀ v ∈ (groupSorted lt key xs).flatMap F, v.ReportedIn ((groupSorted lt key xs').flatMap F) := by
  rw [groupSorted_eq, groupSorted_eq, List.flatMap_map, List.flatMap_map]
  intro v hv
  obtain ⟨k, hk, hv⟩ := List.mem_flatMap.mp hv
  have hk' : k ∈ keysAscending lt (xs'.map key) := by
    obtain ⟨x, hx, rfl⟩ := List.mem_map.mp (mem_keysAscending.mp hk)
    exact mem_keysAscending.mpr (List.mem_map_of_mem (hsub.subset hx))
  exact (hF k _ _ (hsub.filter _) v hv).mono fun w hw => List.mem_flatMap.mpr ⟨k, hk', hw⟩

end Groups

namespace Policy

variable {p : Policy} {o : Overrides} {v : Violation}

/-! ## The emitters -/

/-- A narrowed violation is reported again among more candidates: there is still a session to
stop, and the kind and actor are the report's. -/
theorem single_reportedIn {kind : ViolationKind} (hk : kind.narrowed = true)
    {user : Option UserKey} {actorKey reason reason' : String} {cands cands' : List LiveSession}
    (hsub : cands.Subperm cands') (hv : v ∈ p.single kind user actorKey cands reason) :
    v.ReportedIn (p.single kind user actorKey cands' reason') := by
  obtain ⟨t, ht, rfl⟩ := mem_single hv
  have hsome : (selectTarget cands' p.options.selector).isSome :=
    selectTarget_isSome_iff.mpr (List.ne_nil_of_mem (hsub.subset ht))
  obtain ⟨t', ht'⟩ := Option.isSome_iff_exists.mp hsome
  refine ⟨p.violation kind user actorKey t'.serverId t'.provider [t'] reason', ?_, rfl, rfl,
    fun h => by simp [violation, hk] at h⟩
  simp [single, ht']

/-- A server-wide violation is reported again when every session at fault stays at fault: its
server still has one. -/
theorem perServer_reportedIn {kind : ViolationKind} {off off' : List LiveSession}
    {reason reason' : List LiveSession → String} (hsub : ∀ s ∈ off, s ∈ off')
    (hv : v ∈ p.perServer kind off reason) : v.ReportedIn (p.perServer kind off' reason') := by
  obtain ⟨sid, hsid, rfl⟩ := List.mem_map.mp ((perServer_eq off reason) ▸ hv)
  obtain ⟨s, hs, rfl⟩ := List.mem_map.mp (mem_keysAscending.mp hsid)
  have hsid' : s.serverId ∈ keysAscending (fun a b => decide (a < b)) (off'.map (·.serverId)) :=
    mem_keysAscending.mpr (List.mem_map_of_mem (hsub s hs))
  rw [perServer_eq]
  exact ⟨_, List.mem_map_of_mem hsid', rfl, rfl, fun _ => rfl⟩

/-- A group that reports when its count is over a limit reports again with a count at least as
large and more candidates. -/
theorem ite_single_reportedIn {kind : ViolationKind} (hk : kind.narrowed = true)
    {user : Option UserKey} {actorKey reason reason' : String} {cands cands' : List LiveSession}
    {n n' limit : Int} (hn : n ≤ n') (hsub : cands.Subperm cands')
    (hv : v ∈ if n ≤ limit then [] else p.single kind user actorKey cands reason) :
    v.ReportedIn (if n' ≤ limit then [] else p.single kind user actorKey cands' reason') := by
  obtain ⟨hover, hv⟩ := List.mem_ite_nil_left.mp hv
  rw [if_neg (by omega)]
  exact single_reportedIn hk hsub hv

/-! ## The counting rules -/

variable {xs xs' : List LiveSession}

theorem userStreams_grows (hsub : xs.Subperm xs') :
    ∀ v ∈ p.userStreams xs o, v.ReportedIn (p.userStreams xs' o) := by
  unfold userStreams
  refine reportedIn_groupSorted (fun k b b' hb v hv => ?_) hsub
  obtain ⟨server, user⟩ := k
  dsimp only at hv ⊢
  have hcounted := hb.filter (·.countsIp p.options.allowLocalIp)
  exact ite_single_reportedIn rfl (by exact_mod_cast hcounted.length_le) hcounted hv

theorem countedIps_subset {ss ss' : List LiveSession} (hsub : ∀ s ∈ ss, s ∈ ss') :
    p.countedIps ss ⊆ p.countedIps ss' := by
  intro ip hip
  simp only [countedIps, Finset.mem_filter, List.mem_toFinset, List.mem_map] at hip ⊢
  obtain ⟨⟨s, hs, rfl⟩, hcount⟩ := hip
  exact ⟨⟨s, hsub s hs, rfl⟩, hcount⟩

theorem userIps_grows (hsub : xs.Subperm xs') :
    ∀ v ∈ p.userIps xs o, v.ReportedIn (p.userIps xs' o) := by
  unfold userIps
  refine reportedIn_groupSorted (fun user b b' hb v hv => ?_) hsub
  dsimp only at hv ⊢
  have hips : (p.distinctIps b).length ≤ (p.distinctIps b').length := by
    rw [distinctIps_length, distinctIps_length]
    exact Finset.card_le_card (countedIps_subset fun s hs => hb.subset hs)
  obtain ⟨hvip, hv⟩ := List.mem_ite_nil_left.mp hv
  rw [if_neg hvip]
  exact ite_single_reportedIn rfl (by exact_mod_cast hips) (hb.filter _) hv

theorem ipStreams_grows (hsub : xs.Subperm xs') :
    ∀ v ∈ p.ipStreams xs o, v.ReportedIn (p.ipStreams xs' o) := by
  unfold ipStreams
  refine reportedIn_groupSorted (fun k b b' hb v hv => ?_) (hsub.filter _)
  obtain ⟨server, ip⟩ := k
  dsimp only at hv ⊢
  exact ite_single_reportedIn rfl (by exact_mod_cast hb.length_le) hb hv

/-! ## The server-wide rules -/

/-- A session a server-wide rule finds at fault is still at fault among more sessions: a
transcode's server has at least as many transcodes, and the other tests read the session alone. -/
theorem offending_mono (hsub : xs.Subperm xs') : ∀ s ∈ p.offending xs, s ∈ p.offending xs' := by
  intro s hs
  unfold offending at hs ⊢
  split at hs
  · obtain ⟨hT, hmax⟩ := List.mem_filter.mp hs
    have htrans := hsub.filter (·.isTranscode)
    have hlen := (htrans.filter (·.serverId = s.serverId)).length_le
    refine List.mem_filter.mpr ⟨htrans.subset hT, ?_⟩
    simp only [decide_eq_true_eq] at hmax ⊢
    omega
  · exact (hsub.filter _).subset hs
  · split_ifs at hs ⊢
    · exact (hsub.filter _).subset hs
    · exact hs
  · split_ifs at hs ⊢
    · exact hs
    · exact (hsub.filter _).subset hs
  all_goals exact absurd hs List.not_mem_nil

end Policy

/-- Over more sessions, a policy reports again every kind and actor it reported, and for the rules
that report whole servers every server too: every session of `sessions` is among `more`, as many
times, so adding streams never clears a violation. -/
theorem evaluate_reports_persist {p : Policy} {sessions more : List LiveSession}
    (hsub : sessions.Subperm more) (o : Overrides) :
    ∀ v ∈ p.evaluate sessions o, ∃ w ∈ p.evaluate more o, w.kind = v.kind ∧
      w.actorKey = v.actorKey ∧ (v.kind.narrowed = false → w.serverId = v.serverId) := by
  have hscope : (sessions.filter p.appliesTo).Subperm (more.filter p.appliesTo) := hsub.filter _
  cases hk : p.rule.serverKind? with
  | some kind =>
    obtain ⟨r, hr⟩ := Policy.evaluate_eq_perServer hk sessions o
    obtain ⟨r', hr'⟩ := Policy.evaluate_eq_perServer hk more o
    rw [hr, hr']
    exact fun v hv => Policy.perServer_reportedIn (Policy.offending_mono hscope) hv
  | none =>
    unfold Policy.evaluate
    cases hrule : p.rule <;> simp only [RuleType.serverKind?, hrule, reduceCtorEq] at hk
    · exact Policy.userStreams_grows hscope
    · exact Policy.userIps_grows hscope
    · exact Policy.ipStreams_grows hscope

/-- A policy of one stream per user, over two streams of one account and then over those two and
a third on another server, reports the account both times. -/
theorem user_report_persists_with_third_stream :
    let p : Policy := { id := 7, priority := 100, scope := .global, scopeId := none,
                        provider := none, serverId := none, rule := .maxStreamsPerUser,
                        options := { max := some 1 } }
    let ss : List LiveSession :=
      [{ serverId := 1, sessionKey := "a", externalUserId := some "ann" },
       { serverId := 1, sessionKey := "b", externalUserId := some "ann" }]
    let more := ss ++ [{ serverId := 2, sessionKey := "c", externalUserId := some "ann" }]
    ss.Subperm more ∧
      ∀ v ∈ p.evaluate ss [], ∃ w ∈ p.evaluate more [], w.kind = v.kind ∧
        w.actorKey = v.actorKey ∧ (v.kind.narrowed = false → w.serverId = v.serverId) := by
  intro p ss more
  have hsub : ss.Subperm more := (List.sublist_append_left _ _).subperm
  exact ⟨hsub, evaluate_reports_persist hsub []⟩

end StreamWarden
