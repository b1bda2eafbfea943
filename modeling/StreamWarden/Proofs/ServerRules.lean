import StreamWarden.Proofs.Grouping

/-!
# The rules that report servers

Four rules report a whole server at once: too many transcodes on it, transcodes of 4K media,
streams above the bitrate cap and devices outside the allow-list. The sessions each rule finds at
fault are named here (`Policy.offending`), and the evaluation is proved to partition them by
server: one violation for each server that has any, in ascending server order, carrying exactly
that server's sessions at fault in the order they came (`serverWide_partitions_offending`).

The transcode rule groups by server twice: once to count, and again to report the servers over
the limit. The two agree because filtering the joined transcodes of the servers over the limit by
one server gives that server's transcodes, or nothing.
-/

namespace StreamWarden

/-- The kind of violation a rule reports when it reports whole servers; none for the rules that
count per actor. -/
def RuleType.serverKind? : RuleType → Option ViolationKind
  | .maxTranscodesGlobal => some .serverTranscodes
  | .ban4kTranscode => some .transcode4k
  | .maxBitrateKbps => some .bitrate
  | .deviceAllowlist => some .device
  | .maxStreamsPerUser | .maxIpsPerUser | .maxStreamsPerIp => none

namespace Policy

/-- The in-scope sessions a server-wide rule finds at fault: every transcode of a server with more
transcodes than the limit; the transcodes of media at least 4K high; the sessions above the bitrate
cap (an absent bitrate being zero), when there is a cap; the sessions whose device is named and
not allowed, when there is an allow-list. The rules that count per actor find none. -/
def offending (p : Policy) (inScope : List LiveSession) : List LiveSession :=
  match p.rule with
  | .maxTranscodesGlobal =>
    let transcodes := inScope.filter (·.isTranscode)
    transcodes.filter fun s => p.max < (transcodes.filter (·.serverId = s.serverId)).length
  | .ban4kTranscode =>
    inScope.filter fun s => s.isTranscode && s.mediaHeight.any (uhdHeight ≤ ·)
  | .maxBitrateKbps =>
    if 0 < p.options.maxKbps then inScope.filter fun s => p.options.maxKbps < s.bitrateKbps.getD 0
    else []
  | .deviceAllowlist =>
    if p.options.allowed = [] then []
    else inScope.filter fun s => s.deviceName ≠ "" ∧ s.deviceName ∉ p.options.allowed
  | .maxStreamsPerUser | .maxIpsPerUser | .maxStreamsPerIp => []

/-! ## One violation per server -/

variable {p : Policy} {kind : ViolationKind}

/-- The server-wide emitter reports, for each server of the offending sessions in ascending
order, that server's offending sessions, led by the one whose family it names. -/
theorem perServer_eq (off : List LiveSession) (reason : List LiveSession → String) :
    p.perServer kind off reason =
      (keysAscending (fun a b => decide (a < b)) (off.map (·.serverId))).map fun sid =>
        p.violation kind none ("rule:" ++ kind.name) sid
          (((off.filter (·.serverId = sid)).head?.map (·.provider)).getD "")
          (off.filter (·.serverId = sid)) (reason (off.filter (·.serverId = sid))) := by
  rw [perServer, groupSorted_eq, List.filterMap_map]
  refine (List.filterMap_congr fun sid hsid => ?_).trans (congrFun List.filterMap_eq_map' _)
  have hne := mem_map_iff_filter_ne_nil.mp (mem_keysAscending.mp hsid)
  dsimp only [Function.comp_apply]
  split
  · rename_i first rest hsplit
    rw [hsplit]
    rfl
  · rename_i hnil
    exact absurd hnil hne

theorem perServer_serverIds (off : List LiveSession) (reason : List LiveSession → String) :
    (p.perServer kind off reason).map (·.serverId) =
      keysAscending (fun a b => decide (a < b)) (off.map (·.serverId)) := by
  rw [perServer_eq, List.map_map]
  exact List.map_id'' (fun _ => rfl) _

theorem mem_perServer_eq {off : List LiveSession} {reason : List LiveSession → String}
    {v : Violation} (hv : v ∈ p.perServer kind off reason) :
    v.kind = kind ∧ v.actorKey = "rule:" ++ kind.name ∧
      v.sessions = off.filter (·.serverId = v.serverId) := by
  rw [perServer_eq] at hv
  obtain ⟨sid, -, rfl⟩ := List.mem_map.mp hv
  exact ⟨rfl, rfl, rfl⟩

/-- The sessions of the server-wide violations are the offending sessions, each once. -/
theorem perServer_sessions_perm (off : List LiveSession) (reason : List LiveSession → String) :
    ((p.perServer kind off reason).flatMap (·.sessions)).Perm off := by
  rw [perServer_eq, List.flatMap_map]
  exact flatMap_filter_key_perm (keysAscending_nodup _)
    fun s hs => mem_keysAscending.mpr (List.mem_map_of_mem hs)

/-- The server-wide emitter depends only on which sessions each server has at fault. -/
theorem perServer_congr {off off' : List LiveSession} (reason : List LiveSession → String)
    (h : ∀ sid, off.filter (·.serverId = sid) = off'.filter (·.serverId = sid)) :
    p.perServer kind off reason = p.perServer kind off' reason := by
  have hkeys : keysAscending (fun a b => decide (a < b)) (off.map (·.serverId)) =
      keysAscending (fun a b => decide (a < b)) (off'.map (·.serverId)) :=
    keysAscending_congr fun sid => by rw [mem_map_iff_filter_ne_nil, mem_map_iff_filter_ne_nil, h]
  rw [perServer_eq, perServer_eq, hkeys]
  simp only [h]

/-! ## Each rule hands the emitter its sessions at fault -/

variable {inScope : List LiveSession}

theorem serverTranscodes_eq_perServer (hrule : p.rule = .maxTranscodesGlobal) :
    p.serverTranscodes inScope = p.perServer .serverTranscodes (p.offending inScope)
      (fun ss => s!"max_transcodes_server: {ss.length} > {p.max}") := by
  unfold serverTranscodes
  refine perServer_congr _ fun sid => ?_
  simp only [offending, hrule]
  rw [groupSorted_eq, List.filter_map, List.flatMap_map]
  dsimp only [Function.comp_def]
  generalize inScope.filter (·.isTranscode) = T
  have hnodup : ((keysAscending (fun a b => decide (a < b)) (T.map (·.serverId))).filter
      fun k => decide (((T.filter (·.serverId = k)).length : Int) > p.max)).Nodup :=
    (keysAscending_nodup _).filter _
  rw [filter_flatMap_key hnodup, List.filter_filter]
  have hright : (T.filter fun s => decide (s.serverId = sid) &&
      decide (p.max < ((T.filter (·.serverId = s.serverId)).length : Int))) =
      if p.max < ((T.filter (·.serverId = sid)).length : Int) then T.filter (·.serverId = sid)
      else [] := by
    split_ifs with hmax
    · refine List.filter_congr fun s _ => ?_
      by_cases hs : s.serverId = sid
      · simp [hs, hmax]
      · simp [hs]
    · refine List.filter_eq_nil_iff.mpr fun s _ hs => ?_
      simp only [Bool.and_eq_true, decide_eq_true_eq] at hs
      exact hmax (hs.1 ▸ hs.2)
  rw [hright]
  by_cases hmem : sid ∈ T.map (·.serverId)
  · simp [hmem]
  · have hnil : (T.filter (·.serverId = sid)) = [] := by
      simpa [mem_map_iff_filter_ne_nil] using hmem
    simp [hnil]

theorem transcodes4k_eq_perServer (hrule : p.rule = .ban4kTranscode) :
    p.transcodes4k inScope = p.perServer .transcode4k (p.offending inScope)
      (fun _ => "ban_4k_transcode: 4K transcode detected") := by
  simp only [transcodes4k, offending, hrule]
  refine congrArg (fun off => p.perServer .transcode4k off _) (List.filter_congr fun s _ => ?_)
  cases s.mediaHeight <;> simp

theorem bitrates_eq_perServer (hrule : p.rule = .maxBitrateKbps) :
    p.bitrates inScope = p.perServer .bitrate (p.offending inScope)
      (fun ss => s!"max_bitrate_kbps: {ss.length} session(s) above {p.options.maxKbps} kbps") := by
  simp only [bitrates, offending, hrule]
  split_ifs
  · rfl
  · rfl

theorem devices_eq_perServer (hrule : p.rule = .deviceAllowlist) :
    p.devices inScope = p.perServer .device (p.offending inScope)
      (fun _ => "device_allowlist: device not allowed") := by
  simp only [devices, offending, hrule, List.isEmpty_iff]
  split_ifs
  · rfl
  · refine congrArg (fun off => p.perServer .device off _) (List.filter_congr fun s _ => ?_)
    have hempty : s.deviceName.isEmpty = decide (s.deviceName = "") :=
      Bool.eq_iff_iff.mpr (by simp [String.isEmpty_iff])
    simp [hempty]

/-- A server-wide rule hands the emitter the sessions it finds at fault. -/
theorem evaluate_eq_perServer (hk : p.rule.serverKind? = some kind) (sessions : List LiveSession)
    (o : Overrides) :
    ∃ reason, p.evaluate sessions o =
      p.perServer kind (p.offending (sessions.filter p.appliesTo)) reason := by
  cases hrule : p.rule with
  | maxTranscodesGlobal =>
    obtain rfl : kind = .serverTranscodes := by simpa [hrule, RuleType.serverKind?] using hk.symm
    exact ⟨_, by simp only [evaluate, hrule]; exact serverTranscodes_eq_perServer hrule⟩
  | ban4kTranscode =>
    obtain rfl : kind = .transcode4k := by simpa [hrule, RuleType.serverKind?] using hk.symm
    exact ⟨_, by simp only [evaluate, hrule]; exact transcodes4k_eq_perServer hrule⟩
  | maxBitrateKbps =>
    obtain rfl : kind = .bitrate := by simpa [hrule, RuleType.serverKind?] using hk.symm
    exact ⟨_, by simp only [evaluate, hrule]; exact bitrates_eq_perServer hrule⟩
  | deviceAllowlist =>
    obtain rfl : kind = .device := by simpa [hrule, RuleType.serverKind?] using hk.symm
    exact ⟨_, by simp only [evaluate, hrule]; exact devices_eq_perServer hrule⟩
  | maxStreamsPerUser | maxIpsPerUser | maxStreamsPerIp => simp [hrule, RuleType.serverKind?] at hk

end Policy

/-! ## The sessions at fault, partitioned by server -/

/-- A server-wide rule reports each server with sessions at fault once, in ascending server order,
under the rule's actor and with exactly that server's sessions at fault in the order they came.
So every session at fault is in exactly one violation, and no other session is in any. -/
theorem serverWide_partitions_offending {p : Policy} {kind : ViolationKind}
    (hk : p.rule.serverKind? = some kind) (sessions : List LiveSession) (o : Overrides) :
    let offending := p.offending (sessions.filter p.appliesTo)
    let vs := p.evaluate sessions o
    (vs.map (·.serverId)).Pairwise (· < ·) ∧
      (∀ sid, sid ∈ vs.map (·.serverId) ↔ ∃ s ∈ offending, s.serverId = sid) ∧
      (∀ v ∈ vs, v.kind = kind ∧ v.actorKey = "rule:" ++ kind.name ∧
        v.sessions = offending.filter (·.serverId = v.serverId)) ∧
      (vs.flatMap (·.sessions)).Perm offending ∧
      (∀ s ∈ offending, ∃ v ∈ vs, s ∈ v.sessions ∧ ∀ w ∈ vs, s ∈ w.sessions → w = v) := by
  obtain ⟨reason, hvs⟩ := Policy.evaluate_eq_perServer hk sessions o
  intro offending vs
  replace hvs : vs = p.perServer kind offending reason := hvs
  have hids : vs.map (·.serverId) = keysAscending (fun a b => decide (a < b))
      (offending.map (·.serverId)) := by
    rw [hvs]
    exact Policy.perServer_serverIds _ _
  have hsorted : (vs.map (·.serverId)).Pairwise (· < ·) := by
    rw [hids]
    exact (keysAscending_pairwise _).imp of_decide_eq_true
  have hfields : ∀ v ∈ vs, v.kind = kind ∧ v.actorKey = "rule:" ++ kind.name ∧
      v.sessions = offending.filter (·.serverId = v.serverId) := fun v hv =>
    Policy.mem_perServer_eq (hvs ▸ hv)
  refine ⟨hsorted, fun sid => ?_, hfields, hvs ▸ Policy.perServer_sessions_perm _ _,
    fun s hs => ?_⟩
  · rw [hids, mem_keysAscending, List.mem_map]
  · obtain ⟨v, hv, hvid⟩ :=
      List.mem_map.mp (hids ▸ mem_keysAscending.mpr (List.mem_map_of_mem hs) :
        s.serverId ∈ vs.map (·.serverId))
    refine ⟨v, hv, ?_, fun w hw hsw => ?_⟩
    · rw [(hfields v hv).2.2]
      exact List.mem_filter.mpr ⟨hs, by simp [hvid]⟩
    · rw [(hfields w hw).2.2] at hsw
      have hwid : w.serverId = v.serverId := by
        rw [hvid]
        exact (of_decide_eq_true (List.mem_filter.mp hsw).2).symm
      exact List.inj_on_of_nodup_map (hsorted.imp ne_of_lt) hw hv hwid

/-- A policy of one transcode per server, over two transcodes on server 1, one on server 2 and a
direct stream on server 1, partitions the transcodes of server 1. -/
theorem transcodes_partition_by_server :
    let p : Policy := { id := 4, priority := 100, scope := .global, scopeId := none,
                        provider := none, serverId := none, rule := .maxTranscodesGlobal,
                        options := { max := some 1 } }
    let ss : List LiveSession :=
      [{ serverId := 1, sessionKey := "a", isTranscode := true },
       { serverId := 2, sessionKey := "b", isTranscode := true },
       { serverId := 1, sessionKey := "c" },
       { serverId := 1, sessionKey := "d", isTranscode := true }]
    let offending := p.offending (ss.filter p.appliesTo)
    let vs := p.evaluate ss []
    p.rule.serverKind? = some .serverTranscodes ∧
      ((vs.map (·.serverId)).Pairwise (· < ·) ∧
        (∀ sid, sid ∈ vs.map (·.serverId) ↔ ∃ s ∈ offending, s.serverId = sid) ∧
        (∀ v ∈ vs, v.kind = .serverTranscodes ∧
          v.actorKey = "rule:" ++ ViolationKind.serverTranscodes.name ∧
          v.sessions = offending.filter (·.serverId = v.serverId)) ∧
        (vs.flatMap (·.sessions)).Perm offending ∧
        (∀ s ∈ offending, ∃ v ∈ vs, s ∈ v.sessions ∧ ∀ w ∈ vs, s ∈ w.sessions → w = v)) := by
  intro p ss offending vs
  exact ⟨rfl, serverWide_partitions_offending rfl ss []⟩

end StreamWarden
