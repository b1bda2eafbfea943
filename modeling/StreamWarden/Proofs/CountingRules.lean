import StreamWarden.Proofs.Grouping
import Mathlib.Data.Finset.Card

/-!
# The rules that count

Three rules count what one actor does: streams per user, addresses per user and streams per
address. Each is stated here group by group, as a reference read off the sorted distinct keys of
the in-scope sessions, and the evaluation is proved equal to it.

* Streams per user group by server (none when the policy counts over all servers) and user; the
  sessions that count are those without a local address when local addresses are allowed, and
  the limit is a monitor user's override when it is not negative.
* Addresses per user group by user alone; a monitor user with an override above zero is exempt,
  and the count is the number of distinct normalized addresses, less `unknown` when ignored and
  less local ones when allowed.
* Streams per address first drop exempt users, ignored `unknown` addresses and allowed local
  ones, then group by server (when counting per server) and normalized address.

A group over its limit reports one violation, naming the session the selector stops among its
candidates. Whether an address is local does not depend on normalizing it first, so the rules
may test either form.
-/

namespace StreamWarden

/-- Normalizing an address does not change whether it is local: blanks and `unknown` are not
local either way, and trimming twice trims once. -/
theorem Net.isLocalIp_normalizeIp (ip : Option String) :
    Net.isLocalIp (Net.normalizeIp ip) = Net.isLocalIp (ip.getD "") := by
  have hunknown : Net.isLocalIp "unknown" = false := by decide
  cases ip with
  | none =>
    rw [Net.normalizeIp, Option.map_none, hunknown]
    decide
  | some r =>
    simp only [Net.normalizeIp, Option.map_some, Option.getD_some]
    by_cases h : ((Text.trim r).isEmpty || Text.eqIgnoreAsciiCase (Text.trim r) "unknown") = true
    · rw [if_pos h, hunknown]
      simp [Net.isLocalIp, h]
    · rw [if_neg h]
      simp only [Net.isLocalIp, Text.trim_trim]

theorem Overrides.isVip_eq_any (o : Overrides) (u : Option Int) :
    o.isVip u = (u.bind o.get?).any (0 < ·) := by
  cases u with
  | none => rfl
  | some id =>
    simp only [Overrides.isVip, Option.bind_some]
    cases o.get? id <;> rfl

theorem selectTarget_nil (sel : Selector) : selectTarget [] sel = none := by
  cases sel <;> rfl

namespace Policy

/-- What a counting rule reports about a group over its limit: the session the selector stops
among the candidates, as a violation on that session's server with the group's actor and user
ids; nothing when there is no candidate. -/
def countReport (p : Policy) (kind : ViolationKind) (userId : Option Int)
    (account : Option String) (actorKey reason : String) (candidates : List LiveSession) :
    List Violation :=
  (selectTarget candidates p.options.selector).toList.map fun t =>
    { policyId := p.id, kind, serverId := t.serverId, provider := t.provider, actorKey,
      vodumUserId := userId, externalUserId := account, sessions := [t], reason,
      selector := p.options.selector, warnTitle := p.options.warnTitle,
      warnText := p.options.warnText }

/-- The stream limit per user, group by group. The in-scope sessions are grouped by server (no
server when the policy counts over all servers) and user, in ascending key order. The sessions of
a group that count are those whose address is not local, when local addresses are allowed. The
limit is a monitor user's override when there is one that is not negative, else the policy's. A
group with more counted sessions than its limit reports the session the selector stops among
them, under the user's actor and ids. -/
def userStreamsReference (p : Policy) (sessions : List LiveSession) (o : Overrides) :
    List Violation :=
  let inScope := sessions.filter p.appliesTo
  let key (s : LiveSession) : Option Int × UserKey :=
    (if p.isGlobal then none else some s.serverId, s.userKey)
  (keysAscending serverUserLt (inScope.map key)).flatMap fun k =>
    let user := k.2
    let counted := (inScope.filter fun s => key s = k).filter fun s =>
      !(p.options.allowLocalIp && Net.isLocalIp (s.ip.getD ""))
    let limit : Int := match user.1.bind o.get? with
      | some m => if 0 ≤ m then m else p.max
      | none => p.max
    if limit < counted.length ∧ counted ≠ [] then
      p.countReport .userStreams user.1 (if user.2 = "" then none else some user.2)
        (userActorKey user.1 user.2) s!"max_streams_per_user: {counted.length} > {limit}" counted
    else []

/-- The addresses a group of sessions is counted from: their distinct normalized addresses, less
`unknown` when the policy ignores it and less the local ones when local addresses are allowed. -/
def countedIps (p : Policy) (ss : List LiveSession) : Finset String :=
  (ss.map fun s => Net.normalizeIp s.ip).toFinset.filter fun ip =>
    ¬(p.options.ignoreUnknown ∧ ip = "unknown") ∧ ¬(p.options.allowLocalIp ∧ Net.isLocalIp ip)

/-- The address limit per user, group by group. The in-scope sessions are grouped by user alone,
whatever the policy's scope or server, in ascending key order, and a monitor user with an
override above zero is exempt. The addresses counted are the distinct normalized addresses of the
group, less `unknown` when the policy ignores it and less the local ones when local addresses are
allowed. A group with more addresses than the policy's limit reports the session the selector
stops among its sessions, less those with a local address when local addresses are allowed. -/
def userIpsReference (p : Policy) (sessions : List LiveSession) (o : Overrides) :
    List Violation :=
  let inScope := sessions.filter p.appliesTo
  (keysAscending userKeyLt (inScope.map (·.userKey))).flatMap fun user =>
    let group := inScope.filter fun s => s.userKey = user
    let ips := p.countedIps group
    let candidates := group.filter fun s =>
      !(p.options.allowLocalIp && Net.isLocalIp (s.ip.getD ""))
    if (user.1.bind o.get?).any (0 < ·) then []
    else if p.max < ips.card ∧ candidates ≠ [] then
      p.countReport .userIps user.1 (if user.2 = "" then none else some user.2)
        (userActorKey user.1 user.2) s!"max_ips_per_user: {ips.card} > {p.max}" candidates
    else []

/-- The stream limit per address. The in-scope sessions of monitor users with an override above
zero are dropped, as are those whose normalized address is `unknown` when the policy ignores it
and those whose address is local when local addresses are allowed. The rest are grouped by server
(when the policy counts per server) and normalized address, in ascending key order, and a group
with more sessions than the policy's limit reports the session the selector stops among them,
under the address and with no user. -/
def ipStreamsReference (p : Policy) (sessions : List LiveSession) (o : Overrides) :
    List Violation :=
  let counted := (sessions.filter p.appliesTo).filter fun s =>
    !(s.vodumUserId.bind o.get?).any (0 < ·) &&
      !(p.options.ignoreUnknown && Net.normalizeIp s.ip == "unknown") &&
      !(p.options.allowLocalIp && Net.isLocalIp (s.ip.getD ""))
  let key (s : LiveSession) : Option Int × String :=
    (if p.options.perServer then some s.serverId else none, Net.normalizeIp s.ip)
  (keysAscending serverTextLt (counted.map key)).flatMap fun k =>
    let ip := k.2
    let group := counted.filter fun s => key s = k
    if p.max < group.length then
      p.countReport .ipStreams none none ("ip:" ++ ip)
        s!"max_streams_per_ip({ip}): {group.length} > {p.max}" group
    else []

/-! ## One report per group -/

variable {p : Policy}

/-- A narrowed violation is the counting report, with the user's ids read off the user key. -/
theorem single_eq_countReport (kind : ViolationKind) (user : Option UserKey) (actorKey : String)
    (candidates : List LiveSession) (reason : String) :
    p.single kind user actorKey candidates reason =
      p.countReport kind (user.bind (·.1)) ((user.map (·.2)).filter fun e => !e.isEmpty) actorKey
        reason candidates := by
  unfold single countReport
  cases selectTarget candidates p.options.selector <;> rfl

theorem filter_account (u : UserKey) :
    ((some u).map (·.2)).filter (fun e => !e.isEmpty) = if u.2 = "" then none else some u.2 := by
  by_cases h : u.2 = "" <;> simp [Option.filter, h]

theorem countReport_nil (kind : ViolationKind) (userId : Option Int) (account : Option String)
    (actorKey reason : String) : p.countReport kind userId account actorKey reason [] = [] := by
  simp [countReport, selectTarget_nil]

/-- A group reports when its count is over the limit and it has a candidate, and then it reports
the counting report of its candidates. -/
theorem ite_single_eq_countReport (n limit : Int) (kind : ViolationKind) (user : Option UserKey)
    (actorKey : String) (candidates : List LiveSession) (reason : String) :
    (if n ≤ limit then [] else p.single kind user actorKey candidates reason) =
      if limit < n ∧ candidates ≠ [] then
        p.countReport kind (user.bind (·.1)) ((user.map (·.2)).filter fun e => !e.isEmpty)
          actorKey reason candidates
      else [] := by
  rw [single_eq_countReport]
  by_cases hC : candidates = []
  · subst hC
    simp [countReport_nil]
  · by_cases h : n ≤ limit
    · simp [h, not_lt.mpr h]
    · simp [h, hC, lt_of_not_ge h]

/-! ## Streams per user -/

/-- The stream limit per user is evaluated group by group, in ascending order of server and user,
as `userStreamsReference` states it. -/
theorem evaluate_userStreams_eq_reference (hrule : p.rule = .maxStreamsPerUser)
    (sessions : List LiveSession) (o : Overrides) :
    p.evaluate sessions o = p.userStreamsReference sessions o := by
  simp only [evaluate, hrule, userStreams, userStreamsReference]
  rw [groupSorted_eq, List.flatMap_map]
  refine List.flatMap_congr fun k _ => ?_
  obtain ⟨server, user⟩ := k
  dsimp only
  rw [ite_single_eq_countReport, Option.bind_some, filter_account]
  rfl

/-- A global policy of one stream per user, over two streams of monitor user 7 on two servers,
with an override of two for that user, evaluates as its reference. -/
theorem userStreams_reference_across_servers :
    let p : Policy := { id := 1, priority := 100, scope := .global, scopeId := none,
                        provider := none, serverId := none, rule := .maxStreamsPerUser,
                        options := { max := some 1 } }
    let ss : List LiveSession := [{ serverId := 1, sessionKey := "a", vodumUserId := some 7 },
      { serverId := 2, sessionKey := "b", vodumUserId := some 7 }]
    p.rule = .maxStreamsPerUser ∧ p.evaluate ss [(7, 2)] = p.userStreamsReference ss [(7, 2)] := by
  intro p ss
  exact ⟨rfl, evaluate_userStreams_eq_reference rfl ss [(7, 2)]⟩

/-! ## Addresses per user -/

/-- Keeping an address only when it is new keeps each address once: afterwards the list holds the
addresses it held and those offered, without repeats. -/
theorem foldl_keepNew (l acc : List String) (hacc : acc.Nodup) :
    (l.foldl (fun acc ip => if acc.contains ip then acc else acc ++ [ip]) acc).Nodup ∧
      ∀ x, x ∈ l.foldl (fun acc ip => if acc.contains ip then acc else acc ++ [ip]) acc ↔
        x ∈ acc ∨ x ∈ l := by
  induction l generalizing acc with
  | nil => simp [hacc]
  | cons y l ih =>
    rw [List.foldl_cons]
    by_cases hy : y ∈ acc
    · obtain ⟨hnodup, hmem⟩ := ih acc hacc
      rw [if_pos (List.contains_iff_mem.mpr hy)]
      refine ⟨hnodup, fun x => ?_⟩
      rw [hmem, List.mem_cons]
      constructor
      · rintro (h | h)
        · exact .inl h
        · exact .inr (.inr h)
      · rintro (h | rfl | h)
        · exact .inl h
        · exact .inl hy
        · exact .inr h
    · have hacc' : (acc ++ [y]).Nodup := List.nodup_append.mpr ⟨hacc, List.nodup_singleton y,
        fun a ha b hb hab => hy (by simp_all)⟩
      obtain ⟨hnodup, hmem⟩ := ih (acc ++ [y]) hacc'
      rw [if_neg (mt List.contains_iff_mem.mp hy)]
      refine ⟨hnodup, fun x => ?_⟩
      rw [hmem]
      simp only [List.mem_append, List.mem_cons]
      tauto

/-- The model's count of a user's addresses is the size of the set of addresses counted. -/
theorem distinctIps_length (ss : List LiveSession) :
    (p.distinctIps ss).length = (p.countedIps ss).card := by
  obtain ⟨hnodup, hmem⟩ := foldl_keepNew
    ((ss.map (Net.normalizeIp ·.ip)).filter fun ip =>
      !(p.options.ignoreUnknown && ip == "unknown") && !(p.options.allowLocalIp && Net.isLocalIp ip))
    [] List.nodup_nil
  rw [distinctIps, ← List.toFinset_card_of_nodup hnodup]
  congr 1
  ext ip
  rw [List.mem_toFinset, hmem]
  simp [countedIps, or_iff_not_imp_left]

/-- The address limit per user is evaluated user by user, in ascending key order, counting the set
of addresses, as `userIpsReference` states it. -/
theorem evaluate_userIps_eq_reference (hrule : p.rule = .maxIpsPerUser)
    (sessions : List LiveSession) (o : Overrides) :
    p.evaluate sessions o = p.userIpsReference sessions o := by
  simp only [evaluate, hrule, userIps, userIpsReference, Overrides.isVip_eq_any]
  rw [groupSorted_eq, List.flatMap_map]
  refine List.flatMap_congr fun user _ => ?_
  dsimp only
  rw [ite_single_eq_countReport, Option.bind_some, filter_account, distinctIps_length]
  rfl

/-- A policy of one address per user that allows local addresses, over an account seen from a
public address, a local one and an unknown one, evaluates as its reference. -/
theorem userIps_reference_with_local_and_unknown :
    let p : Policy := { id := 2, priority := 100, scope := .global, scopeId := none,
                        provider := none, serverId := none, rule := .maxIpsPerUser,
                        options := { max := some 1, allowLocalIp := true } }
    let ss : List LiveSession :=
      [{ sessionKey := "a", externalUserId := some "ann", ip := some "203.0.113.4" },
       { sessionKey := "b", externalUserId := some " ann", ip := some "192.168.1.10" },
       { sessionKey := "c", externalUserId := some "ann" }]
    p.rule = .maxIpsPerUser ∧ p.evaluate ss [] = p.userIpsReference ss [] := by
  intro p ss
  exact ⟨rfl, evaluate_userIps_eq_reference rfl ss []⟩

/-! ## Streams per address -/

/-- The stream limit per address is evaluated over the sessions that count, grouped in ascending
order of server and address, as `ipStreamsReference` states it. -/
theorem evaluate_ipStreams_eq_reference (hrule : p.rule = .maxStreamsPerIp)
    (sessions : List LiveSession) (o : Overrides) :
    p.evaluate sessions o = p.ipStreamsReference sessions o := by
  simp only [evaluate, hrule, ipStreams, ipStreamsReference, Overrides.isVip_eq_any,
    Net.isLocalIp_normalizeIp]
  rw [groupSorted_eq, List.flatMap_map]
  refine List.flatMap_congr fun k hk => ?_
  obtain ⟨server, ip⟩ := k
  dsimp only
  have hne := mem_map_iff_filter_ne_nil.mp (mem_keysAscending.mp hk)
  rw [ite_single_eq_countReport]
  simp only [hne, ne_eq, not_false_eq_true, and_true, Option.bind_none, Option.map_none,
    Option.filter_none]

/-- A policy of one stream per address counted over all servers, over two streams from one address
on two servers, one of them a monitor user's with an override, evaluates as its reference. -/
theorem ipStreams_reference_shared_address :
    let p : Policy := { id := 3, priority := 100, scope := .global, scopeId := none,
                        provider := none, serverId := none, rule := .maxStreamsPerIp,
                        options := { max := some 1, perServer := false } }
    let ss : List LiveSession :=
      [{ serverId := 1, sessionKey := "a", ip := some "203.0.113.4" },
       { serverId := 2, sessionKey := "b", ip := some "203.0.113.4", vodumUserId := some 7 }]
    p.rule = .maxStreamsPerIp ∧ p.evaluate ss [(7, 3)] = p.ipStreamsReference ss [(7, 3)] := by
  intro p ss
  exact ⟨rfl, evaluate_ipStreams_eq_reference rfl ss [(7, 3)]⟩

end Policy

end StreamWarden
