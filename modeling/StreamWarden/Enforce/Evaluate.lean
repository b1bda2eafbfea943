import StreamWarden.Enforce.Select
import StreamWarden.Enforce.Violation
import StreamWarden.Policy.Basic
import StreamWarden.Net.Address
import StreamWarden.Text.Lower

/-!
# Evaluating a policy

A policy is evaluated over the live sessions it applies to. The rules that count streams or
addresses group the sessions and report each group over its limit once, narrowed to the one
session the policy's selector would stop. The server-wide rules report each server with
offending sessions once, with all of them.

Groups are visited in ascending key order: an absent key before a present one, numbers
numerically, texts in code point order. A user's key is the monitor user when there is one,
and otherwise the trimmed server account, so that one person seen on several servers counts
once. A user with a positive override of the stream limit is exempt from the address rules.
-/

namespace StreamWarden

/-- The stream-limit overrides of monitor users, later entries winning. -/
abbrev Overrides := List (Int × Int)

/-- The override of a monitor user, if any. -/
def Overrides.get? (o : Overrides) (id : Int) : Option Int :=
  (o.reverse.find? (·.1 == id)).map (·.2)

/-- A monitor user is exempt from the address rules: an override above zero. -/
def Overrides.isVip (o : Overrides) : Option Int → Bool
  | some id => match o.get? id with
    | some m => m > 0
    | none => false
  | none => false

/-! ### Groups in key order -/

/-- The order on optional integers: absent first. -/
def optIntLt : Option Int → Option Int → Bool
  | none, some _ => true
  | some a, some b => a < b
  | _, _ => false

/-- The key of a user: the monitor user, or else the trimmed server account. -/
abbrev UserKey := Option Int × String

/-- The order of user keys. -/
def userKeyLt (a b : UserKey) : Bool :=
  optIntLt a.1 b.1 || (a.1 == b.1 && decide (a.2 < b.2))

/-- The order of pairs of a server and a user key. -/
def serverUserLt (a b : Option Int × UserKey) : Bool :=
  optIntLt a.1 b.1 || (a.1 == b.1 && userKeyLt a.2 b.2)

/-- The order of pairs of a server and an address. -/
def serverTextLt (a b : Option Int × String) : Bool :=
  optIntLt a.1 b.1 || (a.1 == b.1 && decide (a.2 < b.2))

/-- Adds an item to its group in a list of groups sorted by key; a group keeps its items in the
order they came. -/
def insertGroup {K α : Type} (lt : K → K → Bool) (k : K) (x : α) :
    List (K × List α) → List (K × List α)
  | [] => [(k, [x])]
  | (k', xs) :: rest =>
    if lt k k' then (k, [x]) :: (k', xs) :: rest
    else if lt k' k then (k', xs) :: insertGroup lt k x rest
    else (k', xs ++ [x]) :: rest

/-- The groups of a list by a key, in ascending key order. -/
def groupSorted {K α : Type} (lt : K → K → Bool) (key : α → K) (xs : List α) : List (K × List α) :=
  xs.foldl (fun acc x => insertGroup lt (key x) x acc) []

namespace LiveSession

/-- The user key of a session. -/
def userKey (s : LiveSession) : UserKey :=
  match s.vodumUserId with
  | some id => (some id, "")
  | none => (none, Text.trim (s.externalUserId.getD ""))

/-- The session counts for the address rules: not a local address when those are allowed. -/
def countsIp (s : LiveSession) (allowLocal : Bool) : Bool :=
  !(allowLocal && Net.isLocalIp (s.ip.getD ""))

/-- The device of a session for the allow-list: its trimmed device name, else its trimmed
client product, lowercased. -/
def deviceName (s : LiveSession) : String :=
  let device := match s.device.map Text.trim with
    | some d => if d.isEmpty then s.clientProduct.map Text.trim else some d
    | none => s.clientProduct.map Text.trim
  Text.toLower (device.getD "")

end LiveSession

/-- The least media height that counts as 4K. -/
def uhdHeight : Int := 2160

namespace Policy

/-- A violation of this policy with its settings filled in. -/
def violation (p : Policy) (kind : ViolationKind) (user : Option UserKey) (actorKey : String)
    (serverId : Int) (provider : String) (sessions : List LiveSession) (reason : String) :
    Violation :=
  { policyId := p.id, kind, serverId, provider, actorKey
    vodumUserId := user.bind (·.1)
    externalUserId := (user.map (·.2)).filter (fun e => !e.isEmpty)
    sessions, reason
    selector := p.options.selector
    warnTitle := p.options.warnTitle
    warnText := p.options.warnText }

/-- One violation narrowed to the session the selector chooses among the candidates; none when
there is no candidate. -/
def single (p : Policy) (kind : ViolationKind) (user : Option UserKey) (actorKey : String)
    (candidates : List LiveSession) (reason : String) : List Violation :=
  match selectTarget candidates p.options.selector with
  | some t => [p.violation kind user actorKey t.serverId t.provider [t] reason]
  | none => []

/-- One violation per server with offending sessions, in ascending server order. -/
def perServer (p : Policy) (kind : ViolationKind) (offending : List LiveSession)
    (reason : List LiveSession → String) : List Violation :=
  (groupSorted (fun a b => decide (a < b)) (·.serverId) offending).filterMap fun (sid, ss) =>
    match ss with
    | first :: _ => some (p.violation kind none ("rule:" ++ kind.name) sid first.provider ss (reason ss))
    | [] => none

/-- Too many streams of one user (per server, unless the policy counts over all servers). -/
def userStreams (p : Policy) (inScope : List LiveSession) (o : Overrides) : List Violation :=
  let server (s : LiveSession) : Option Int := if p.isGlobal then none else some s.serverId
  (groupSorted serverUserLt (fun s => (server s, s.userKey)) inScope).flatMap fun ((_, user), ss) =>
    let effMax := match user.1.bind o.get? with
      | some m => if m ≥ 0 then m else p.max
      | none => p.max
    let counted := ss.filter (·.countsIp p.options.allowLocalIp)
    if (counted.length : Int) ≤ effMax then []
    else p.single .userStreams (some user) (userActorKey user.1 user.2) counted
      s!"max_streams_per_user: {counted.length} > {effMax}"

/-- The distinct addresses of a user's sessions that count. -/
def distinctIps (p : Policy) (ss : List LiveSession) : List String :=
  let ips := (ss.map (Net.normalizeIp ·.ip)).filter fun ip =>
    !(p.options.ignoreUnknown && ip == "unknown") && !(p.options.allowLocalIp && Net.isLocalIp ip)
  ips.foldl (fun acc ip => if acc.contains ip then acc else acc ++ [ip]) []

/-- Too many distinct addresses of one user. -/
def userIps (p : Policy) (inScope : List LiveSession) (o : Overrides) : List Violation :=
  (groupSorted userKeyLt (·.userKey) inScope).flatMap fun (user, ss) =>
    if o.isVip user.1 then []
    else
      let n := (p.distinctIps ss).length
      if (n : Int) ≤ p.max then []
      else
        let candidates := ss.filter (·.countsIp p.options.allowLocalIp)
        p.single .userIps (some user) (userActorKey user.1 user.2) candidates
          s!"max_ips_per_user: {n} > {p.max}"

/-- Too many streams from one address. -/
def ipStreams (p : Policy) (inScope : List LiveSession) (o : Overrides) : List Violation :=
  let counted := inScope.filter fun s =>
    let ip := Net.normalizeIp s.ip
    !o.isVip s.vodumUserId && !(p.options.ignoreUnknown && ip == "unknown") &&
      !(p.options.allowLocalIp && Net.isLocalIp ip)
  let key (s : LiveSession) : Option Int × String :=
    (if p.options.perServer then some s.serverId else none, Net.normalizeIp s.ip)
  (groupSorted serverTextLt key counted).flatMap fun ((_, ip), ss) =>
    if (ss.length : Int) ≤ p.max then []
    else p.single .ipStreams none ("ip:" ++ ip) ss s!"max_streams_per_ip({ip}): {ss.length} > {p.max}"

/-- Too many transcodes on one server. -/
def serverTranscodes (p : Policy) (inScope : List LiveSession) : List Violation :=
  let groups := groupSorted (fun a b => decide (a < b)) (·.serverId) (inScope.filter (·.isTranscode))
  let excess := (groups.filter fun (_, ss) => (ss.length : Int) > p.max).flatMap (·.2)
  p.perServer .serverTranscodes excess fun ss => s!"max_transcodes_server: {ss.length} > {p.max}"

/-- Transcodes of 4K media. -/
def transcodes4k (p : Policy) (inScope : List LiveSession) : List Violation :=
  let offending := inScope.filter fun s =>
    s.isTranscode && match s.mediaHeight with
      | some h => h ≥ uhdHeight
      | none => false
  p.perServer .transcode4k offending fun _ => "ban_4k_transcode: 4K transcode detected"

/-- Sessions above the bitrate cap; no cap when it is not positive. -/
def bitrates (p : Policy) (inScope : List LiveSession) : List Violation :=
  let cap := p.options.maxKbps
  if cap > 0 then
    let offending := inScope.filter fun s => s.bitrateKbps.getD 0 > cap
    p.perServer .bitrate offending fun ss => s!"max_bitrate_kbps: {ss.length} session(s) above {cap} kbps"
  else []

/-- Devices outside the allow-list; no check when the list is empty. -/
def devices (p : Policy) (inScope : List LiveSession) : List Violation :=
  if p.options.allowed.isEmpty then []
  else
    let offending := inScope.filter fun s =>
      let d := s.deviceName
      !d.isEmpty && !p.options.allowed.contains d
    p.perServer .device offending fun _ => "device_allowlist: device not allowed"

/-- The violations of one policy over the live sessions. -/
def evaluate (p : Policy) (sessions : List LiveSession) (o : Overrides) : List Violation :=
  let inScope := sessions.filter p.appliesTo
  match p.rule with
  | .maxStreamsPerUser => p.userStreams inScope o
  | .maxIpsPerUser => p.userIps inScope o
  | .maxStreamsPerIp => p.ipStreams inScope o
  | .maxTranscodesGlobal => p.serverTranscodes inScope
  | .ban4kTranscode => p.transcodes4k inScope
  | .maxBitrateKbps => p.bitrates inScope
  | .deviceAllowlist => p.devices inScope

end Policy

/-- The violations of several policies, policy by policy. -/
def evaluateAll (policies : List Policy) (sessions : List LiveSession) (o : Overrides) :
    List Violation :=
  policies.flatMap fun p => p.evaluate sessions o

end StreamWarden
