import StreamWarden.Media.Session
import StreamWarden.Media.Http
import StreamWarden.Media.Failover
import StreamWarden.Xml.Reader

/-!
# Plex servers

A Plex server lists what is playing at `/status/sessions`, as XML: each element under the root
is one playing item with `User`, `Player`, `Media` and possibly `TranscodeSession` and `Session`
children. An item counts as a session when it has a key: the first non-blank of its attributes
`sessionKey`, `sessionId`, `key`.

Every request carries the token, both in the query (`X-Plex-Token`) and as a header. Plex has
no way to show a message in a client, so sending one answers `false` without a request. A
playback is stopped through `/status/sessions/terminate`, by the id of its `Session` child when
the listing has one, with the reason cut to 120 characters; a `GET` that fails is tried again as
a `POST`.
-/

namespace StreamWarden.Plex

open StreamWarden.Xml StreamWarden.Http

/-- Where the server lists its sessions. -/
def sessionsPath : String := "/status/sessions"

/-- Where the server stops a session. -/
def terminatePath : String := "/status/sessions/terminate"

/-- The longest reason shown to a viewer whose playback is stopped. -/
def maxReasonChars : Nat := 120

/-- The headers of every request. -/
def headers (token : String) : List (String × String) :=
  [("X-Plex-Token", token), ("X-Plex-Client-Identifier", "vodum-monitor"),
    ("X-Plex-Product", "Vodum"), ("Accept", "application/xml")]

/-- A request to a path of a base URL, with the token first among the query parameters. -/
def request (token : String) (method : Method) (base path : String)
    (params : List (String × String)) : Except ProviderError Request :=
  Request.build method (base ++ path) (("X-Plex-Token", token) :: params) (headers token)

/-! ### Reading the session listing -/

/-- The key of an item: the first non-blank of `sessionKey`, `sessionId`, `key`. -/
def sessionKeyOf (e : Element) : Option String :=
  (e.attr? "sessionKey").orElse fun _ => (e.attr? "sessionId").orElse fun _ => e.attr? "key"

/-- The id that stops a session: its `Session` child's `id`, else its `sessionId`, taken from
the first item with the key that has one. -/
def resolveSessionId (root : Element) (key : String) : Option String :=
  (root.children.filter (sessionKeyOf · == some key)).findSome? fun e =>
    ((e.child? "Session").bind (·.attr? "id")).orElse fun _ => e.attr? "sessionId"

/-- The first value of an attribute on a `Media` child, then on any `Part` below, then on the
`TranscodeSession` child. -/
def firstMediaAttr (e : Element) (a : String) : Option String :=
  ((e.childrenNamed "Media").findSome? (·.attr? a)).orElse fun _ =>
    ((e.descendantsNamed "Part").findSome? (·.attr? a)).orElse fun _ =>
      (e.child? "TranscodeSession").bind (·.attr? a)

/-- A stream decision in one spelling: trimmed, lowercase, without spaces, `_` and `-`. -/
def normalizeDecision (value : Option String) : Option String :=
  value.bind fun v =>
    let d := (Text.asciiLower (Text.trim v)).toList.filter fun c => c ≠ ' ' ∧ c ≠ '_' ∧ c ≠ '-'
    if d.isEmpty then none else some (String.ofList d)

/-- How an item is played, from its video and audio decisions: any transcode is a transcode,
else any copy is a direct stream, else decisions that are all direct play are a direct play;
with no decision, a transcode session means a transcode. -/
def playMethodOf (video audio : Option String) (hasTranscodeSession : Bool) : PlayMethod :=
  let decisions := [video, audio].filterMap fun d => d
  if decisions.contains "transcode" then .transcode
  else if decisions.contains "copy" then .directStream
  else if !decisions.isEmpty && decisions.all (· == "directplay") then .directPlay
  else if decisions.isEmpty && hasTranscodeSession then .transcode
  else .unknown

/-- The height a resolution label stands for: `4k` and `uhd` are 2160, `sd` is 480, and a
number may end in `p` or `i`. -/
def parseResolution (value : String) : Option Int :=
  let v := Text.asciiLower (Text.trim value)
  if v = "4k" ∨ v = "uhd" then some 2160
  else if v = "sd" then some 480
  else Text.parseI64? (String.ofList ((v.toList.reverse.dropWhile fun c => c = 'p' ∨ c = 'i').reverse))

/-- The picture height of an item: a `Media` child's `height`, else its `videoResolution`, else
the `height` of a video stream (`streamType` 1) below it. -/
def mediaHeight (e : Element) : Option Int :=
  ((e.childrenNamed "Media").findSome? (·.attrInt? "height")).orElse fun _ =>
    ((e.childrenNamed "Media").findSome? fun m => (m.attr? "videoResolution").bind parseResolution).orElse
      fun _ => ((e.descendantsNamed "Stream").filter (·.attr? "streamType" == some "1")).findSome?
        (·.attrInt? "height")

/-- The bit rate of an item in kbit/s: the transcode session's, else the item's, else the
player's, else the media's. -/
def bitrateKbps (e : Element) : Option Int :=
  let transcode := e.child? "TranscodeSession"
  let player := e.child? "Player"
  (transcode.bind fun t => (t.attrInt? "bandwidth").orElse fun _ => t.attrInt? "peakBandwidth").orElse
    fun _ => ((e.attrInt? "bandwidth").orElse fun _ => e.attrInt? "bitrate").orElse
      fun _ => (player.bind fun p => (p.attrInt? "bandwidth").orElse fun _ => p.attrInt? "bitrate").orElse
        fun _ => (firstMediaAttr e "bitrate").bind Text.parseI64?

/-- The kind of media an item type names (the match is exact). -/
def mediaTypeOf : Option String → MediaType
  | some "movie" => .movie
  | some "episode" => .serie
  | some "track" => .music
  | _ => .other

/-- The JSON of an element's attributes, `null` for no element. -/
def attrsOrNull : Option Element → Json
  | some e => e.attrsJson
  | none => .null

/-- The common form of one playing item with its key, seen at `now`. -/
def normalize (serverId : Int) (node : Element) (key : String) (now : Int) : NormalizedSession :=
  let user := node.child? "User"
  let player := node.child? "Player"
  let transcode := node.child? "TranscodeSession"
  let videoDecision := normalizeDecision (firstMediaAttr node "videoDecision")
  let audioDecision := normalizeDecision (firstMediaAttr node "audioDecision")
  let method := playMethodOf videoDecision audioDecision transcode.isSome
  let codec (a : String) : Option String :=
    ((transcode.bind (·.attr? a)).orElse fun _ => (node.childrenNamed "Media").findSome? (·.attr? a)).bind
      Text.nonBlank
  let playerAttr (a : String) : Option String := player.bind (·.attr? a)
  let machineId := playerAttr "machineIdentifier"
  { serverId, provider := .plex, sessionKey := key
    externalUserId := (user.bind (·.attr? "id")).bind Text.nonBlank
    username := (user.bind (·.attr? "title")).bind Text.nonBlank
    mediaKey := (node.attr? "ratingKey").bind Text.nonBlank
    mediaType := mediaTypeOf (node.attr? "type")
    title := (node.attr? "title").bind Text.nonBlank
    grandparentTitle := (node.attr? "grandparentTitle").bind Text.nonBlank
    parentTitle := (node.attr? "parentTitle").bind Text.nonBlank
    seasonEpisode := seasonEpisodeCode (node.attrInt? "parentIndex") (node.attrInt? "index")
    state := ((playerAttr "state").map PlaybackState.parseLenient).getD .unknown
    progressMs := node.attrInt? "viewOffset"
    durationMs := node.attrInt? "duration"
    isTranscode := method.isTranscode
    playMethod := method
    videoDecision, audioDecision
    bitrateKbps := bitrateKbps node
    videoCodec := codec "videoCodec"
    audioCodec := codec "audioCodec"
    mediaHeight := mediaHeight node
    clientName := ((playerAttr "title").orElse fun _ => machineId).bind Text.nonBlank
    clientProduct := (playerAttr "product").bind Text.nonBlank
    device := ((playerAttr "device").orElse fun _ => machineId).bind Text.nonBlank
    ip := (playerAttr "address").bind Text.nonBlank
    lastSeenAt := now
    librarySectionId := (node.attr? "librarySectionID").bind Text.nonBlank
    raw := Json.object [
      ("VideoOrTrack", node.attrsJson),
      ("User", attrsOrNull user),
      ("Player", attrsOrNull player),
      ("Session", attrsOrNull (node.child? "Session")),
      ("TranscodeSession", attrsOrNull transcode),
      ("Media", .arr ((node.childrenNamed "Media").map (·.attrsJson))),
      ("Computed", Json.object [
        ("videoDecision", Json.optStr videoDecision),
        ("audioDecision", Json.optStr audioDecision),
        ("play_method", .str method.name),
        ("is_transcode", .bool method.isTranscode)])] }

/-- The sessions of a listing: one per item under the root that has a key. -/
def parseSessions (serverId : Int) (body : String) (now : Int) :
    Except ProviderError (List NormalizedSession) :=
  match Xml.parse body with
  | .error e => .error (.protocol e.message)
  | .ok root => .ok (root.children.filterMap fun node =>
      (sessionKeyOf node).map fun key => normalize serverId node key now)

/-! ### Talking to the server -/

/-- The body of a `GET` of a path, from the first base URL that answers. -/
def getText {m : Type → Type} [Monad m] (send : Transport m) (bases : List String)
    (token path : String) : m (Except ProviderError String) :=
  firstResponding bases "plex GET" fun base => exchange send (request token .get base path [])

/-- Sends a command, from the first base URL that answers. -/
def command {m : Type → Type} [Monad m] (send : Transport m) (bases : List String)
    (token : String) (method : Method) (path : String) (params : List (String × String)) :
    m (Except ProviderError Unit) :=
  firstResponding bases ("plex " ++ method.name) fun base => do
    return (← exchange send (request token method base path params)).map fun _ => ()

/-- The sessions playing on the server. -/
def listSessions {m : Type → Type} [Monad m] (send : Transport m) (bases : List String)
    (token : String) (serverId now : Int) : m (Except ProviderError (List NormalizedSession)) := do
  match ← getText send bases token sessionsPath with
  | .error e => pure (.error e)
  | .ok body => pure (parseSessions serverId body now)

/-- The parameters of a stop command: the session id, and the reason cut to its longest
length unless it is blank. -/
def terminateParams (sessionId reason : String) : List (String × String) :=
  let reason := String.ofList (reason.toList.take maxReasonChars)
  [("sessionId", sessionId)] ++ (if Text.isBlankText reason then [] else [("reason", reason)])

/-- Stops a session: looks up its id in the listing, then asks by `GET`, then by `POST`. -/
def terminate {m : Type → Type} [Monad m] (send : Transport m) (bases : List String)
    (token key reason : String) : m (Except ProviderError Bool) := do
  match ← getText send bases token sessionsPath with
  | .error e => pure (.error e)
  | .ok body =>
    match Xml.parse body with
    | .error e => pure (.error (.protocol e.message))
    | .ok root =>
      let params := terminateParams ((resolveSessionId root key).getD key) reason
      match ← command send bases token .get terminatePath params with
      | .ok () => pure (.ok true)
      | .error _ =>
        match ← command send bases token .post terminatePath params with
        | .ok () => pure (.ok true)
        | .error e => pure (.error e)

end StreamWarden.Plex
