import StreamWarden.Media.Session
import StreamWarden.Media.Error
import StreamWarden.Number.Decimal
import StreamWarden.Media.Jellyfin.ItemCache

/-!
# Jellyfin session reports

A Jellyfin server reports its sessions as a JSON array. A session outlives playback: an idle
one keeps its `Id` but has no `NowPlayingItem`. Only sessions playing an item count, keyed
`{session id}:{item id}` so that a new item on the same client is a new session.

A report is read as a record of known fields; other members are ignored, an absent or `null`
field is absent, and a field of another kind than expected makes the whole report unreadable
(it is skipped). As with any record read from JSON, an array of exactly as many items as the
record has fields is read field by field, in order.

Numbers in reports are read leniently: an integer, a float cut toward zero (and clamped to the
64-bit range), a text holding either, or a boolean as 0 or 1. Times are in ticks of 100 ns.
-/

namespace StreamWarden.Jellyfin

/-! ### Records in JSON -/

/-- The values of a record's fields: by name in an object (absent is `null`), or by position
in an array of exactly as many items. -/
def recordFields (names : List String) : Json → Option (List Json)
  | .obj members => some (names.map fun n => (members.lookup n).getD .null)
  | .arr items => if items.length = names.length then some items else none
  | _ => none

/-- An optional text field. -/
def optText : Json → Option (Option String)
  | .null => some none
  | .str s => some (some s)
  | _ => none

/-- An optional boolean field. -/
def optFlag : Json → Option (Option Bool)
  | .null => some none
  | .bool b => some (some b)
  | _ => none

/-- An optional field of any kind. -/
def optAny : Json → Option Json
  | .null => none
  | j => some j

/-- An optional field holding a record. -/
def optRecord {α : Type} (decode : Json → Option α) : Json → Option (Option α)
  | .null => some none
  | j => (decode j).map some

/-- A media stream of an item. -/
structure StreamInfo where
  streamType : Option String
  height : Option Json

/-- Reads a media stream. -/
def StreamInfo.decode? (j : Json) : Option StreamInfo := do
  let [t, h] ← recordFields ["Type", "Height"] j | none
  pure { streamType := ← optText t, height := optAny h }

/-- An optional list of media streams. -/
def optStreams : Json → Option (Option (List StreamInfo))
  | .null => some none
  | .arr items => (items.mapM StreamInfo.decode?).map some
  | _ => none

/-- A library item as a session report shows it. -/
structure ItemInfo where
  id : Option String := none
  name : Option String := none
  originalTitle : Option String := none
  sortName : Option String := none
  itemType : Option String := none
  seriesName : Option String := none
  seasonName : Option String := none
  parentIndexNumber : Option Json := none
  indexNumber : Option Json := none
  runTimeTicks : Option Json := none
  bitrate : Option Json := none
  height : Option Json := none
  mediaStreams : Option (List StreamInfo) := none

/-- Reads a library item. -/
def ItemInfo.decode? (j : Json) : Option ItemInfo := do
  let [id, name, original, sort, type, series, season, parentIndex, index, ticks, bitrate,
      height, streams] ← recordFields ["Id", "Name", "OriginalTitle", "SortName", "Type",
        "SeriesName", "SeasonName", "ParentIndexNumber", "IndexNumber", "RunTimeTicks", "Bitrate",
        "Height", "MediaStreams"] j | none
  pure { id := ← optText id, name := ← optText name, originalTitle := ← optText original
         sortName := ← optText sort, itemType := ← optText type, seriesName := ← optText series
         seasonName := ← optText season, parentIndexNumber := optAny parentIndex
         indexNumber := optAny index, runTimeTicks := optAny ticks, bitrate := optAny bitrate
         height := optAny height, mediaStreams := ← optStreams streams }

/-- Where playback stands. -/
structure PlayInfo where
  positionTicks : Option Json
  isPaused : Option Bool
  playMethod : Option String

/-- Reads the play state. -/
def PlayInfo.decode? (j : Json) : Option PlayInfo := do
  let [position, paused, method] ← recordFields ["PositionTicks", "IsPaused", "PlayMethod"] j | none
  pure { positionTicks := optAny position, isPaused := ← optFlag paused
         playMethod := ← optText method }

/-- What the server does to the streams it sends. -/
structure TranscodeInfo where
  bitrate : Option Json
  videoCodec : Option String
  audioCodec : Option String
  isVideoDirect : Option Bool
  isAudioDirect : Option Bool

/-- Reads the transcoding information. -/
def TranscodeInfo.decode? (j : Json) : Option TranscodeInfo := do
  let [bitrate, video, audio, videoDirect, audioDirect] ← recordFields
    ["Bitrate", "VideoCodec", "AudioCodec", "IsVideoDirect", "IsAudioDirect"] j | none
  pure { bitrate := optAny bitrate, videoCodec := ← optText video, audioCodec := ← optText audio
         isVideoDirect := ← optFlag videoDirect, isAudioDirect := ← optFlag audioDirect }

/-- One session as reported. -/
structure SessionInfo where
  id : Option String
  userId : Option String
  userName : Option String
  client : Option String
  deviceName : Option String
  deviceId : Option String
  applicationName : Option String
  applicationVersion : Option String
  nowPlayingItem : Option ItemInfo
  playState : Option PlayInfo
  transcodingInfo : Option TranscodeInfo

/-- Reads a session report. -/
def SessionInfo.decode? (j : Json) : Option SessionInfo := do
  let [id, userId, userName, client, deviceName, deviceId, appName, appVersion, item, play,
      transcoding] ← recordFields ["Id", "UserId", "UserName", "Client", "DeviceName", "DeviceId",
        "ApplicationName", "ApplicationVersion", "NowPlayingItem", "PlayState",
        "TranscodingInfo"] j | none
  pure { id := ← optText id, userId := ← optText userId, userName := ← optText userName
         client := ← optText client, deviceName := ← optText deviceName
         deviceId := ← optText deviceId, applicationName := ← optText appName
         applicationVersion := ← optText appVersion
         nowPlayingItem := ← optRecord ItemInfo.decode? item
         playState := ← optRecord PlayInfo.decode? play
         transcodingInfo := ← optRecord TranscodeInfo.decode? transcoding }

/-! ### Reading fields -/

/-- A number read leniently: an integer, a float cut toward zero, a text holding either, or a
boolean as 0 or 1. -/
def lenientInt : Option Json → Option Int
  | some (.num n) => some ((n.asI64?).getD (n.asF64.truncate Text.i64Min Text.i64Max))
  | some (.str s) =>
    let t := Text.trim s
    (Text.parseI64? t).orElse fun _ => (Binary64.ofText? t).map (·.truncate Text.i64Min Text.i64Max)
  | some (.bool b) => some (if b then 1 else 0)
  | _ => none

/-- Ticks of 100 ns per millisecond. -/
def ticksPerMs : Int := 10000

/-- A tick count in milliseconds, cut toward zero. -/
def ticksToMs (value : Option Json) : Option Int := (lenientInt value).map (Int.tdiv · ticksPerMs)

/-- The kind of media an item type names, in any case and with blanks around. -/
def mediaTypeOf (t : String) : MediaType :=
  let v := Text.asciiLower (Text.trim t)
  if v = "movie" ∨ v = "video" then .movie
  else if v = "episode" then .serie
  else if v = "audio" ∨ v = "musictrack" ∨ v = "song" then .music
  else .other

/-- How an item is played: the method the server reports, else a transcode when a stream is
known not to be sent directly. -/
def playMethodOf (play : Option PlayInfo) (transcoding : Option TranscodeInfo) : PlayMethod :=
  match (play.bind (·.playMethod)).map (Text.asciiLower ∘ Text.trim) with
  | some "transcode" => .transcode
  | some "directstream" => .directStream
  | some "directplay" => .directPlay
  | _ =>
    match transcoding with
    | some info =>
      if info.isVideoDirect == some false || info.isAudioDirect == some false then .transcode
      else .unknown
    | none => .unknown

/-- The decision a direct flag stands for: `copy` when direct, `transcode` when not. -/
def directFlagDecision : Option Bool → Option String
  | some true => some "copy"
  | some false => some "transcode"
  | none => none

/-- An endpoint without the port some servers add: the host inside brackets, or the part before
a single `:` when that part is a nonempty run of digits and dots. -/
def stripPort (endpoint : String) : String :=
  let cs := endpoint.toList
  match cs with
  | '[' :: rest =>
    if rest.contains ']' then String.ofList (rest.takeWhile (· ≠ ']')) else plain cs
  | _ => plain cs
where
  /-- The rule for an endpoint without brackets. -/
  plain (cs : List Char) : String :=
    let host := cs.takeWhile (· ≠ ':')
    match cs.drop host.length with
    | ':' :: port =>
      if !port.contains ':' && !host.isEmpty && host.all (fun c => Text.isDigit c || c = '.') then
        String.ofList host
      else String.ofList cs
    | _ => String.ofList cs

/-- The first `x-forwarded-for` address of a header object. -/
def forwardedFor (headers : List (String × Json)) : Option String :=
  match headers.find? (fun (k, _) => Text.eqIgnoreAsciiCase k "x-forwarded-for") with
  | some (_, .str chain) => Text.nonBlank (String.ofList (chain.toList.takeWhile (· ≠ ',')))
  | _ => none

/-- The client address of a report: the remote end point (or address, or IP), else the first
forwarded-for address of its headers; without a port. -/
def pickIp (raw : Json) : Option String :=
  let direct := ["RemoteEndPoint", "RemoteAddress", "RemoteIp"].findSome? fun k =>
    match raw.get? k with
    | some (.str s) => Text.nonBlank s
    | _ => none
  let forwarded := fun (_ : Unit) => ["Headers", "RequestHeaders"].findSome? fun k =>
    match raw.get? k with
    | some (.obj headers) => forwardedFor headers
    | _ => none
  (direct.orElse forwarded).map stripPort

/-- The picture height of an item: a video stream's height, else the item's. -/
def videoHeight (item : ItemInfo) : Option Int :=
  ((item.mediaStreams.getD []).filter (fun s => (s.streamType.map
    (Text.eqIgnoreAsciiCase · "video")).getD false)).findSome? (lenientInt ·.height) |>.orElse
      fun _ => lenientInt item.height

/-- A text member of a member of a report. -/
def nestedText (raw : Json) (outer inner : String) : Option String :=
  match (raw.get? outer).bind (·.get? inner) with
  | some (.str s) => some s
  | _ => none

/-- The text of an optional value, trimmed, when it is not blank. -/
def nonBlankOpt (value : Option String) : Option String := value.bind Text.nonBlank

/-! ### Sessions -/

/-- The record of a report that is readable and plays an item, with its session id and its item
id, both trimmed: a readable report whose `Id` and `NowPlayingItem.Id` are not blank. -/
def playingIds (raw : Json) : Option (SessionInfo × String × String) := do
  let parsed ← SessionInfo.decode? raw
  let sessionId ← nonBlankOpt parsed.id
  let itemId ← nonBlankOpt (parsed.nowPlayingItem.getD {}).id
  pure (parsed, sessionId, itemId)

/-- The common form of the report `raw`, read as `parsed`, of a session `sessionId` playing the
item `itemId`. -/
def sessionOf (serverId : Int) (raw : Json) (now : Int) (parsed : SessionInfo)
    (sessionId itemId : String) : NormalizedSession :=
  let userId := parsed.userId.orElse fun _ => nestedText raw "User" "Id"
  let username := parsed.userName.orElse fun _ => nestedText raw "User" "Name"
  let item := parsed.nowPlayingItem.getD {}
  let play := parsed.playState
  let transcoding := parsed.transcodingInfo
  let method := playMethodOf play transcoding
  let bitrateBps := (lenientInt (transcoding.bind (·.bitrate))).orElse fun _ => lenientInt item.bitrate
  let product := (nonBlankOpt parsed.applicationName).orElse fun _ =>
    match raw.get? "AppName" with
    | some (.str s) => Text.nonBlank s
    | _ => none
  let version := nonBlankOpt parsed.applicationVersion
  let clientProduct := match product, version with
    | some p, some v => some (p ++ " " ++ v)
    | p, v => p.orElse fun _ => v
  { serverId, provider := .jellyfin, sessionKey := sessionId ++ ":" ++ itemId
    externalUserId := nonBlankOpt userId
    username := nonBlankOpt username
    mediaKey := some itemId
    mediaType := (item.itemType.map mediaTypeOf).getD .other
    title := (nonBlankOpt item.name).orElse fun _ => (nonBlankOpt item.originalTitle).orElse
      fun _ => nonBlankOpt item.sortName
    grandparentTitle := (nonBlankOpt item.seriesName).orElse fun _ =>
      nonBlankOpt (nestedText raw "NowPlayingItem" "GrandparentTitle")
    parentTitle := (nonBlankOpt item.seasonName).orElse fun _ =>
      nonBlankOpt (nestedText raw "NowPlayingItem" "ParentTitle")
    seasonEpisode := seasonEpisodeCode (lenientInt item.parentIndexNumber) (lenientInt item.indexNumber)
    state := if (play.bind (·.isPaused)).getD false then .paused else .playing
    progressMs := ticksToMs (play.bind (·.positionTicks))
    durationMs := ticksToMs item.runTimeTicks
    isTranscode := method.isTranscode
    playMethod := method
    videoDecision := directFlagDecision (transcoding.bind (·.isVideoDirect))
    audioDecision := directFlagDecision (transcoding.bind (·.isAudioDirect))
    bitrateKbps := bitrateBps.map (Int.tdiv · 1000)
    videoCodec := nonBlankOpt (transcoding.bind (·.videoCodec))
    audioCodec := nonBlankOpt (transcoding.bind (·.audioCodec))
    mediaHeight := videoHeight item
    clientName := (nonBlankOpt parsed.client).orElse fun _ => nonBlankOpt parsed.deviceName
    clientProduct
    device := (nonBlankOpt parsed.deviceName).orElse fun _ => nonBlankOpt parsed.deviceId
    ip := pickIp raw
    lastSeenAt := now
    raw }

/-- The common form of one report, when it is readable and plays an item. -/
def normalize (serverId : Int) (raw : Json) (now : Int) : Option NormalizedSession :=
  (playingIds raw).map fun ids => sessionOf serverId raw now ids.1 ids.2.1 ids.2.2

/-- The sessions of a report: one per readable element playing an item, in order. -/
def parseSessions (serverId : Int) (body : Json) (now : Int) :
    Except ProviderError (List NormalizedSession) :=
  match body with
  | .arr entries => .ok (entries.filterMap fun raw => normalize serverId raw now)
  | _ => .error (.protocol "Jellyfin /Sessions did not return an array")

/-- A session whose title or kind is missing is completed from its item. -/
def needsItemDetails (s : NormalizedSession) : Bool := s.title.isNone || s.mediaType == .other

/-- The title and type of an item, as `/Items/{id}` reports them. -/
def itemSummary? (body : Json) : Option ItemSummary :=
  (ItemInfo.decode? body).map fun item =>
    { title := (nonBlankOpt item.name).orElse fun _ => nonBlankOpt item.originalTitle
      itemType := nonBlankOpt item.itemType }

/-- Completes a session from the summary of its item. -/
def completeWith (s : NormalizedSession) (item : ItemSummary) : NormalizedSession :=
  let s := if s.title.isNone then { s with title := item.title } else s
  match s.mediaType, item.itemType with
  | .other, some kind => { s with mediaType := mediaTypeOf kind }
  | _, _ => s

end StreamWarden.Jellyfin
