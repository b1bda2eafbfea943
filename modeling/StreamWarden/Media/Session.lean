import StreamWarden.Json.Basic
import StreamWarden.Text.Blank
import StreamWarden.Text.Ascii

/-!
# Playback sessions as the media servers report them

A media server (of one of two families, Plex or Jellyfin) reports each playback in progress. The
report is brought to one form, `NormalizedSession`, whatever the family: who is watching, what,
in which state, how it is delivered (played directly, streamed directly, or transcoded) and from
which device and address.

Each enumeration has one lowercase name per member. A name is recognised without regard to
ASCII case and without trimming; the lenient readings of a playback state trim first and take
anything unrecognised as `unknown`.
-/

namespace StreamWarden

/-- The family of a media server. -/
inductive ProviderKind where
  | plex
  | jellyfin
  deriving DecidableEq, Repr, Inhabited

/-- The state of a playback. -/
inductive PlaybackState where
  | playing
  | paused
  | buffering
  | unknown
  deriving DecidableEq, Repr, Inhabited

/-- What kind of media is played. -/
inductive MediaType where
  | movie
  | serie
  | music
  | other
  deriving DecidableEq, Repr, Inhabited

/-- How the media reaches the device. -/
inductive PlayMethod where
  | directPlay
  | directStream
  | transcode
  | unknown
  deriving DecidableEq, Repr, Inhabited

/-- The member whose name equals the text up to ASCII case. -/
def matchName {α : Type} (members : List α) (name : α → String) (s : String) : Option α :=
  members.find? fun m => Text.eqIgnoreAsciiCase (name m) s

namespace ProviderKind

/-- The name of a family. -/
def name : ProviderKind → String
  | .plex => "plex"
  | .jellyfin => "jellyfin"

/-- Reads a family name, ignoring ASCII case. -/
def parse? (s : String) : Option ProviderKind := matchName [.plex, .jellyfin] name s

end ProviderKind

namespace PlaybackState

/-- The name of a state. -/
def name : PlaybackState → String
  | .playing => "playing"
  | .paused => "paused"
  | .buffering => "buffering"
  | .unknown => "unknown"

/-- Reads a state name, ignoring ASCII case. -/
def parse? (s : String) : Option PlaybackState :=
  matchName [.playing, .paused, .buffering, .unknown] name s

/-- Reads a state as servers report it: trimmed, and `unknown` when unrecognised. -/
def parseLenient (s : String) : PlaybackState := (parse? (Text.trim s)).getD .unknown

end PlaybackState

namespace MediaType

/-- The name of a media type. -/
def name : MediaType → String
  | .movie => "movie"
  | .serie => "serie"
  | .music => "music"
  | .other => "other"

/-- Reads a media type name, ignoring ASCII case. -/
def parse? (s : String) : Option MediaType := matchName [.movie, .serie, .music, .other] name s

end MediaType

namespace PlayMethod

/-- The name of a play method. -/
def name : PlayMethod → String
  | .directPlay => "directplay"
  | .directStream => "directstream"
  | .transcode => "transcode"
  | .unknown => "unknown"

/-- Reads a play method name, ignoring ASCII case. -/
def parse? (s : String) : Option PlayMethod :=
  matchName [.directPlay, .directStream, .transcode, .unknown] name s

/-- The media is transcoded on its way. -/
def isTranscode (m : PlayMethod) : Bool := m == .transcode

end PlayMethod

/-- A number written with at least two digits, a zero in front of a single one. -/
def twoDigits (n : Int) : String :=
  if 0 ≤ n ∧ n < 10 then "0" ++ toString n else toString n

/-- The `SxxEyy` label of an episode; both numbers are needed and neither may be negative. -/
def seasonEpisodeCode (season episode : Option Int) : Option String :=
  match season, episode with
  | some s, some e => if 0 ≤ s ∧ 0 ≤ e then some ("S" ++ twoDigits s ++ "E" ++ twoDigits e) else none
  | _, _ => none

/-- A playback in the common form. Times are milliseconds since the epoch. -/
structure NormalizedSession where
  serverId : Int
  provider : ProviderKind
  sessionKey : String
  externalUserId : Option String := none
  username : Option String := none
  mediaKey : Option String := none
  mediaType : MediaType := .other
  title : Option String := none
  grandparentTitle : Option String := none
  parentTitle : Option String := none
  seasonEpisode : Option String := none
  state : PlaybackState := .unknown
  progressMs : Option Int := none
  durationMs : Option Int := none
  isTranscode : Bool := false
  playMethod : PlayMethod := .unknown
  videoDecision : Option String := none
  audioDecision : Option String := none
  bitrateKbps : Option Int := none
  videoCodec : Option String := none
  audioCodec : Option String := none
  mediaHeight : Option Int := none
  clientName : Option String := none
  clientProduct : Option String := none
  device : Option String := none
  ip : Option String := none
  startedAt : Option Int := none
  lastSeenAt : Int := 0
  librarySectionId : Option String := none
  raw : Json := .null
  deriving Repr, Inhabited

end StreamWarden
