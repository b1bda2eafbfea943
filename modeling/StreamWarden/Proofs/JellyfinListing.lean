import StreamWarden.Media.Jellyfin.Sessions
import StreamWarden.Media.Jellyfin.SessionId
import Mathlib.Data.List.Forall2
import Mathlib.Data.List.TakeWhile

/-!
# What a Jellyfin listing holds

A Jellyfin server lists its sessions as a JSON array. A report counts when it reads as a
session record whose `Id` and `NowPlayingItem.Id` are not blank (`playingIds`); it is then one
session, keyed `{session id}:{item id}` with both ids trimmed.

Main statement (`parseSessions_lists_playing_reports`): a listing that is no array is a protocol
failure, and only then; an array gives, in its order, one session for each report that counts,
with its key, item, server and state (paused exactly when the report says it is paused). When
the session id has no `:`, both ways of reading the session id back, from the key and from the
raw report, give that id: messages and stops reach the Jellyfin session the key was built from.
-/

namespace StreamWarden.Jellyfin

/-! ## Reading the id back -/

/-- The part of a key before the first `:` is the session id when the id has no `:`. -/
theorem sessionIdFromKey_append {sid : String} (h : ':' ∉ sid.toList) (rest : String) :
    sessionIdFromKey (sid ++ ":" ++ rest) = sid := by
  have hall : ∀ c ∈ sid.toList, decide (c ≠ ':') = true := fun c hc => by
    simp only [ne_eq, decide_eq_true_eq]
    rintro rfl
    exact h hc
  unfold sessionIdFromKey
  rw [String.toList_append, String.toList_append, List.append_assoc,
    List.takeWhile_append_of_pos hall]
  simp

/-- A session id without `:` reads back as itself. -/
theorem sessionIdFromKey_of_not_mem {sid : String} (h : ':' ∉ sid.toList) :
    sessionIdFromKey sid = sid := by
  have hall : ∀ c ∈ sid.toList, decide (c ≠ ':') = true := fun c hc => by
    simp only [ne_eq, decide_eq_true_eq]
    rintro rfl
    exact h hc
  unfold sessionIdFromKey
  rw [List.takeWhile_eq_self_iff.mpr hall, String.ofList_toList]

/-- A session record's id is the text of its report's `Id` member. -/
theorem SessionInfo.id_of_decode? {raw : Json} {p : SessionInfo} {s : String}
    (h : SessionInfo.decode? raw = some p) (hs : raw.get? "Id" = some (.str s)) : p.id = some s := by
  cases raw with
  | obj ms =>
    simp only [Json.get?] at hs
    simp only [SessionInfo.decode?, recordFields, List.map, hs, Option.getD_some, bind,
      Option.bind_some, Option.bind_eq_some_iff, pure, Option.some.injEq, optText] at h
    grind
  | _ => simp [Json.get?] at hs

/-- The control endpoints take the session id of a report that reads as a session with a non-blank
id, whenever its key reads back as that id. -/
theorem controlSessionId_of_decode? {raw : Json} {p : SessionInfo} {sid key : String}
    (h : SessionInfo.decode? raw = some p) (hsid : nonBlankOpt p.id = some sid)
    (hkey : sessionIdFromKey key = sid) : controlSessionId key raw = sid := by
  unfold controlSessionId
  cases hg : raw.get? "Id" with
  | none => exact hkey
  | some j =>
    cases j with
    | str s =>
      rw [SessionInfo.id_of_decode? h hg] at hsid
      simp only [nonBlankOpt, Option.bind_some] at hsid
      simp [hsid]
    | _ => exact hkey

/-! ## The sessions of a listing -/

theorem playingIds_eq_some_iff {raw : Json} {p : SessionInfo} {sid iid : String} :
    playingIds raw = some (p, sid, iid) ↔ SessionInfo.decode? raw = some p ∧
      nonBlankOpt p.id = some sid ∧ nonBlankOpt (p.nowPlayingItem.bind (·.id)) = some iid := by
  have hitem : (p.nowPlayingItem.getD {}).id = p.nowPlayingItem.bind (·.id) := by
    cases p.nowPlayingItem <;> rfl
  simp only [playingIds, bind, pure, Option.bind_eq_some_iff, Option.some.injEq, Prod.mk.injEq]
  constructor
  · rintro ⟨q, hq, s, hs, i, hi, rfl, rfl, rfl⟩
    exact ⟨hq, hs, hitem ▸ hi⟩
  · rintro ⟨hq, hs, hi⟩
    exact ⟨p, hq, sid, hs, iid, hitem ▸ hi, rfl, rfl, rfl⟩

/-- The elements kept by a partial map, beside what it maps them to. -/
theorem forall₂_filter_filterMap {α β : Type} (f : α → Option β) (R : α → β → Prop)
    (hR : ∀ a b, f a = some b → R a b) (l : List α) :
    List.Forall₂ R (l.filter fun a => (f a).isSome) (l.filterMap f) := by
  induction l with
  | nil => exact .nil
  | cons a l ih =>
    cases h : f a with
    | none => simpa [List.filter_cons, List.filterMap_cons, h] using ih
    | some b => simpa [List.filter_cons, List.filterMap_cons, h] using List.Forall₂.cons (hR a b h) ih

theorem normalize_isSome (serverId : Int) (raw : Json) (now : Int) :
    (normalize serverId raw now).isSome = (playingIds raw).isSome := by
  simp [normalize]

/-- A listing that is no array is a protocol failure, and an array lists one session per report
that counts, in order, keyed by its trimmed ids and paused exactly when the report is; the
control endpoints then address the session the key was built from. -/
theorem parseSessions_lists_playing_reports (serverId : Int) (body : Json) (now : Int) :
    ((∃ d, parseSessions serverId body now = .error (.protocol d)) ↔
        ∀ entries, body ≠ .arr entries) ∧
      ∀ entries, body = .arr entries → ∃ ss, parseSessions serverId body now = .ok ss ∧
        List.Forall₂ (fun raw s => ∃ p sid iid, SessionInfo.decode? raw = some p ∧
            nonBlankOpt p.id = some sid ∧ nonBlankOpt (p.nowPlayingItem.bind (·.id)) = some iid ∧
            s.sessionKey = sid ++ ":" ++ iid ∧ s.mediaKey = some iid ∧ s.serverId = serverId ∧
            s.state = (if p.playState.bind (·.isPaused) = some true then .paused else .playing) ∧
            (':' ∉ sid.toList → sessionIdFromKey s.sessionKey = sid ∧
              controlSessionId s.sessionKey s.raw = sid ∧
              sessionIdFromKey (controlSessionId s.sessionKey s.raw) = sid))
          (entries.filter fun raw => (playingIds raw).isSome) ss := by
  refine ⟨?_, fun entries hbody => ⟨_, by rw [hbody]; rfl, ?_⟩⟩
  · cases body with
    | arr entries => simp [parseSessions]
    | _ => simp [parseSessions]
  · rw [← funext fun raw => normalize_isSome serverId raw now]
    refine forall₂_filter_filterMap _ _ (fun raw s hs => ?_) entries
    obtain ⟨⟨p, sid, iid⟩, hids, rfl⟩ := Option.map_eq_some_iff.mp hs
    obtain ⟨hp, hsid, hiid⟩ := playingIds_eq_some_iff.mp hids
    refine ⟨p, sid, iid, hp, hsid, hiid, rfl, rfl, rfl, ?_, fun hcolon => ?_⟩
    · show (if (p.playState.bind (·.isPaused)).getD false then _ else _) = _
      cases p.playState.bind (·.isPaused) with
      | none => rfl
      | some b => cases b <;> rfl
    · have hkey : sessionIdFromKey (sid ++ ":" ++ iid) = sid := sessionIdFromKey_append hcolon iid
      have hcontrol : controlSessionId (sid ++ ":" ++ iid) raw = sid :=
        controlSessionId_of_decode? hp hsid hkey
      exact ⟨hkey, hcontrol,
        (congrArg sessionIdFromKey hcontrol).trans (sessionIdFromKey_of_not_mem hcolon)⟩

end StreamWarden.Jellyfin
