import StreamWarden.Media.Plex
import StreamWarden.Proofs.MatchKeys
import Mathlib.Data.List.DropRight

/-!
# How a Plex session is classified

The transcode rules read two fields of a Plex session: how it is played, which says whether it
is a transcode, and the height of its picture. Both come from chains of fallbacks over the
session's element tree.

A stream decision (video or audio) is the first value of its attribute on the sources tried in
turn (`decisionSources`): the `Media` children, then every `Part` element below, depth first,
then the first `TranscodeSession` child; it is then spelled in lowercase without spaces, `_` and
`-`. Any transcode decision makes a transcode, else any copy a direct stream, else decisions that
are all direct play a direct play; with no decision at all, a transcode session means a
transcode. The height is the first integer `height` of a `Media` child, else the first
resolution label of one that stands for a height, else the first integer `height` of a video
stream (`streamType` 1) below.

Main statement (`normalize_reads_transcode_and_height`), for every element whatever its tree.
-/

namespace StreamWarden

namespace Xml.Element

/-! ## The elements of a tree, depth first -/

mutual
/-- The elements of a tree in depth-first order: the root, then the trees of its children. -/
def subtrees : Element → List Element
  | e@(mk _ _ cs) => e :: subtreesOf cs

/-- The elements of a list of trees, tree after tree, each in depth-first order. -/
def subtreesOf : List Element → List Element
  | [] => []
  | c :: cs => subtrees c ++ subtreesOf cs
end

theorem subtreesOf_eq_flatMap (cs : List Element) : subtreesOf cs = cs.flatMap subtrees := by
  induction cs with
  | nil => rfl
  | cons c cs ih => rw [subtreesOf, ih, List.flatMap_cons]

mutual
/-- The elements of a name below an element are those of its subtrees below it, in depth-first
order. -/
theorem descendantsNamed_eq_filter (n : String) :
    ∀ e : Element, descendantsNamed n e = (subtreesOf e.children).filter (·.name == n)
  | mk _ _ cs => by rw [descendantsNamed, descendantsAmong_eq_filter n cs]; rfl

theorem descendantsAmong_eq_filter (n : String) :
    ∀ cs : List Element, descendantsAmong n cs = (subtreesOf cs).filter (·.name == n)
  | [] => rfl
  | c :: cs => by
    rw [descendantsAmong, subtreesOf, descendantsNamed_eq_filter n c, descendantsAmong_eq_filter n cs]
    cases c with
    | mk m attrs kids =>
      cases h : m == n <;> simp [subtrees, List.filter_append, name, Element.children, h]
end

/-- The value an attribute look-up gives is already trimmed. -/
theorem trim_of_attr? {e : Element} {k v : String} (h : e.attr? k = some v) : Text.trim v = v := by
  obtain ⟨raw, -, hv⟩ := Option.bind_eq_some_iff.mp h
  simp only [Text.nonBlank] at hv
  split_ifs at hv
  cases hv
  exact Text.trim_trim raw

end Xml.Element

namespace Plex

open Xml

/-! ## Stream decisions -/

/-- The elements a stream decision is read from, in the order they are tried: the `Media`
children, every `Part` element below in depth-first order, the first `TranscodeSession` child. -/
def decisionSources (e : Element) : List Element :=
  e.children.filter (·.name == "Media") ++
    (Element.subtreesOf e.children).filter (·.name == "Part") ++
    (e.children.find? (·.name == "TranscodeSession")).toList

/-- A decision in one spelling: ASCII-lowercased, without spaces, `_` and `-`; none when nothing
is left. -/
def decisionSpelling (v : String) : Option String :=
  let d := (Text.asciiLower v).toList.filter fun c => c ≠ ' ' ∧ c ≠ '_' ∧ c ≠ '-'
  if d = [] then none else some (String.ofList d)

/-- The stream decision of an item read from attribute `a`: the first value among its decision
sources, in one spelling. -/
def decisionOf (e : Element) (a : String) : Option String :=
  ((decisionSources e).findSome? (·.attr? a)).bind decisionSpelling

theorem firstMediaAttr_eq_findSome? (e : Element) (a : String) :
    firstMediaAttr e a = (decisionSources e).findSome? (·.attr? a) := by
  have hts : ((e.children.find? (·.name == "TranscodeSession")).toList.findSome? (·.attr? a)) =
      (e.child? "TranscodeSession").bind (·.attr? a) := by
    unfold Element.child?
    cases e.children.find? (·.name == "TranscodeSession") <;> simp [Option.toList]
  rw [firstMediaAttr, decisionSources, List.findSome?_append, List.findSome?_append, hts,
    Element.descendantsNamed_eq_filter, Option.or_assoc]
  simp only [Option.orElse_eq_or]
  rfl

/-- The code's spelling trims first, which changes nothing on trimmed values. -/
theorem normalizeDecision_of_trim {o : Option String} (h : ∀ v, o = some v → Text.trim v = v) :
    normalizeDecision o = o.bind decisionSpelling := by
  cases o with
  | none => simp only [normalizeDecision, Option.bind_none]
  | some v =>
    have hv : Text.trim v = v := h v rfl
    simp only [normalizeDecision, decisionSpelling, Option.bind_some, hv, List.isEmpty_iff]

theorem normalizeDecision_firstMediaAttr (e : Element) (a : String) :
    normalizeDecision (firstMediaAttr e a) = decisionOf e a := by
  rw [firstMediaAttr_eq_findSome?, decisionOf]
  refine normalizeDecision_of_trim fun v hv => ?_
  obtain ⟨x, -, hx⟩ := List.exists_of_findSome?_eq_some hv
  exact Element.trim_of_attr? hx

/-! ## The decision table -/

section Table

variable (dv da : Option String) (ts : Bool)

theorem playMethodOf_eq_transcode_iff :
    playMethodOf dv da ts = .transcode ↔
      dv = some "transcode" ∨ da = some "transcode" ∨ (dv = none ∧ da = none ∧ ts = true) := by
  cases dv <;> cases da <;> cases ts <;> simp [playMethodOf] <;> grind

theorem playMethodOf_eq_directStream_iff :
    playMethodOf dv da ts = .directStream ↔
      dv ≠ some "transcode" ∧ da ≠ some "transcode" ∧ (dv = some "copy" ∨ da = some "copy") := by
  cases dv <;> cases da <;> cases ts <;> simp [playMethodOf] <;> grind

theorem playMethodOf_eq_directPlay_iff :
    playMethodOf dv da ts = .directPlay ↔ (dv ≠ none ∨ da ≠ none) ∧
      (dv = none ∨ dv = some "directplay") ∧ (da = none ∨ da = some "directplay") := by
  cases dv <;> cases da <;> cases ts <;> simp [playMethodOf] <;> grind

end Table

/-! ## Picture height -/

/-- The height a resolution label stands for: 2160 for `4k` and `uhd`, 480 for `sd`, else the
integer left once the trailing `p` and `i` are stripped. -/
def labelHeight (v : String) : Option Int :=
  let w := Text.asciiLower v
  if w = "4k" ∨ w = "uhd" then some 2160
  else if w = "sd" then some 480
  else Text.parseI64? (String.ofList (w.toList.rdropWhile fun c => c = 'p' ∨ c = 'i'))

/-- The picture height of an item: the first integer `height` of a `Media` child, else the
first resolution label of a `Media` child that stands for a height, else the first integer
`height` of a video stream below, depth first. -/
def heightOf (e : Element) : Option Int :=
  let media := e.children.filter (·.name == "Media")
  let videoStreams := (Element.subtreesOf e.children).filter fun x =>
    x.name == "Stream" && x.attr? "streamType" == some "1"
  ((media.findSome? (·.attrInt? "height")).or
      (media.findSome? fun m => (m.attr? "videoResolution").bind labelHeight)).or
    (videoStreams.findSome? (·.attrInt? "height"))

theorem parseResolution_of_trim {v : String} (h : Text.trim v = v) :
    parseResolution v = labelHeight v := by
  rw [parseResolution, h]
  rfl

/-- A resolution label that is an attribute value stands for the height the rule gives. -/
theorem bind_parseResolution_attr? (m : Element) (a : String) :
    (m.attr? a).bind parseResolution = (m.attr? a).bind labelHeight := by
  cases h : m.attr? a with
  | none => simp only [Option.bind_none]
  | some v => simp only [Option.bind_some, parseResolution_of_trim (Element.trim_of_attr? h)]

theorem mediaHeight_eq_heightOf (e : Element) : mediaHeight e = heightOf e := by
  have hstreams : ((e.descendantsNamed "Stream").filter (·.attr? "streamType" == some "1")) =
      (Element.subtreesOf e.children).filter fun x =>
        x.name == "Stream" && x.attr? "streamType" == some "1" := by
    rw [Element.descendantsNamed_eq_filter, List.filter_filter]
    exact List.filter_congr fun x _ => Bool.and_comm _ _
  rw [mediaHeight, heightOf, hstreams]
  simp only [Option.orElse_eq_or, Option.or_assoc, Element.childrenNamed, bind_parseResolution_attr?]

/-! ## The two fields of a session -/

section Fields

variable (serverId : Int) (e : Element) (key : String) (now : Int)

theorem normalize_playMethod : (normalize serverId e key now).playMethod =
    playMethodOf (normalizeDecision (firstMediaAttr e "videoDecision"))
      (normalizeDecision (firstMediaAttr e "audioDecision")) (e.child? "TranscodeSession").isSome := by
  simp only [normalize]

theorem normalize_isTranscode :
    (normalize serverId e key now).isTranscode = (normalize serverId e key now).playMethod.isTranscode := by
  simp only [normalize]

theorem normalize_mediaHeight : (normalize serverId e key now).mediaHeight = mediaHeight e := by
  simp only [normalize]

end Fields

/-- How a Plex session is played and the height of its picture, read from its element tree. -/
theorem normalize_reads_transcode_and_height (serverId : Int) (e : Element) (key : String)
    (now : Int) :
    let s := normalize serverId e key now
    let dv := decisionOf e "videoDecision"
    let da := decisionOf e "audioDecision"
    let ts := (e.children.find? (·.name == "TranscodeSession")).isSome
    (s.isTranscode = true ↔ s.playMethod = .transcode) ∧
    (s.playMethod = .transcode ↔
      dv = some "transcode" ∨ da = some "transcode" ∨ (dv = none ∧ da = none ∧ ts = true)) ∧
    (s.playMethod = .directStream ↔
      dv ≠ some "transcode" ∧ da ≠ some "transcode" ∧ (dv = some "copy" ∨ da = some "copy")) ∧
    (s.playMethod = .directPlay ↔ (dv ≠ none ∨ da ≠ none) ∧
      (dv = none ∨ dv = some "directplay") ∧ (da = none ∨ da = some "directplay")) ∧
    (s.playMethod = .unknown ↔
      ¬(dv = some "transcode" ∨ da = some "transcode" ∨ (dv = none ∧ da = none ∧ ts = true)) ∧
      ¬(dv ≠ some "transcode" ∧ da ≠ some "transcode" ∧ (dv = some "copy" ∨ da = some "copy")) ∧
      ¬((dv ≠ none ∨ da ≠ none) ∧
        (dv = none ∨ dv = some "directplay") ∧ (da = none ∨ da = some "directplay"))) ∧
    s.mediaHeight = heightOf e := by
  intro s dv da ts
  have hmethod : s.playMethod = playMethodOf dv da ts := by
    rw [normalize_playMethod, normalizeDecision_firstMediaAttr, normalizeDecision_firstMediaAttr]
    rfl
  refine ⟨?_, ?_, ?_, ?_, ?_,
    (normalize_mediaHeight serverId e key now).trans (mediaHeight_eq_heightOf e)⟩
  · rw [normalize_isTranscode, PlayMethod.isTranscode, beq_iff_eq]
  · rw [hmethod, playMethodOf_eq_transcode_iff]
  · rw [hmethod, playMethodOf_eq_directStream_iff]
  · rw [hmethod, playMethodOf_eq_directPlay_iff]
  · rw [hmethod, ← playMethodOf_eq_transcode_iff, ← playMethodOf_eq_directStream_iff dv da ts,
      ← playMethodOf_eq_directPlay_iff dv da ts]
    cases playMethodOf dv da ts <;> simp

end Plex

end StreamWarden
