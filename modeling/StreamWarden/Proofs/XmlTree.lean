import Mathlib
import StreamWarden.Media.Plex

/-!
# Reading a document into its tree

The reader turns a document into markup events (`events`), and the tree builder applies them in
order: a start tag opens an element, its end tag attaches the finished element to the one around
it, an empty-element tag is attached at once, and at the top level only the first element is
kept as the root.

`Delivers es evs` says that `evs` are the events of the sibling elements `es` in document order:
each element is one empty-element tag, or its start tag, the events of its children and its end
tag, with skipped markup (comments, instructions, declarations) anywhere between; a tag stands for
an element when it reads as that element's name and attributes. The builder's invariant is that
applying the events of some elements attaches those elements, finished, to whatever is open
(`foldlM_apply_of_delivers`): the stack of open elements always ends where it started, so no
element is lost or attached twice at any depth. Hence a document whose events deliver the
elements `t :: ts` reads as `t` (`parse_of_delivers`); events that stop inside an element
(`Unclosed`) leave it open and the document is unterminated (`parse_of_unclosed`); events with no
element give an empty document (`parse_of_no_element`). A Plex listing then has one session per
child of the root that has a key, in document order (`document_tree_and_sessions`).
-/

namespace StreamWarden

namespace Xml

/-! ### The events of a document -/

/-- The markup events of the rest of a document in document order, as the reader delivers them,
or the fault that stops the reading. -/
def eventsFrom (total : Nat) (opened : List String) (pos : Nat) :
    List Char → Nat → Except XmlError (List Event)
  | [], _ | _, 0 => .ok []
  | '<' :: rest, fuel + 1 =>
    match readMarkup opened rest with
    | .error (f, after) =>
      .error (.markup (if after.isEmpty then total else total - byteSize after) f)
    | .ok (event, opened, after) =>
      (eventsFrom total opened (total - byteSize after) after fuel).map (event :: ·)
  | c :: rest, fuel + 1 =>
    let text := rest.takeWhile (· ≠ '<')
    eventsFrom total opened (pos + c.utf8Size + byteSize text) (rest.drop text.length) fuel

/-- The markup events of a document. -/
def events (s : String) : Except XmlError (List Event) :=
  eventsFrom (byteSize s.toList) [] 0 s.toList (s.toList.length + 1)

/-- Reading a document whose events the reader delivers is applying those events in order. -/
theorem readFrom_eq_foldlM {total : Nat} {opened : List String} {pos : Nat} {cs : List Char}
    {fuel : Nat} {evs : List Event} (b : Building)
    (h : eventsFrom total opened pos cs fuel = .ok evs) :
    readFrom total opened b pos cs fuel = evs.foldlM Building.apply b := by
  induction fuel generalizing opened b pos cs evs with
  | zero =>
    cases cs <;> simp only [eventsFrom, readFrom, Except.ok.injEq] at h ⊢ <;> subst h <;> rfl
  | succ fuel ih =>
    match cs, h with
    | [], h =>
      simp only [eventsFrom, Except.ok.injEq] at h
      subst h
      rfl
    | c :: rest, h =>
      by_cases hc : c = '<'
      · subst hc
        simp only [eventsFrom] at h
        simp only [readFrom]
        cases hmarkup : readMarkup opened rest with
        | error fault =>
          rw [hmarkup] at h
          simp at h
        | ok step =>
          obtain ⟨event, opened', after⟩ := step
          rw [hmarkup] at h
          dsimp only at h ⊢
          cases hrest : eventsFrom total opened' (total - byteSize after) after fuel with
          | error e => simp [hrest, Except.map] at h
          | ok rest' =>
            simp only [hrest, Except.map, Except.ok.injEq] at h
            subst h
            rw [List.foldlM_cons]
            cases happly : b.apply event with
            | error e => rfl
            | ok b' => exact ih b' hrest
      · rw [eventsFrom] at h
        · rw [readFrom]
          · exact ih b h
          · exact hc
        · exact hc

/-! ### Tags -/

/-- Applying a fallible function to each value succeeds exactly when it succeeds on each, with
the results in order. -/
theorem mapM_eq_ok_iff {α β ε : Type} (f : α → Except ε β) (xs : List α) (ys : List β) :
    xs.mapM f = .ok ys ↔ List.Forall₂ (fun x y => f x = .ok y) xs ys := by
  induction xs generalizing ys with
  | nil => cases ys <;> simp [pure, Except.pure]
  | cons x xs ih =>
    rw [List.mapM_cons]
    cases hx : f x with
    | error e => cases ys <;> simp [bind, Except.bind, hx]
    | ok y =>
      cases hxs : xs.mapM f with
      | error e => cases ys <;> simp [bind, Except.bind, ← ih, hxs, hx]
      | ok ys' => cases ys <;> simp [bind, Except.bind, pure, Except.pure, ← ih, hxs, hx]

theorem bind_eq_ok_iff {ε α β : Type} {x : Except ε α} {f : α → Except ε β} {b : β} :
    x >>= f = .ok b ↔ ∃ a, x = .ok a ∧ f a = .ok b := by
  cases x <;> simp [bind, Except.bind]

theorem mapError_eq_ok_iff {ε ε' α : Type} {g : ε → ε'} {x : Except ε α} {a : α} :
    x.mapError g = .ok a ↔ x = .ok a := by
  cases x <;> simp [Except.mapError]

/-- A tag opens the element `n` with attributes `attrs`: `n` is the name the tag begins with,
and `attrs` are the tag's attributes in document order, each key as written and each value with
its references replaced. -/
def Opens (tag : List Char) (n : String) (attrs : List (String × String)) : Prop :=
  let name := tag.takeWhile (!isSpace ·)
  n = String.ofList name ∧
    ∃ raw, readAttrs (byteSize name) [] (tag.drop name.length) tag.length = .ok raw ∧
      List.Forall₂ (fun a kv => kv.1 = String.ofList a.key ∧ unescape a.value = .ok kv.2) raw attrs

/-- A tag reads as an element exactly when it opens it: the element has the tag's name, its
attributes in document order with their values unescaped, and no children yet. -/
theorem openElement_eq_ok_iff (tag : List Char) (n : String) (attrs : List (String × String)) :
    openElement tag = .ok (.mk n attrs []) ↔ Opens tag n attrs := by
  simp only [openElement, Opens, bind_eq_ok_iff, mapError_eq_ok_iff, pure, Except.pure,
    Except.ok.injEq, Element.mk.injEq, and_true, mapM_eq_ok_iff]
  constructor
  · rintro ⟨raw, hraw, attrs', hattrs, rfl, rfl⟩
    refine ⟨rfl, raw, hraw, hattrs.imp ?_⟩
    rintro a kv ⟨v, hv, rfl⟩
    exact ⟨rfl, hv⟩
  · rintro ⟨rfl, raw, hraw, hattrs⟩
    refine ⟨raw, hraw, attrs, hattrs.imp ?_, rfl, rfl⟩
    rintro a ⟨k, v⟩ ⟨rfl, hv⟩
    exact ⟨v, hv, rfl⟩

/-! ### The builder -/

namespace Building

theorem attach_open (b : Building) (n : String) (attrs : List (String × String))
    (cs : List Element) (outer : List Element) (e : Element) :
    ({ b with pending := .mk n attrs cs :: outer } : Building).attach e =
      { b with pending := .mk n attrs (cs ++ [e]) :: outer } := rfl

/-- Attaching elements to an open element appends them to its children, in order. -/
theorem foldl_attach_open (b : Building) (n : String) (attrs : List (String × String))
    (cs outer es : List Element) :
    es.foldl attach { b with pending := .mk n attrs cs :: outer } =
      { b with pending := .mk n attrs (cs ++ es) :: outer } := by
  induction es generalizing cs with
  | nil => simp
  | cons e es ih => rw [List.foldl_cons, attach_open, ih, List.append_assoc, List.singleton_append]

theorem pending_attach (b : Building) (e : Element) :
    (b.attach e).pending.length = b.pending.length := by
  unfold attach
  split
  · rename_i hpending
    simp [hpending]
  · split <;> rfl

theorem pending_foldl_attach (b : Building) (es : List Element) :
    (es.foldl attach b).pending.length = b.pending.length := by
  induction es generalizing b with
  | nil => rfl
  | cons e es ih => rw [List.foldl_cons, ih, pending_attach]

/-- Once the root is known, elements finished at the top level are dropped. -/
theorem foldl_attach_of_root (es : List Element) (r : Element) :
    es.foldl attach { pending := [], root := some r } = { pending := [], root := some r } := by
  induction es with
  | nil => rfl
  | cons e es ih => exact ih

/-- At the top level the first finished element becomes the root. -/
theorem foldl_attach_top (t : Element) (ts : List Element) :
    (t :: ts).foldl attach {} = { pending := [], root := some t } :=
  foldl_attach_of_root ts t

end Building

/-! ### The events of elements -/

/-- The events of a sequence of sibling elements, in document order: each element is one
empty-element tag, or its start tag, the events of its children and its end tag; skipped markup
may stand anywhere between. Each tag opens its element: it has the element's name and attributes,
in document order and unescaped. -/
inductive Delivers : List Element → List Event → Prop
  | nil : Delivers [] []
  | skipped {es : List Element} {evs : List Event} :
      Delivers es evs → Delivers es (.skipped :: evs)
  | empty {tag : List Char} {n : String} {attrs : List (String × String)} {es : List Element}
      {evs : List Event} :
      Opens tag n attrs → Delivers es evs →
      Delivers (.mk n attrs [] :: es) (.empty tag :: evs)
  | nested {tag : List Char} {n : String} {attrs : List (String × String)}
      {cs es : List Element} {inner evs : List Event} :
      Opens tag n attrs → Delivers cs inner → Delivers es evs →
      Delivers (.mk n attrs cs :: es) (.start tag :: (inner ++ .finish n :: evs))

/-- The events of a document cut off inside an element: complete siblings, then the start tag of
an element that is never closed, then its content so far, which is complete children or ends in
another element left open. -/
inductive Unclosed : List Event → Prop
  | atEnd {es cs : List Element} {pre inner : List Event} {tag : List Char} {n : String}
      {attrs : List (String × String)} :
      Delivers es pre → Opens tag n attrs → Delivers cs inner →
      Unclosed (pre ++ .start tag :: inner)
  | deeper {es : List Element} {pre inner : List Event} {tag : List Char} {n : String}
      {attrs : List (String × String)} :
      Delivers es pre → Opens tag n attrs → Unclosed inner →
      Unclosed (pre ++ .start tag :: inner)

theorem apply_start {b : Building} {tag : List Char} {n : String} {attrs : List (String × String)}
    (h : Opens tag n attrs) :
    b.apply (.start tag) = .ok { b with pending := .mk n attrs [] :: b.pending } := by
  simp [Building.apply, (openElement_eq_ok_iff tag n attrs).2 h]

/-- The builder's invariant: applying the events of some elements attaches those elements,
finished, to what is open, whatever the depth of the document. -/
theorem foldlM_apply_of_delivers {es : List Element} {evs : List Event} (h : Delivers es evs)
    (b : Building) : evs.foldlM Building.apply b = .ok (es.foldl Building.attach b) := by
  induction h generalizing b with
  | nil => rfl
  | skipped _ ih => exact ih b
  | @empty tag n attrs _ _ hopen _ ih =>
    rw [List.foldlM_cons]
    simp only [Building.apply, (openElement_eq_ok_iff tag n attrs).2 hopen]
    exact ih _
  | @nested tag n attrs cs es inner evs hopen _ _ ihInner ihRest =>
    rw [List.foldlM_cons, apply_start hopen]
    simp only [bind, Except.bind]
    rw [List.foldlM_append, ihInner, Building.foldl_attach_open]
    simp only [bind, Except.bind, List.nil_append, List.foldlM_cons, Building.apply, pure,
      Except.pure]
    exact ihRest _

/-- Complete siblings and then a start tag leave the builder with one more open element. -/
theorem foldlM_apply_open {es : List Element} {pre rest : List Event} {tag : List Char}
    {n : String} {attrs : List (String × String)} (hpre : Delivers es pre) (hopen : Opens tag n attrs)
    (b : Building) :
    (pre ++ .start tag :: rest).foldlM Building.apply b =
      rest.foldlM Building.apply { es.foldl Building.attach b with
        pending := .mk n attrs [] :: (es.foldl Building.attach b).pending } := by
  rw [List.foldlM_append, foldlM_apply_of_delivers hpre]
  simp only [bind, Except.bind]
  rw [List.foldlM_cons, apply_start hopen]
  rfl

/-- Events that stop inside an element leave more elements open than there were. -/
theorem foldlM_apply_of_unclosed {evs : List Event} (h : Unclosed evs) (b : Building) :
    ∃ b', evs.foldlM Building.apply b = .ok b' ∧ b.pending.length < b'.pending.length := by
  induction h generalizing b with
  | atEnd hpre hopen hinner =>
    refine ⟨_, (foldlM_apply_open hpre hopen b).trans (foldlM_apply_of_delivers hinner _), ?_⟩
    simp [Building.pending_foldl_attach]
  | deeper hpre hopen _ ih =>
    obtain ⟨b', hb', hlen⟩ := ih _
    refine ⟨b', (foldlM_apply_open hpre hopen b).trans hb', ?_⟩
    simp only [List.length_cons, Building.pending_foldl_attach] at hlen
    omega

/-! ### Documents -/

theorem parse_eq_of_foldlM {s : String} {evs : List Event} {b : Building}
    (hevents : events s = .ok evs) (hb : evs.foldlM Building.apply {} = .ok b) :
    parse s = if b.pending.isEmpty then b.root.elim (.error .empty) .ok else .error .unterminated := by
  simp only [parse, readFrom_eq_foldlM {} hevents, hb, bind, Except.bind]
  cases b with
  | mk pending root =>
    cases pending <;> cases root <;> rfl

/-- A document whose events deliver the top-level elements `t :: ts` reads as `t`. -/
theorem parse_of_delivers {s : String} {evs : List Event} {t : Element} {ts : List Element}
    (hevents : events s = .ok evs) (h : Delivers (t :: ts) evs) : parse s = .ok t := by
  rw [parse_eq_of_foldlM hevents (foldlM_apply_of_delivers h {}), Building.foldl_attach_top]
  rfl

/-- A document whose events stop inside an element is unterminated. -/
theorem parse_of_unclosed {s : String} {evs : List Event} (hevents : events s = .ok evs)
    (h : Unclosed evs) : parse s = .error .unterminated := by
  obtain ⟨b, hb, hlen⟩ := foldlM_apply_of_unclosed h {}
  rw [parse_eq_of_foldlM hevents hb]
  have hopen : b.pending.isEmpty = false := by
    cases hp : b.pending with
    | nil => simp [hp] at hlen
    | cons e outer => rfl
  simp [hopen]

/-- A document whose events hold no element is empty. -/
theorem parse_of_no_element {s : String} {evs : List Event} (hevents : events s = .ok evs)
    (h : Delivers [] evs) : parse s = .error .empty := by
  rw [parse_eq_of_foldlM hevents (foldlM_apply_of_delivers h {})]
  rfl

end Xml

namespace Plex

theorem parseSessions_of_parse_ok {serverId now : Int} {body : String} {root : Xml.Element}
    (h : Xml.parse body = .ok root) :
    parseSessions serverId body now =
      .ok (root.children.filterMap fun node =>
        (sessionKeyOf node).map fun key => normalize serverId node key now) := by
  simp only [parseSessions, h]

theorem parseSessions_of_parse_error {serverId now : Int} {body : String} {e : Xml.XmlError}
    (h : Xml.parse body = .error e) :
    parseSessions serverId body now = .error (.protocol e.message) := by
  simp only [parseSessions, h]

end Plex

open Xml in
/-- A document read through its events: when they deliver the top-level elements `t :: ts`, the
document reads as `t`, and a Plex listing has one session per child of `t` with a key, in order,
keyed by it; when the events stop inside an element or hold none, the document is unterminated
or empty and the listing fails as malformed. -/
theorem document_tree_and_sessions (serverId now : Int) (s : String) (evs : List Event)
    (hevents : events s = .ok evs) :
    (∀ t ts, Delivers (t :: ts) evs →
      parse s = .ok t ∧
      Plex.parseSessions serverId s now =
        .ok (t.children.filterMap fun node =>
          (Plex.sessionKeyOf node).map fun key => Plex.normalize serverId node key now)) ∧
    (Unclosed evs → parse s = .error .unterminated ∧
      Plex.parseSessions serverId s now = .error (.protocol "unterminated XML document")) ∧
    (Delivers [] evs → parse s = .error .empty ∧
      Plex.parseSessions serverId s now = .error (.protocol "empty XML document")) := by
  refine ⟨fun t ts h => ?_, fun h => ?_, fun h => ?_⟩
  · have hparse := parse_of_delivers hevents h
    exact ⟨hparse, Plex.parseSessions_of_parse_ok hparse⟩
  · have hparse := parse_of_unclosed hevents h
    exact ⟨hparse, Plex.parseSessions_of_parse_error hparse⟩
  · have hparse := parse_of_no_element hevents h
    exact ⟨hparse, Plex.parseSessions_of_parse_error hparse⟩

/-- A listing with a declaration, a comment and one item with a player: its events deliver the
container, the document reads as it, and the listing has one session, keyed by the trimmed
`sessionKey`. -/
theorem plex_listing_reads_as_tree :
    let doc := "<?xml version=\"1.0\"?><MediaContainer size=\"1\"><Video sessionKey=\" 12 \">" ++
      "<Player state=\"playing\"/></Video><!-- idle --></MediaContainer>"
    let player : Xml.Element := .mk "Player" [("state", "playing")] []
    let video : Xml.Element := .mk "Video" [("sessionKey", " 12 ")] [player]
    let root : Xml.Element := .mk "MediaContainer" [("size", "1")] [video]
    let evs : List Xml.Event := [.skipped, .start "MediaContainer size=\"1\"".toList,
      .start "Video sessionKey=\" 12 \"".toList, .empty "Player state=\"playing\"".toList,
      .finish "Video", .skipped, .finish "MediaContainer"]
    Xml.events doc = .ok evs ∧ Xml.Delivers [root] evs ∧ Xml.parse doc = .ok root ∧
      Plex.parseSessions 1 doc 0 = .ok [Plex.normalize 1 video "12" 0] := by
  have hroot : Xml.Opens "MediaContainer size=\"1\"".toList "MediaContainer" [("size", "1")] :=
    (Xml.openElement_eq_ok_iff _ _ _).1 rfl
  have hvideo : Xml.Opens "Video sessionKey=\" 12 \"".toList "Video" [("sessionKey", " 12 ")] :=
    (Xml.openElement_eq_ok_iff _ _ _).1 rfl
  have hplayer : Xml.Opens "Player state=\"playing\"".toList "Player" [("state", "playing")] :=
    (Xml.openElement_eq_ok_iff _ _ _).1 rfl
  have hkey : Plex.sessionKeyOf (.mk "Video" [("sessionKey", " 12 ")]
      [.mk "Player" [("state", "playing")] []]) = some "12" := by decide +kernel
  intro doc player video root evs
  have hevents : Xml.events doc = .ok evs := by
    simp only [doc, evs]
    cbv
  have hdelivers : Xml.Delivers [root] (.skipped :: .start "MediaContainer size=\"1\"".toList ::
      ((.start "Video sessionKey=\" 12 \"".toList ::
        ([.empty "Player state=\"playing\"".toList] ++ .finish "Video" :: [.skipped])) ++
        .finish "MediaContainer" :: [])) :=
    .skipped (.nested hroot (.nested hvideo (.empty hplayer .nil) (.skipped .nil)) .nil)
  obtain ⟨hparse, hsessions⟩ := (document_tree_and_sessions 1 0 doc evs hevents).1 root [] hdelivers
  refine ⟨hevents, hdelivers, hparse, ?_⟩
  rw [hsessions]
  replace hkey : Plex.sessionKeyOf video = some "12" := hkey
  simp only [root, Xml.Element.children, List.filterMap_cons, hkey, Option.map_some,
    List.filterMap_nil]

end StreamWarden
