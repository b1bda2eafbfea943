import StreamWarden.Xml.Element

/-!
# Reading XML documents

A document is read as a sequence of markup events: start tags, empty-element tags, end tags, and
markup that is skipped (comments, `CDATA` sections, document type declarations, processing
instructions, and text). End tags must close the innermost open element, by name.

The tree is built from the events: a start tag opens an element, its end tag attaches it to the
element around it; an empty-element tag is attached at once. Only the first element at the top
level is the document's root; the document must close every element it opens.

Attribute values are written in quotes (`"` or `'`); the references `&lt;`, `&gt;`, `&amp;`,
`&apos;`, `&quot;` and character references (`&#65;`, `&#x41;`) in them are replaced.
Positions in the messages count bytes of UTF-8.
-/

namespace StreamWarden.Xml

/-- Markup that ended before its closing characters. -/
inductive SyntaxFault where
  | bangMarkup
  | unclosedInstruction
  | unclosedComment
  | unclosedDoctype
  | unclosedCData
  | unclosedTag
  deriving DecidableEq, Repr

/-- The wording of an unclosed markup. -/
def SyntaxFault.text : SyntaxFault → String
  | .bangMarkup => "unknown or missed symbol in markup"
  | .unclosedInstruction =>
    "processing instruction or xml declaration not closed: `?>` not found before end of input"
  | .unclosedComment => "comment not closed: `-->` not found before end of input"
  | .unclosedDoctype => "DOCTYPE not closed: `>` not found before end of input"
  | .unclosedCData => "CDATA not closed: `]]>` not found before end of input"
  | .unclosedTag => "tag not closed: `>` not found before end of input"

/-- A fault of the markup sequence. -/
inductive MarkupFault where
  | unclosed (f : SyntaxFault)
  | doctypeName
  | unmatchedEnd (found : String)
  | mismatchedEnd (expected found : String)
  deriving DecidableEq, Repr

/-- The wording of a markup fault. -/
def MarkupFault.text : MarkupFault → String
  | .unclosed f => "syntax error: " ++ f.text
  | .doctypeName =>
    "ill-formed document: `<!DOCTYPE>` declaration does not contain a name of a document type"
  | .unmatchedEnd found => "ill-formed document: close tag `</" ++ found ++ ">` does not match any open tag"
  | .mismatchedEnd expected found =>
    "ill-formed document: expected `</" ++ expected ++ ">`, but `</" ++ found ++ ">` was found"

/-- A fault in the attributes of a tag; positions count from the start of the tag's name. -/
inductive AttrFault where
  | expectedEq (position : Nat)
  | expectedValue (position : Nat)
  | unquotedValue (position : Nat)
  | expectedQuote (position : Nat) (quote : Char)
  | duplicated (position previous : Nat)
  deriving DecidableEq, Repr

/-- The wording of an attribute fault. -/
def AttrFault.text : AttrFault → String
  | .expectedEq p => s!"position {p}: attribute key must be directly followed by `=` or space"
  | .expectedValue p => s!"position {p}: `=` must be followed by an attribute value"
  | .unquotedValue p => s!"position {p}: attribute value must be enclosed in `\"` or `'`"
  | .expectedQuote p q => s!"position {p}: missing closing quote `{q}` in attribute value"
  | .duplicated p q => s!"position {p}: duplicated attribute, previous declaration at position {q}"

/-- A fault in a reference inside an attribute value; ranges are byte offsets in the value. -/
inductive EscapeFault where
  | unrecognized (lo hi : Nat) (name : String)
  | unterminated (lo hi : Nat)
  | charRef (detail : String)
  deriving DecidableEq, Repr

/-- The wording of a reference fault. -/
def EscapeFault.text : EscapeFault → String
  | .unrecognized lo hi n => s!"at {lo}..{hi}: unrecognized entity `{n}`"
  | .unterminated lo hi => s!"Error while escaping character at range {lo}..{hi}: Cannot find ';' after '&'"
  | .charRef d => "invalid character reference: " ++ d

/-- A failure to read a document into a tree. -/
inductive XmlError where
  | markup (position : Nat) (fault : MarkupFault)
  | attribute (fault : AttrFault)
  | value (fault : EscapeFault)
  | unbalancedEnd
  | unterminated
  | empty
  deriving DecidableEq, Repr

/-- The wording of a failure. -/
def XmlError.message : XmlError → String
  | .markup p f => s!"invalid XML at position {p}: " ++ f.text
  | .attribute f => "bad attribute: " ++ f.text
  | .value f => "bad attribute value: " ++ f.text
  | .unbalancedEnd => "unbalanced XML end tag"
  | .unterminated => "unterminated XML document"
  | .empty => "empty XML document"

/-! ### Scanning -/

/-- The number of UTF-8 bytes of some characters. -/
def byteSize (cs : List Char) : Nat := cs.foldl (fun n c => n + c.utf8Size) 0

/-- XML white space. -/
def isSpace (c : Char) : Bool := c = ' ' || c = '\t' || c = '\n' || c = '\r'

/-- Splits at the first occurrence of a marker: the text before it and the text after it. -/
def splitAtMarker (marker : List Char) : List Char → Option (List Char × List Char)
  | [] => if marker.isEmpty then some ([], []) else none
  | c :: rest =>
    if marker.isPrefixOf (c :: rest) then some ([], (c :: rest).drop marker.length)
    else (splitAtMarker marker rest).map fun (before, after) => (c :: before, after)

/-- Splits a tag at its closing `>`, skipping any `>` inside quoted attribute values. -/
def splitTag : Option Char → List Char → Option (List Char × List Char)
  | _, [] => none
  | none, '>' :: rest => some ([], rest)
  | quote, c :: rest =>
    let quote := match quote with
      | none => if c = '"' ∨ c = '\'' then some c else none
      | some q => if c = q then none else some q
    (splitTag quote rest).map fun (before, after) => (c :: before, after)

/-- Splits a document type declaration at the `>` that balances its nested `<`. -/
def splitDoctype : Nat → List Char → Option (List Char × List Char)
  | _, [] => none
  | depth, c :: rest =>
    if c = '>' ∧ depth = 0 then some ([], rest)
    else
      let depth := if c = '<' then depth + 1 else if c = '>' then depth - 1 else depth
      (splitDoctype depth rest).map fun (before, after) => (c :: before, after)

/-- One piece of markup. -/
inductive Event where
  | start (tag : List Char)
  | empty (tag : List Char)
  | finish (name : String)
  | skipped
  deriving Repr

/-- Reads the markup after `<!`: a comment, a `CDATA` section or a document type declaration. -/
def bangMarkup (rest : List Char) : Except SyntaxFault (List Char) :=
  match rest with
  | '-' :: _ =>
    if "--".toList.isPrefixOf rest then
      match splitAtMarker "-->".toList (rest.drop 2) with
      | some (_, after) => .ok after
      | none => .error .unclosedComment
    else .error .bangMarkup
  | '[' :: _ =>
    if "[CDATA[".toList.isPrefixOf rest then
      match splitAtMarker "]]>".toList (rest.drop 7) with
      | some (_, after) => .ok after
      | none => .error .unclosedCData
    else .error .bangMarkup
  | c :: _ =>
    if c = 'D' ∨ c = 'd' then
      match splitDoctype 0 rest with
      | some (body, after) =>
        if (body.take 7).map Char.toUpper = "DOCTYPE".toList then .ok after
        else .error .bangMarkup
      | none => .error .unclosedDoctype
    else .error .bangMarkup
  | [] => .error .bangMarkup

/-- The name of a document type declaration (after `<!DOCTYPE`). -/
def doctypeName (rest : List Char) : List Char :=
  ((rest.drop 8).dropWhile isSpace).takeWhile (!isSpace ·)

/-- Reads one event at a `<`, with the names of the open elements, innermost first. Gives the
event, the open names after it and the rest, or a fault with the rest it leaves. -/
def readMarkup (opened : List String) (rest : List Char) :
    Except (MarkupFault × List Char) (Event × List String × List Char) :=
  match rest with
  | '!' :: more =>
    match bangMarkup more with
    | .ok after =>
      if more.head? = some 'D' ∨ more.head? = some 'd' then
        if (doctypeName more).isEmpty then .error (.doctypeName, after)
        else .ok (.skipped, opened, after)
      else .ok (.skipped, opened, after)
    | .error f => .error (.unclosed f, [])
  | '?' :: more =>
    match splitAtMarker "?>".toList more with
    | some (_, after) => .ok (.skipped, opened, after)
    | none => .error (.unclosed .unclosedInstruction, [])
  | '/' :: more =>
    match splitAtMarker ">".toList more with
    | some (body, after) =>
      let name := String.ofList (body.reverse.dropWhile isSpace).reverse
      match opened with
      | [] => .error (.unmatchedEnd name, after)
      | top :: others =>
        if top = name then .ok (.finish name, others, after)
        else .error (.mismatchedEnd top name, after)
    | none => .error (.unclosed .unclosedTag, [])
  | _ =>
    match splitTag none rest with
    | some (body, after) =>
      match body.reverse with
      | '/' :: inner => .ok (.empty inner.reverse, opened, after)
      | _ => .ok (.start body, String.ofList (body.takeWhile (!isSpace ·)) :: opened, after)
    | none => .error (.unclosed .unclosedTag, [])

/-! ### Attribute values -/

/-- The value of a character reference (after `&#`), or why it is none. -/
def charReference (body : List Char) : Except String Char :=
  let (radix, digits) := match body with
    | 'x' :: hex => (16, hex)
    | _ => (10, body)
  match digits with
  | '+' :: _ | '-' :: _ => .error "unexpected number sign"
  | [] => .error "cannot parse integer from empty string"
  | _ =>
    let values := digits.map fun c =>
      if radix = 16 then
        if '0' ≤ c ∧ c ≤ '9' then some (c.toNat - 48)
        else if 'a' ≤ c ∧ c ≤ 'f' then some (c.toNat - 87)
        else if 'A' ≤ c ∧ c ≤ 'F' then some (c.toNat - 55)
        else none
      else if '0' ≤ c ∧ c ≤ '9' then some (c.toNat - 48) else none
    if values.any (·.isNone) then .error "invalid digit found in string"
    else
      let n := values.foldl (fun acc v => radix * acc + v.getD 0) 0
      if n ≥ Nat.pow 2 32 then .error "number too large to fit in target type"
      else if n = 0 then .error "0x0 character is not permitted in XML"
      else if n ≥ 0x110000 ∨ (0xD800 ≤ n ∧ n ≤ 0xDFFF) then
        .error ("`" ++ toString n ++ "` is not a valid codepoint")
      else .ok (Char.ofNat n)

/-- Replaces the references of an attribute value; `offset` is the byte offset of the text. -/
def unescapeFrom (offset : Nat) : List Char → Nat → Except EscapeFault (List Char)
  | [], _ => .ok []
  | _, 0 => .ok []
  | '&' :: rest, fuel + 1 =>
    match splitAtMarker [';'] rest with
    | none => .error (.unterminated offset (offset + 1 + byteSize rest))
    | some (name, after) =>
      let lo := offset + 1
      let hi := lo + byteSize name
      let next := hi + 1
      let replaced : Except EscapeFault Char :=
        match name with
        | ['l', 't'] => .ok '<'
        | ['g', 't'] => .ok '>'
        | ['a', 'm', 'p'] => .ok '&'
        | ['a', 'p', 'o', 's'] => .ok '\''
        | ['q', 'u', 'o', 't'] => .ok '"'
        | '#' :: body => (charReference body).mapError EscapeFault.charRef
        | _ => .error (.unrecognized lo hi (String.ofList name))
      match replaced with
      | .ok c => (unescapeFrom next after fuel).map (c :: ·)
      | .error e => .error e
  | c :: rest, fuel + 1 => (unescapeFrom (offset + c.utf8Size) rest fuel).map (c :: ·)

/-- Replaces the references of an attribute value. -/
def unescape (value : List Char) : Except EscapeFault String :=
  (unescapeFrom 0 value value.length).map String.ofList

/-! ### Attributes -/

/-- One raw attribute: its key, its value as written, and the position of its key. -/
structure RawAttr where
  key : List Char
  value : List Char
  position : Nat

/-- Reads the attributes of a tag; `pos` is the byte offset of `cs` in the tag, `seen` the
attributes so far (latest first). -/
def readAttrs (pos : Nat) (seen : List RawAttr) : List Char → Nat → Except AttrFault (List RawAttr)
  | _, 0 => .ok seen.reverse
  | cs, fuel + 1 =>
    let spaces := cs.takeWhile isSpace
    let cs := cs.dropWhile isSpace
    let pos := pos + spaces.length
    if cs.isEmpty then .ok seen.reverse
    else
      let key := cs.takeWhile fun c => c ≠ '=' ∧ !isSpace c
      let keyPos := pos
      let afterKey := cs.drop key.length
      let pos := pos + byteSize key
      let gap := afterKey.takeWhile isSpace
      let afterGap := afterKey.dropWhile isSpace
      let pos := pos + gap.length
      match afterGap with
      | '=' :: afterEq =>
        let pos := pos + 1
        let gap := afterEq.takeWhile isSpace
        let valueStart := afterEq.dropWhile isSpace
        let pos := pos + gap.length
        match valueStart with
        | [] => .error (.expectedValue pos)
        | q :: body =>
          if q = '"' ∨ q = '\'' then
            match splitAtMarker [q] body with
            | none => .error (.expectedQuote (pos + 1 + byteSize body) q)
            | some (value, after) =>
              match seen.find? (·.key == key) with
              | some prev => .error (.duplicated keyPos prev.position)
              | none =>
                readAttrs (pos + 2 + byteSize value) (⟨key, value, keyPos⟩ :: seen) after fuel
          else .error (.unquotedValue pos)
      | _ => .error (.expectedEq pos)

/-- The element a tag opens, with its attributes unescaped. -/
def openElement (tag : List Char) : Except XmlError Element := do
  let name := tag.takeWhile (!isSpace ·)
  let raw ← (readAttrs (byteSize name) [] (tag.drop name.length) tag.length).mapError .attribute
  let attrs ← raw.mapM fun a => do
    let v ← (unescape a.value).mapError .value
    pure (String.ofList a.key, v)
  pure (.mk (String.ofList name) attrs [])

/-! ### Building the tree -/

/-- The tree under construction: the open elements (innermost first) and the root, once known. -/
structure Building where
  pending : List Element := []
  root : Option Element := none

/-- Attaches a finished element to the innermost open one, or makes it the root if it is the
first at the top level. -/
def Building.attach (b : Building) (e : Element) : Building :=
  match b.pending with
  | .mk n a cs :: outer => { b with pending := .mk n a (cs ++ [e]) :: outer }
  | [] => if b.root.isSome then b else { b with root := some e }

/-- Applies one event to the tree under construction. -/
def Building.apply (b : Building) : Event → Except XmlError Building
  | .start tag => do
    let e ← openElement tag
    pure { b with pending := e :: b.pending }
  | .empty tag => do
    let e ← openElement tag
    pure (b.attach e)
  | .finish _ =>
    match b.pending with
    | e :: outer => pure ({ b with pending := outer }.attach e)
    | [] => .error .unbalancedEnd
  | .skipped => pure b

/-- Reads events from the rest of a document; `pos` is the byte offset of the rest. -/
def readFrom (total : Nat) (opened : List String) (b : Building) (pos : Nat) :
    List Char → Nat → Except XmlError Building
  | [], _ | _, 0 => .ok b
  | '<' :: rest, fuel + 1 =>
    match readMarkup opened rest with
    | .error (f, after) =>
      .error (.markup (if after.isEmpty then total else total - byteSize after) f)
    | .ok (event, opened, after) => do
      let b ← b.apply event
      readFrom total opened b (total - byteSize after) after fuel
  | c :: rest, fuel + 1 =>
    let text := rest.takeWhile (· ≠ '<')
    readFrom total opened b (pos + c.utf8Size + byteSize text) (rest.drop text.length) fuel

/-- Reads a document into its root element. -/
def parse (s : String) : Except XmlError Element := do
  let cs := s.toList
  let b ← readFrom (byteSize cs) [] {} 0 cs (cs.length + 1)
  if !b.pending.isEmpty then .error .unterminated
  else
    match b.root with
    | some r => pure r
    | none => .error .empty

end StreamWarden.Xml
