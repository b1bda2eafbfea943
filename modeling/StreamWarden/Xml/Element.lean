import StreamWarden.Json.Basic
import StreamWarden.Text.Blank

/-!
# Elements of an XML document

A document is read into a tree of elements; each holds its name, its attributes in document
order and its child elements in document order. Text, comments and instructions are not kept.

Attribute look-ups read the first attribute of a name, trim its value and treat a blank value
as absent, since servers write empty attributes for unknown values.
-/

namespace StreamWarden.Xml

/-- An element: a name, attributes in document order, child elements in document order. -/
inductive Element where
  | mk (name : String) (attrs : List (String × String)) (children : List Element)
  deriving Repr, Inhabited

namespace Element

/-- The name of an element. -/
def name : Element → String
  | mk n _ _ => n

/-- The attributes of an element, in document order. -/
def attrs : Element → List (String × String)
  | mk _ a _ => a

/-- The child elements of an element, in document order. -/
def children : Element → List Element
  | mk _ _ c => c

/-- The trimmed value of the first attribute of a name; none when it is absent or blank. -/
def attr? (e : Element) (key : String) : Option String :=
  (e.attrs.lookup key).bind Text.nonBlank

/-- The value of an attribute read as a signed 64-bit integer. -/
def attrInt? (e : Element) (key : String) : Option Int :=
  (e.attr? key).bind Text.parseI64?

/-- The first child element of a name. -/
def child? (e : Element) (n : String) : Option Element :=
  e.children.find? (·.name == n)

/-- The child elements of a name, in document order. -/
def childrenNamed (e : Element) (n : String) : List Element :=
  e.children.filter (·.name == n)

mutual
/-- Every element of a name below this one, depth first and in document order. -/
def descendantsNamed (n : String) : Element → List Element
  | mk _ _ cs => descendantsAmong n cs

/-- Every element of a name in a list of trees, each tree's root before its descendants. -/
def descendantsAmong (n : String) : List Element → List Element
  | [] => []
  | c :: rest =>
    (if c.name == n then [c] else []) ++ descendantsNamed n c ++ descendantsAmong n rest
end

/-- The attributes as a JSON object of strings (a later attribute of a name wins). -/
def attrsJson (e : Element) : Json :=
  Json.object (e.attrs.map fun (k, v) => (k, Json.str v))

end Element

end StreamWarden.Xml
