/-!
# The item cache

Looking up a library item costs a request, so the title and type found for an item of a server
are kept. The cache holds at most 4096 entries: an insert into a full cache empties it first,
even when the key is already there.
-/

namespace StreamWarden.Jellyfin

/-- The title and type of a library item. -/
structure ItemSummary where
  title : Option String := none
  itemType : Option String := none
  deriving DecidableEq, Repr, Inhabited

/-- Item summaries keyed by server and item, the most recent first. -/
structure ItemCache where
  entries : List ((Int × String) × ItemSummary) := []
  deriving Repr, Inhabited

namespace ItemCache

/-- The most entries the cache holds. -/
def capacity : Nat := 4096

/-- The number of entries. -/
def size (c : ItemCache) : Nat := c.entries.length

/-- The summary kept for an item of a server. -/
def get? (c : ItemCache) (server : Int) (item : String) : Option ItemSummary :=
  c.entries.lookup (server, item)

/-- Keeps the summary of an item of a server; a full cache is emptied first. -/
def insert (c : ItemCache) (server : Int) (item : String) (summary : ItemSummary) : ItemCache :=
  let kept := if c.size ≥ capacity then [] else c.entries.filter (·.1 != (server, item))
  { entries := ((server, item), summary) :: kept }

end ItemCache

end StreamWarden.Jellyfin
