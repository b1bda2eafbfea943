import StreamWarden.Store.Rows
import StreamWarden.Policy.Basic
import StreamWarden.Error

/-!
# The monitor's store

The store is one value holding every table. A new row takes the id one above the largest id in
its table (1 in an empty table), so an id freed by deleting the last row is used again.

The store refuses rows that break its constraints: a reference to a row that does not exist, a
value outside the allowed ones, or a second row with the same key. A refused write is a failure
of the database; a repeated key is a conflict of the store.
-/

namespace StreamWarden

/-- A constraint of the store that a write broke. -/
inductive Constraint where
  | foreignKey
  | check (expr : String)
  | unique (columns : String)
  | primaryKey (column : String)
  deriving DecidableEq, Repr

namespace Constraint

/-- The numeric code of a broken constraint. -/
def code : Constraint → Nat
  | .foreignKey => 787
  | .check _ => 275
  | .unique _ => 2067
  | .primaryKey _ => 1555

/-- The wording of a broken constraint. -/
def text : Constraint → String
  | .foreignKey => "FOREIGN KEY constraint failed"
  | .check e => "CHECK constraint failed: " ++ e
  | .unique cols => "UNIQUE constraint failed: " ++ cols
  | .primaryKey col => "UNIQUE constraint failed: " ++ col

/-- The report of the database about a broken constraint. -/
def report (c : Constraint) : String :=
  s!"error returned from database: (code: {c.code}) " ++ c.text

/-- The failure of the monitor a broken constraint stands for: a repeated key is a conflict,
anything else a database failure. -/
def toAppError (c : Constraint) : AppError :=
  match c with
  | .unique _ | .primaryKey _ => .storeConflict c.text
  | _ => .database c.report

end Constraint

/-- Every table of the monitor. Rows of a table are kept in id order. -/
structure Store where
  settings : Option Settings := some {}
  servers : List ServerRow := []
  people : List PersonRow := []
  accounts : List AccountRow := []
  libraries : List LibraryRow := []
  policies : List PolicyRow := []
  live : List LiveRow := []
  events : List EventRow := []
  history : List HistoryRow := []
  enforcements : List EnforcementRow := []
  states : List EnforcementState := []
  deriving Inhabited

/-- The id a new row of a table takes: one above the largest. -/
def nextRowId (ids : List Nat) : Nat := ids.foldl Nat.max 0 + 1

namespace Store

/-! ### Servers and settings -/

/-- The server with an id. -/
def server? (s : Store) (id : Int) : Option ServerRow := s.servers.find? (·.id == id)

/-- The server with an id, or the failure that it is unknown. -/
def getServer (s : Store) (id : Int) : Except AppError ServerRow :=
  match s.server? id with
  | some row => .ok row
  | none => .error (.notFound "Server" (toString id))

/-- The enabled servers in id order. -/
def enabledServers (s : Store) : List ServerRow :=
  (s.servers.filter (·.isEnabled)).mergeSort fun a b => a.id ≤ b.id

/-- Records when a server was checked, and its status when one is given. -/
def updateStatus (s : Store) (id : Int) (status : Option ServerStatus) (checkedAt : Int) : Store :=
  { s with servers := s.servers.map fun row =>
      if row.id == id then { row with status := status.getD row.status, lastChecked := some checkedAt }
      else row }

/-- The global switches, or their defaults when the row is missing. -/
def currentSettings (s : Store) : Settings := s.settings.getD {}

/-- The person ids with a stream limit of their own, and the limit, in id order. -/
def streamOverrides (s : Store) : List (Int × Int) :=
  ((s.people.filterMap fun p => p.maxStreamsOverride.map (p.id, ·)).mergeSort
    fun a b => a.1 ≤ b.1)

/-! ### Setting the store up -/

/-- Adds a server. -/
def addServer (s : Store) (row : ServerRow) : Except Constraint Store :=
  if s.servers.any (·.id == row.id) then .error (.primaryKey "servers.id")
  else .ok { s with servers := s.servers ++ [row] }

/-- Adds a person. -/
def addPerson (s : Store) (row : PersonRow) : Except Constraint Store :=
  if s.people.any (·.id == row.id) then .error (.primaryKey "vodum_users.id")
  else .ok { s with people := s.people ++ [row] }

/-- Adds a server account: its server and person must exist, and a non-empty external id is
unique on its server. -/
def addAccount (s : Store) (row : AccountRow) : Except Constraint Store :=
  let external := row.externalUserId.filter (!·.isEmpty)
  if s.accounts.any (·.id == row.id) then .error (.primaryKey "media_users.id")
  else if external.isSome && s.accounts.any (fun a =>
      a.serverId == row.serverId && a.externalUserId == external) then
    .error (.unique "media_users.server_id, media_users.external_user_id")
  else if (s.server? row.serverId).isNone then .error .foreignKey
  else if (row.vodumUserId.map fun v => !s.people.any (·.id == v)).getD false then .error .foreignKey
  else .ok { s with accounts := s.accounts ++ [row] }

/-- Adds a library section: its server must exist, and a section is named once per server. -/
def addLibrary (s : Store) (serverId : Int) (sectionId name : String) : Except Constraint Store :=
  if s.libraries.any (fun l => l.serverId == serverId && l.sectionId == sectionId) then
    .error (.unique "libraries.server_id, libraries.section_id")
  else if (s.server? serverId).isNone then .error .foreignKey
  else
    let row : LibraryRow := ⟨nextRowId (s.libraries.map (·.id)), serverId, sectionId, name⟩
    .ok { s with libraries := s.libraries ++ [row] }

/-- Adds a policy: its scope and family are among the allowed ones, and its server exists. -/
def addPolicy (s : Store) (row : PolicyRow) : Except Constraint Store :=
  if !(["global", "server", "user"].contains row.scopeType) then
    .error (.check "scope_type IN ('global', 'server', 'user')")
  else if !((row.provider.map fun p => ["plex", "jellyfin"].contains p).getD true) then
    .error (.check "provider IS NULL OR provider IN ('plex', 'jellyfin')")
  else if s.policies.any (·.id == row.id) then .error (.primaryKey "stream_policies.id")
  else if (row.serverId.map fun id => (s.server? id).isNone).getD false then .error .foreignKey
  else .ok { s with policies := s.policies ++ [row] }

end Store

end StreamWarden
