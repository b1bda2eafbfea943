import StreamWarden.Media.Error

/-!
# Failures of the monitor

Every operation of the monitor either succeeds or fails with one of these causes. The wording of
each cause is fixed by `AppError.message`, and `AppError.kindName` names the cause.
-/

namespace StreamWarden

/-- Why an operation of the monitor failed. -/
inductive AppError where
  | database (detail : String)
  | serialization (detail : String)
  | provider (e : ProviderError)
  | storeConflict (detail : String)
  | notFound (entity : String) (id : String)
  | validation (detail : String)
  | configuration (detail : String)
  | unavailable
  | other (detail : String)
  deriving DecidableEq, Repr, Inhabited

namespace AppError

/-- The wording of a failure. -/
def message : AppError → String
  | .database d => "Database error: " ++ d
  | .serialization d => "Serialization error: " ++ d
  | .provider e => "Provider error: " ++ e.message
  | .storeConflict d => "Store conflict: " ++ d
  | .notFound entity id => s!"Entity not found: {entity} with id {id}"
  | .validation d => "Validation error: " ++ d
  | .configuration d => "Configuration error: " ++ d
  | .unavailable => "Service unavailable: shutting down"
  | .other d => d

/-- The name of the cause; a media server failure is named with its kind. -/
def kindName : AppError → String
  | .database _ => "Database"
  | .serialization _ => "Serialization"
  | .provider e => "Provider." ++ e.kindName
  | .storeConflict _ => "StoreConflict"
  | .notFound _ _ => "NotFound"
  | .validation _ => "Validation"
  | .configuration _ => "Configuration"
  | .unavailable => "Unavailable"
  | .other _ => "Other"

end AppError

end StreamWarden
