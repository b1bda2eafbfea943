import StreamWarden.Error
import StreamWarden.Text.Blank
import StreamWarden.Text.Integer

/-!
# Process configuration

The monitor reads its settings from named variables; a blank value counts as unset. Numbers are
read after trimming as unsigned 64-bit integers (an optional `+`, then digits). The collection
and enforcement intervals and the provider timeout must be positive, and at least one
collection must be allowed at a time. The variables are checked in the order: collection
interval, enforcement interval, maximum backoff, provider timeout, concurrency; the first
failure is reported.
-/

namespace StreamWarden

/-- The settings of the process. Durations are whole seconds. -/
structure AppConfig where
  databaseUrl : String := "sqlite:vodum.db?mode=rwc"
  logDir : String := "./logs"
  collectIntervalSecs : Nat := 60
  enforceIntervalSecs : Nat := 60
  maxBackoffSecs : Nat := 600
  providerTimeoutSecs : Nat := 20
  maxConcurrentCollections : Nat := 4
  deriving Repr, DecidableEq

namespace AppConfig

/-- Reads a numeric variable: absent when unset or blank. -/
def number (key : String) (value : Option String) : Except AppError (Option Nat) :=
  match value with
  | none => .ok none
  | some v => match Text.parseU64? (Text.trim v) with
    | some n => .ok (some n)
    | none => .error (.configuration s!"{key} must be a non-negative integer, got '{v}'")

/-- A number of seconds that must be positive. -/
def positive (key : String) (n : Nat) : Except AppError Nat :=
  if n = 0 then .error (.configuration s!"{key} must be greater than zero") else .ok n

/-- Reads the settings from a lookup of variables. -/
def ofLookup (lookup : String → Option String) : Except AppError AppConfig := do
  let get (key : String) : Option String := (lookup key).filter fun v => !Text.isBlankText v
  let d : AppConfig := {}
  let databaseUrl := (get "DATABASE_URL").getD d.databaseUrl
  let logDir := (get "LOG_DIR").getD d.logDir
  let collect ← match ← number "VODUM_COLLECT_INTERVAL_SECS" (get "VODUM_COLLECT_INTERVAL_SECS") with
    | some n => positive "VODUM_COLLECT_INTERVAL_SECS" n
    | none => pure d.collectIntervalSecs
  let enforce ← match ← number "VODUM_ENFORCE_INTERVAL_SECS" (get "VODUM_ENFORCE_INTERVAL_SECS") with
    | some n => positive "VODUM_ENFORCE_INTERVAL_SECS" n
    | none => pure d.enforceIntervalSecs
  let backoff := (← number "VODUM_MAX_BACKOFF_SECS" (get "VODUM_MAX_BACKOFF_SECS")).getD d.maxBackoffSecs
  let timeout ← match ← number "VODUM_PROVIDER_TIMEOUT_SECS" (get "VODUM_PROVIDER_TIMEOUT_SECS") with
    | some n => positive "VODUM_PROVIDER_TIMEOUT_SECS" n
    | none => pure d.providerTimeoutSecs
  let concurrency ← match ← number "VODUM_MAX_CONCURRENT_COLLECTIONS"
      (get "VODUM_MAX_CONCURRENT_COLLECTIONS") with
    | some n => if n = 0 then
        throw (.configuration "VODUM_MAX_CONCURRENT_COLLECTIONS must be at least 1") else pure n
    | none => pure d.maxConcurrentCollections
  pure { databaseUrl, logDir, collectIntervalSecs := collect, enforceIntervalSecs := enforce,
         maxBackoffSecs := backoff, providerTimeoutSecs := timeout,
         maxConcurrentCollections := concurrency }

end AppConfig

end StreamWarden
