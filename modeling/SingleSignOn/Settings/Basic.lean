import SingleSignOn.Service.Basic
import SingleSignOn.Settings.CommandLine

namespace SingleSignOn

/-!
# Settings

Everything that an operator can set.  Lifetimes are bounded where they are
read, so that a service that starts never fails to issue a token because of
its settings.
-/

open CommandLine (Setting Kind Value Given Fault)

/-- How log lines are written. -/
inductive LogFormat where
  | text
  | json
  deriving DecidableEq, Repr

/-- The connections to the database; times in seconds. -/
structure DatabaseSettings where
  url : String
  maxConnections : Nat
  minConnections : Nat
  acquireTimeout : Nat
  idleTimeout : Nat
  maxLifetime : Nat
  deriving DecidableEq, Repr

/-- The ports that are listened on. -/
structure ServerSettings where
  host : String
  port : Nat
  managementPort : Nat
  /-- Seconds that background tasks are given to end. -/
  shutdownTimeout : Nat
  deriving DecidableEq, Repr

/-- All settings. -/
structure Settings where
  database : DatabaseSettings
  server : ServerSettings
  auth : AuthSettings
  cost : Password.Cost
  /-- Seconds; zero disables the sweeper. -/
  sweepInterval : Nat
  logFormat : LogFormat
  /-- Where telemetry is exported to, if it is. -/
  exportEndpoint : Option String
  deriving DecidableEq, Repr

namespace Settings

/-- The greatest unsigned 32-bit number. -/
def uint32Max : Nat := 4294967295

/-- The greatest unsigned 64-bit number. -/
def uint64Max : Nat := 18446744073709551615

/-- An option for a number with a default. -/
def numbered (name environmentName : String) (kind : Kind) (fallback : Int) (purpose : String) : Setting :=
  ⟨name, environmentName, kind, some (.number fallback), false, purpose⟩

/-- Every option, in the order in which the environment is looked through. -/
def options : List Setting :=
  [⟨"database-url", "SSO_DATABASE_URL", .text, none, false, "Database connection URL"⟩,
   numbered "max-connections" "SSO_DB_MAX_CONNECTIONS" (.signed 0 uint32Max) 20
     "Maximum number of pooled connections",
   numbered "min-connections" "SSO_DB_MIN_CONNECTIONS" (.signed 0 uint32Max) 2
     "Minimum number of idle connections kept open",
   numbered "acquire-timeout-secs" "SSO_DB_ACQUIRE_TIMEOUT_SECS" (.unsigned 0 uint64Max) 5
     "Seconds to wait for a free connection",
   numbered "idle-timeout-secs" "SSO_DB_IDLE_TIMEOUT_SECS" (.unsigned 0 uint64Max) 600
     "Seconds before an idle connection is closed",
   numbered "max-lifetime-secs" "SSO_DB_MAX_LIFETIME_SECS" (.unsigned 0 uint64Max) 1800
     "Maximum lifetime of a connection in seconds",
   ⟨"host", "SSO_HOST", .text, some (.text "0.0.0.0"), false, "Host to listen on"⟩,
   numbered "port" "SSO_PORT" (.signed 0 65535) 44044 "Port for the public interface",
   numbered "mgmt-port" "SSO_MGMT_PORT" (.signed 0 65535) 44045 "Port for probes and administration",
   numbered "shutdown-timeout-secs" "SSO_SHUTDOWN_TIMEOUT_SECS" (.unsigned 0 uint64Max) 5
     "Seconds to wait for background tasks on shutdown",
   numbered "access-token-ttl-secs" "SSO_ACCESS_TOKEN_TTL_SECS" (.unsigned 1 31536000) 3600
     "Lifetime of an access token in seconds, at most one year",
   numbered "refresh-token-ttl-days" "SSO_REFRESH_TOKEN_TTL_DAYS" (.signed 1 3650) 30
     "Lifetime of a refresh token in days, at most ten years",
   numbered "store-timeout-ms" "SSO_STORE_TIMEOUT_MS" (.unsigned 0 uint64Max) 5000
     "Upper bound for any single store call in milliseconds",
   numbered "m-cost" "SSO_ARGON2_M_COST" (.signed 0 uint32Max) 19456 "Memory of a password hash in KiB",
   numbered "t-cost" "SSO_ARGON2_T_COST" (.signed 0 uint32Max) 2 "Passes of a password hash",
   numbered "p-cost" "SSO_ARGON2_P_COST" (.signed 0 uint32Max) 1 "Lanes of a password hash",
   numbered "sweep-interval-secs" "SSO_SWEEP_INTERVAL_SECS" (.unsigned 0 uint64Max) 86400
     "Seconds between sweeps of expired refresh tokens, 0 for none",
   ⟨"log-format", "SSO_LOG_FORMAT", .word ["text", "json"], some (.text "text"), false, "Format of log lines"⟩,
   ⟨"otlp-endpoint", "SSO_OTLP_ENDPOINT", .text, none, true, "Where telemetry is exported to"⟩]

/-- The value of an option, given or by default. -/
def valueOf? (given : Given) (name : String) : Option Value :=
  match given.lookup name with
  | some value => some value
  | none => (options.find? fun setting => setting.name == name).bind Setting.fallback

/-- The text of an option. -/
def textOf (given : Given) (name : String) : String :=
  match valueOf? given name with
  | some (.text value) => value
  | _ => ""

/-- The integer of an option. -/
def integerOf (given : Given) (name : String) : Int :=
  match valueOf? given name with
  | some (.number value) => value
  | _ => 0

/-- The number of an option. -/
def numberOf (given : Given) (name : String) : Nat :=
  (integerOf given name).toNat

/-- The settings that a complete set of values makes. -/
def ofGiven (given : Given) : Settings where
  database := ⟨textOf given "database-url", numberOf given "max-connections", numberOf given "min-connections",
    numberOf given "acquire-timeout-secs", numberOf given "idle-timeout-secs",
    numberOf given "max-lifetime-secs"⟩
  server := ⟨textOf given "host", numberOf given "port", numberOf given "mgmt-port",
    numberOf given "shutdown-timeout-secs"⟩
  auth := ⟨numberOf given "access-token-ttl-secs", integerOf given "refresh-token-ttl-days",
    numberOf given "store-timeout-ms"⟩
  cost := ⟨numberOf given "m-cost", numberOf given "t-cost", numberOf given "p-cost"⟩
  sweepInterval := numberOf given "sweep-interval-secs"
  logFormat := if textOf given "log-format" = "json" then .json else .text
  exportEndpoint := match valueOf? given "otlp-endpoint" with
    | some (.text value) => some value
    | _ => none

/-- Reads the settings of a run. -/
def read (words : List String) (environment : String -> Option String) : Except Fault Settings :=
  (CommandLine.read options words environment).map ofGiven

/-- The name and version that a run gives itself. -/
def version : String := "tenant-sso 0.1.0"

end Settings

end SingleSignOn
