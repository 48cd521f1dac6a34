import SingleSignOn.AccessToken.Header
import SingleSignOn.AccessToken.Payload
import SingleSignOn.AccessToken.Signer
import SingleSignOn.Api.Answer
import SingleSignOn.Api.Management
import SingleSignOn.Api.Public
import SingleSignOn.Api.Records
import SingleSignOn.Api.Traffic
import SingleSignOn.Bytes
import SingleSignOn.Digest.Argon2
import SingleSignOn.Digest.Blake2b
import SingleSignOn.Digest.Constants
import SingleSignOn.Digest.Sha2
import SingleSignOn.Error
import SingleSignOn.Http.Handling
import SingleSignOn.Http.MediaType
import SingleSignOn.Http.Message
import SingleSignOn.Http.RequestId
import SingleSignOn.Http.Routing
import SingleSignOn.Http.Target
import SingleSignOn.Identity.App
import SingleSignOn.Identity.Session
import SingleSignOn.Identity.User
import SingleSignOn.Json.Number
import SingleSignOn.Json.Parsed
import SingleSignOn.Json.Shape
import SingleSignOn.Json.Text
import SingleSignOn.Json.Value
import SingleSignOn.Log.Directive
import SingleSignOn.Log.Event
import SingleSignOn.Log.Filter
import SingleSignOn.Log.Line
import SingleSignOn.Log.Panic
import SingleSignOn.Log.Telemetry
import SingleSignOn.Main
import SingleSignOn.Outline.Basic
import SingleSignOn.Outline.Records
import SingleSignOn.Password.Hasher
import SingleSignOn.Password.StoredHash
import SingleSignOn.Primitives
import SingleSignOn.Proofs.AccessToken.Acceptance
import SingleSignOn.Proofs.AccessToken.Agreement
import SingleSignOn.Proofs.AccessToken.Forgery
import SingleSignOn.Proofs.AccessToken.Lifetime
import SingleSignOn.Proofs.AccessToken.Parts
import SingleSignOn.Proofs.AccessToken.RoundTrip
import SingleSignOn.Proofs.AccessToken.Validation
import SingleSignOn.Proofs.Api.Discretion
import SingleSignOn.Proofs.Api.Endpoints
import SingleSignOn.Proofs.Api.OwnAccount
import SingleSignOn.Proofs.Api.Sweeping
import SingleSignOn.Proofs.Api.Waiting
import SingleSignOn.Proofs.History.Accounts
import SingleSignOn.Proofs.History.Admins
import SingleSignOn.Proofs.History.Credentials
import SingleSignOn.Proofs.History.Description
import SingleSignOn.Proofs.History.Ledger
import SingleSignOn.Proofs.History.RefreshLaw
import SingleSignOn.Proofs.History.Refreshing
import SingleSignOn.Proofs.History.Serving
import SingleSignOn.Proofs.History.Tokens
import SingleSignOn.Proofs.Json.Rendering
import SingleSignOn.Proofs.Json.Shapes
import SingleSignOn.Proofs.Json.Text
import SingleSignOn.Proofs.Password.RoundTrip
import SingleSignOn.Proofs.Program.Assurance
import SingleSignOn.Proofs.Program.Conduct
import SingleSignOn.Proofs.Program.Discipline
import SingleSignOn.Proofs.Program.InStep
import SingleSignOn.Proofs.Program.Interleaving
import SingleSignOn.Proofs.Program.Parallel
import SingleSignOn.Proofs.Program.Running
import SingleSignOn.Proofs.Program.UnderMishaps
import SingleSignOn.Proofs.Program.Waiting
import SingleSignOn.Proofs.RefreshToken.AtRest
import SingleSignOn.Proofs.RefreshToken.Lineage
import SingleSignOn.Proofs.RefreshToken.Living
import SingleSignOn.Proofs.RefreshToken.OnePerPair
import SingleSignOn.Proofs.RefreshToken.OverlappingLogins
import SingleSignOn.Proofs.RefreshToken.Race
import SingleSignOn.Proofs.RefreshToken.Refusal
import SingleSignOn.Proofs.RefreshToken.Revocation
import SingleSignOn.Proofs.RefreshToken.SingleUse
import SingleSignOn.Proofs.RefreshToken.Stage
import SingleSignOn.Proofs.Service.Accounts
import SingleSignOn.Proofs.Service.Deletion
import SingleSignOn.Proofs.Service.Discretion
import SingleSignOn.Proofs.Service.Entry
import SingleSignOn.Proofs.Service.Exchange
import SingleSignOn.Proofs.Service.Expiry
import SingleSignOn.Proofs.Service.Kinds
import SingleSignOn.Proofs.Service.Login
import SingleSignOn.Proofs.Service.Opening
import SingleSignOn.Proofs.Service.Outcome
import SingleSignOn.Proofs.Service.PasswordChange
import SingleSignOn.Proofs.Service.References
import SingleSignOn.Proofs.Service.Renewal
import SingleSignOn.Proofs.Service.Standing
import SingleSignOn.Proofs.Service.SweeperObserved
import SingleSignOn.Proofs.Service.SweeperWorker
import SingleSignOn.Proofs.Service.Sweeping
import SingleSignOn.Proofs.Service.Waiting
import SingleSignOn.Proofs.Service.Withstanding
import SingleSignOn.Proofs.Settings.Bounds
import SingleSignOn.Proofs.Store.AccessPaths
import SingleSignOn.Proofs.Store.Filing
import SingleSignOn.Proofs.Store.Indexing
import SingleSignOn.Proofs.Store.OneUser
import SingleSignOn.Proofs.Store.Overtaking
import SingleSignOn.Proofs.Store.Redaction
import SingleSignOn.Proofs.Store.References
import SingleSignOn.Proofs.Store.Refinement
import SingleSignOn.Proofs.Store.Rows
import SingleSignOn.Proofs.Store.TokenCalls
import SingleSignOn.Proofs.Text.Base64
import SingleSignOn.Proofs.Text.Decimal
import SingleSignOn.Service.Accounts
import SingleSignOn.Service.Apps
import SingleSignOn.Service.Basic
import SingleSignOn.Service.Call
import SingleSignOn.Service.Health
import SingleSignOn.Service.History
import SingleSignOn.Service.Interleaving
import SingleSignOn.Service.Requests
import SingleSignOn.Service.Sessions
import SingleSignOn.Service.Sweeper
import SingleSignOn.Service.SweeperRun
import SingleSignOn.Service.SweeperWorker
import SingleSignOn.Settings.Basic
import SingleSignOn.Settings.CommandLine
import SingleSignOn.Settings.Usage
import SingleSignOn.Shutdown
import SingleSignOn.Sql.Migration
import SingleSignOn.Sql.Record
import SingleSignOn.Sql.Statement
import SingleSignOn.Sql.Stores
import SingleSignOn.Store.Access
import SingleSignOn.Store.Call
import SingleSignOn.Store.Credentials
import SingleSignOn.Store.Faults
import SingleSignOn.Store.Mishap
import SingleSignOn.Store.Program
import SingleSignOn.Store.Race
import SingleSignOn.Store.RefreshTokens
import SingleSignOn.Store.Site
import SingleSignOn.Store.Step
import SingleSignOn.Store.Tables
import SingleSignOn.Store.Timetable
import SingleSignOn.Store.Waiting
import SingleSignOn.Store.World
import SingleSignOn.Text.Alphanumeric
import SingleSignOn.Text.Base64
import SingleSignOn.Text.Blank
import SingleSignOn.Text.CharSet
import SingleSignOn.Text.Decimal
import SingleSignOn.Text.Hidden
import SingleSignOn.Text.Pattern
import SingleSignOn.Text.Pattern.Notation
import SingleSignOn.Text.Quoted
import SingleSignOn.Text.Uri
import SingleSignOn.Time.Calendar
import SingleSignOn.Time.Instant
