import LinkLedger.Text.Form
import LinkLedger.Desk
import LinkLedger.Store.Ledger
import LinkLedger.Store.Pool
import LinkLedger.Store.Faults
import LinkLedger.LinkJson
import LinkLedger.Address.Socket
import LinkLedger.CommandLine.Help
import LinkLedger.CommandLine.Parse
import LinkLedger.Gateway.Base
import LinkLedger.Gateway.Handlers
import LinkLedger.Http.Uri
import LinkLedger.Invocation
import LinkLedger.Session
import LinkLedger.Crowd
import LinkLedger.Http.Wire
import LinkLedger.Log.Moment
import LinkLedger.Main
import LinkLedger.Store.Indexes
import LinkLedger.Proofs.Runs
import LinkLedger.Proofs.Store.Coherent
import LinkLedger.Proofs.Store.Healthy
import LinkLedger.Proofs.Store.Rows
import LinkLedger.Proofs.Desk.Runs
import LinkLedger.Proofs.Desk.Agreement
import LinkLedger.Proofs.Sessions
import LinkLedger.Proofs.Store.Interchange
import LinkLedger.Proofs.Desk.Numbering
import LinkLedger.Proofs.Address.Accepted
import LinkLedger.Proofs.Json.Spelling
import LinkLedger.Proofs.Json.Written
import LinkLedger.Proofs.Gateway.Permalinks
import LinkLedger.Proofs.Gateway.Replies
import LinkLedger.Proofs.Gateway.Permanence
import LinkLedger.Proofs.Store.Reliable
import LinkLedger.Proofs.Desk.Faults
import LinkLedger.Proofs.Crowds
import LinkLedger.Proofs.Gateway.Unfailing
import LinkLedger.Proofs.Store.Lawful
import LinkLedger.Proofs.Store.Reachable
import LinkLedger.Proofs.Store.Conflicts
import LinkLedger.Proofs.Store.Lasting
import LinkLedger.Proofs.Store.Restarts
import LinkLedger.Proofs.Gateway.Redirects
import LinkLedger.Proofs.Address.Absolute
import LinkLedger.Proofs.Store.Additions
import LinkLedger.Proofs.Desk.Writing
import LinkLedger.Proofs.Gateway.Writing
import LinkLedger.Proofs.Gateway.Loops
import LinkLedger.Proofs.Exchanges
import LinkLedger.Proofs.Gateway.Discretion
import LinkLedger.Proofs.Desk.Acceptance
import LinkLedger.Proofs.Courses
import LinkLedger.Proofs.Desk.Audit
import LinkLedger.Proofs.Text.Controls
import LinkLedger.Proofs.Clarity
import LinkLedger.Proofs.Gateway.Clarity
import LinkLedger.Proofs.Jobs
import LinkLedger.Proofs.Invocations
import LinkLedger.Proofs.Store.Pairing
import LinkLedger.Proofs.Text.Escapes
import LinkLedger.Proofs.Gateway.Linking
import LinkLedger.Proofs.Gateway.Following
import LinkLedger.Proofs.Text.Numerals
import LinkLedger.Proofs.Gateway.Joining
import LinkLedger.Proofs.CommandLine.Options
import LinkLedger.Proofs.CommandLine.Addresses
import LinkLedger.Proofs.Json.Skipping
import LinkLedger.Proofs.Json.Records
import LinkLedger.Proofs.Gateway.Bodies
import LinkLedger.Proofs.Store.Insertions
import LinkLedger.Proofs.Gateway.Splitting
