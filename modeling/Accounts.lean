import Accounts.Text.Base64
import Accounts.Text.Percent
import Accounts.Hash.Sha256
import Accounts.Hash.Argon2
import Accounts.Time.Lenient
import Accounts.Error
import Accounts.Outbox
import Accounts.Page
import Accounts.User
import Accounts.Store.Memory
import Accounts.Store.Database
import Accounts.Store.Listing
import Accounts.Store.Maintenance
import Accounts.Store.Migration
import Accounts.Program
import Accounts.Password.Hash
import Accounts.Action.Verification
import Accounts.Action.Account
import Accounts.Action.Session
import Accounts.Relay.Loop
import Accounts.Mail.Mailer
import Accounts.Startup
import Accounts.Http.Handler
import Accounts.Main
import Accounts.Proofs.Store.Ids
import Accounts.Proofs.Run.Interleaving
import Accounts.Proofs.Run.Superseded
import Accounts.Proofs.Relay.Delivery
import Accounts.Proofs.Run.Steps
import Accounts.Proofs.Run.Winner
import Accounts.Proofs.Store.Latest
import Accounts.Proofs.Run.Cooldown
import Accounts.Proofs.Run.Guards
import Accounts.Proofs.Run.Undone
import Accounts.Proofs.Run.Agreement
import Accounts.Proofs.Relay.Settlement
import Accounts.Proofs.Run.Spent
import Accounts.Proofs.Session.Kinds
import Accounts.Proofs.Store.Accounts
import Accounts.Proofs.Http.Sessions
import Accounts.Proofs.Password.Hash
import Accounts.Proofs.Run.Listing
import Accounts.Proofs.Session.Window
import Accounts.Proofs.Relay.Turns
import Accounts.Proofs.Run.Errands
import Accounts.Proofs.Session.Verified
import Accounts.Proofs.Store.Guarded
import Accounts.Proofs.Run.Lanes
import Accounts.Proofs.Run.Passwords
import Accounts.Proofs.Run.Overflow
import Accounts.Proofs.Relay.Payloads
import Accounts.Proofs.Http.Link
import Accounts.Proofs.Relay.Envelopes
import Accounts.Proofs.Session.Refresh
import Accounts.Proofs.Http.Profiles
