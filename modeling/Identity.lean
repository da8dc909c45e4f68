import Identity.Authentication.Accounts
import Identity.Authentication.Bootstrap
import Identity.Authentication.Session
import Identity.Authorization.Decision
import Identity.Check.Checker
import Identity.Check.Remote
import Identity.Database.Statement
import Identity.Main
import Identity.Proofs.Atomicity
import Identity.Proofs.Authentication.Addresses
import Identity.Proofs.Authentication.Blocking
import Identity.Proofs.Authentication.Bootstrap
import Identity.Proofs.Authentication.Hashing
import Identity.Proofs.Authentication.Pins
import Identity.Proofs.Authentication.Records
import Identity.Proofs.Authentication.Sessions
import Identity.Proofs.Authentication.Superadmin
import Identity.Proofs.Authentication.Verification
import Identity.Proofs.Authorization.Assignments
import Identity.Proofs.Authorization.Decision
import Identity.Proofs.Authorization.Holders
import Identity.Proofs.Authorization.Records
import Identity.Proofs.Check.Checker
import Identity.Proofs.Check.Remote
import Identity.Proofs.Check.Sharing
import Identity.Proofs.Creation
import Identity.Proofs.Crypto.Parts
import Identity.Proofs.Database.Rows
import Identity.Proofs.Identifier.Address
import Identity.Proofs.Identifier.Canonical
import Identity.Proofs.Operator.Environment
import Identity.Proofs.Permission.Order
import Identity.Proofs.Principals
import Identity.Proofs.Seed.Plans
import Identity.Proofs.Store.Keyed
import Identity.Proofs.Store.Order
import Identity.Proofs.Token.Canonical
import Identity.Seed.Run
import Identity.Store.Faults
import Identity.Proofs.Text.Padded
