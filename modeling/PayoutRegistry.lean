import PayoutRegistry.Gateway.Basic
import PayoutRegistry.Database
import PayoutRegistry.Settings.Reader
import PayoutRegistry.Proofs.Primary
import PayoutRegistry.Proofs.Codes
import PayoutRegistry.Proofs.Isolation
import PayoutRegistry.Proofs.Retry
import PayoutRegistry.Proofs.Requests
import PayoutRegistry.Proofs.Login
import PayoutRegistry.Proofs.Authentication
import PayoutRegistry.Proofs.TokenLife
import PayoutRegistry.Proofs.Secrecy
import PayoutRegistry.Proofs.Continuity
import PayoutRegistry.Proofs.Waiting
import PayoutRegistry.Proofs.Identity
import PayoutRegistry.Proofs.Statuses
import PayoutRegistry.Proofs.Handovers
import PayoutRegistry.Proofs.Boundary
import PayoutRegistry.Proofs.Gate
import PayoutRegistry.Proofs.AuditLog
import PayoutRegistry.Proofs.Verification
import PayoutRegistry.Proofs.Mail
import PayoutRegistry.Proofs.Credentials
import PayoutRegistry.Proofs.Promotion
import PayoutRegistry.Proofs.Addition
import PayoutRegistry.Proofs.DirectoryAnswers
import PayoutRegistry.Proofs.TokenExpiry
import PayoutRegistry.Proofs.Listing
import PayoutRegistry.Proofs.Guarding
import PayoutRegistry.Proofs.Deadlines
import PayoutRegistry.Proofs.TokenRoundTrip
import PayoutRegistry.Proofs.Lateness
import PayoutRegistry.Proofs.BankList
import PayoutRegistry.Proofs.LogLines
