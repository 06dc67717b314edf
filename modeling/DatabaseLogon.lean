import DatabaseLogon.Client.Loading
import DatabaseLogon.Dsn.Printer
import DatabaseLogon.ExecResult
import DatabaseLogon.Session.Run
import DatabaseLogon.Text.Utf8.Lemmas
import DatabaseLogon.Proofs.RoundTrip
import DatabaseLogon.Proofs.Sequence
import DatabaseLogon.Proofs.Sessions
import DatabaseLogon.Proofs.Diagnostics
import DatabaseLogon.Proofs.FirstFailure
import DatabaseLogon.Proofs.Issued
import DatabaseLogon.Proofs.Meaning
import DatabaseLogon.Proofs.Secrecy
import DatabaseLogon.Proofs.Timeout
import DatabaseLogon.Proofs.Closing
import DatabaseLogon.Proofs.Building
import DatabaseLogon.Proofs.Apart
import DatabaseLogon.Proofs.Transactions
import DatabaseLogon.Proofs.Reports
import DatabaseLogon.Proofs.Strays
import DatabaseLogon.Proofs.Buffer
import DatabaseLogon.Proofs.HostWalk
import DatabaseLogon.Proofs.Placeholders
import DatabaseLogon.Proofs.Prefetch
