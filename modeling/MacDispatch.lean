import MacDispatch.Main
import MacDispatch.Proofs.Consent
import MacDispatch.Proofs.Introspection
import MacDispatch.Proofs.Rearrangement
import MacDispatch.Proofs.Runs
import MacDispatch.Proofs.Assembling
import MacDispatch.Proofs.Isolation
import MacDispatch.Proofs.Enablement
import MacDispatch.Proofs.Attempts
import MacDispatch.Proofs.Noninterference
import MacDispatch.Proofs.Reports
import MacDispatch.Proofs.Documents
import MacDispatch.Proofs.Repetition
import MacDispatch.Proofs.Offers
import MacDispatch.Proofs.Restriction
import MacDispatch.Proofs.Layers
import MacDispatch.Proofs.Precedence
import MacDispatch.Proofs.Records
import MacDispatch.Proofs.Registrars
import MacDispatch.Proofs.Vetoes
import MacDispatch.Proofs.Diagnostics
import MacDispatch.Proofs.BuildLog
import MacDispatch.Proofs.Spellings
import MacDispatch.Proofs.Cells
import MacDispatch.Proofs.Completion
