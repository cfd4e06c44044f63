import RunHistory.HistoryFile
import RunHistory.Service
import RunHistory.Session
import RunHistory.Workbench
import RunHistory.Proofs.Framing.Literals
import RunHistory.Proofs.Framing.Files
import RunHistory.Proofs.Entity.Terms
import RunHistory.Proofs.State.Merging
import RunHistory.Proofs.Isolation
import RunHistory.Proofs.Refusals
import RunHistory.Proofs.Reordering
import RunHistory.Proofs.Link.Undisturbed
import RunHistory.Proofs.Link.Growing
import RunHistory.Proofs.Log
import RunHistory.Proofs.Answers
import RunHistory.Proofs.Bookkeeping
import RunHistory.Proofs.Containment
import RunHistory.Proofs.Replay
import RunHistory.Proofs.FirstFailure
import RunHistory.Proofs.Lookups
import RunHistory.Proofs.Relations
import RunHistory.Proofs.Naming
import RunHistory.Proofs.Presentation
import RunHistory.Proofs.Untouched
import RunHistory.Proofs.Entity.Lineage
import RunHistory.Proofs.Info.AsText
import RunHistory.Proofs.Workbench
