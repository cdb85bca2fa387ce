import StudyPlan.Main
import StudyPlan.Plan.Edit.Json
import StudyPlan.Plan.Substitutes
import StudyPlan.Proofs.Admitting
import StudyPlan.Proofs.Agreement
import StudyPlan.Proofs.Backfilling
import StudyPlan.Proofs.Blaming
import StudyPlan.Proofs.Certainty
import StudyPlan.Proofs.Confining
import StudyPlan.Proofs.Credits
import StudyPlan.Proofs.Depending
import StudyPlan.Proofs.Keeping
import StudyPlan.Proofs.Loading
import StudyPlan.Proofs.Offering
import StudyPlan.Proofs.Overwriting
import StudyPlan.Proofs.Packing
import StudyPlan.Proofs.Rechecking
import StudyPlan.Proofs.Reloading
import StudyPlan.Proofs.Repetition
import StudyPlan.Proofs.Reporting
import StudyPlan.Proofs.Resolving
import StudyPlan.Proofs.Respelling
import StudyPlan.Proofs.Shortening
import StudyPlan.Proofs.Silence
import StudyPlan.Proofs.Narrowing
import StudyPlan.Proofs.Distinguishing
import StudyPlan.Proofs.Scanning
import StudyPlan.Proofs.FaultlessPlan
import StudyPlan.Proofs.Searching
import StudyPlan.Proofs.Transcribing
