import SheepContabil.Proof.Sc05Failure
import SheepContabil.Proof.Sc05Evidence
import SheepContabil.Proof.Sc05Frame
import SheepContabil.Proof.Sc05Restore
import SheepContabil.Spec.Sc05Cycle
import SheepContabil.Proof.Sc05Simulator
import SheepContabil.Proof.Sc05Projection
import SheepContabil.Proof.EventDetails
import SheepContabil.Proof.RunSchedule
import SheepContabil.Proof.RunFencing
import SheepContabil.Proof.UploadRequest
import SheepContabil.Proof.DocumentIntake
import SheepContabil.Proof.FinishedDocuments
import SheepContabil.Proof.DecisionEnds
import SheepContabil.Proof.Sc04Routing
import SheepContabil.Proof.Storage
import SheepContabil.Proof.Reconciliation
import SheepContabil.Proof.Sc20Phone
import SheepContabil.Proof.Sc04Numbers
import SheepContabil.Proof.Sc04Accounting
import SheepContabil.Proof.Sc06Visibility
import SheepContabil.Proof.Sc06Result
import SheepContabil.Proof.Sc06Dates
import SheepContabil.Proof.Sc06Partners
import SheepContabil.Proof.Sc06Briefing
import SheepContabil.Proof.Sc06Interpreters
import SheepContabil.Proof.Sc06EncodedAnswers
import SheepContabil.Proof.Sc06Schema
import SheepContabil.Proof.Sc20Coverage
import SheepContabil.Proof.Sc04Filename
import SheepContabil.Conc.Layer
import SheepContabil.Proof.Sc20Results
import SheepContabil.Proof.Sc04Classifier
import SheepContabil.Proof.Sc04Attempts
import SheepContabil.Proof.ReconcilerBatches
import SheepContabil.Conc.Monitor
import SheepContabil.Proof.Sc05Itinerary
import SheepContabil.Proof.Sc04Extraction
import SheepContabil.Proof.Sc04Matching
import SheepContabil.Proof.Masks
import SheepContabil.Proof.Sc06Evidence
import SheepContabil.Proof.Sc06Cleanup
import SheepContabil.Proof.Sc20Links
