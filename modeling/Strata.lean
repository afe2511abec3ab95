import Strata.Main
import Strata.Script.File
import Strata.Store.ConfigFile
import Strata.Proofs.MessageHistory
import Strata.Proofs.Reachable
import Strata.Proofs.StepEffect
import Strata.Proofs.JournalProgress
import Strata.Proofs.FinalChecks
import Strata.Proofs.Versions
import Strata.Proofs.Inheritance
import Strata.Proofs.Workers
import Strata.Proofs.Simulation
import Strata.Proofs.RecordHistory
import Strata.Proofs.Mismatches
import Strata.Proofs.Blocking
import Strata.Proofs.Defaults
import Strata.Proofs.Fingerprints
import Strata.Proofs.Settling
import Strata.Proofs.Emissions
import Strata.Proofs.PhoneNumbers
import Strata.Proofs.PrimaryKeys
import Strata.Proofs.Repetition
import Strata.Proofs.PreferenceOverlay
import Strata.Proofs.Themes
import Strata.Proofs.ErrorKinds
import Strata.Proofs.Insertions
import Strata.Proofs.Counts
import Strata.Proofs.Accounting
import Strata.Proofs.Validation
import Strata.Proofs.LatestMessages
import Strata.Proofs.PartOwners
import Strata.Proofs.AddressBooks
import Strata.Proofs.Headers
