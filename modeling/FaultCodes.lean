import FaultCodes.Listing.Reading
import FaultCodes.Boundary
import FaultCodes.Fault.Wire
import FaultCodes.Tables.Recorded
import FaultCodes.Columns.Store
import FaultCodes.Session
import FaultCodes.Proofs.Classification
import FaultCodes.Proofs.Rules
import FaultCodes.Proofs.Session
import FaultCodes.Proofs.Columns
import FaultCodes.Proofs.Log
import FaultCodes.Proofs.Listing
import FaultCodes.Proofs.Channels
import FaultCodes.Proofs.JsonText
import FaultCodes.Proofs.Wire
import FaultCodes.Proofs.ReadBack
import FaultCodes.Proofs.Precedence
import FaultCodes.Proofs.Join
import FaultCodes.Proofs.Grammar
import FaultCodes.Proofs.Expansion
import FaultCodes.Proofs.Slices
import FaultCodes.Proofs.ControlSequence
import FaultCodes.Proofs.TableAnswers
import FaultCodes.Proofs.Members
import FaultCodes.Proofs.Settings
import FaultCodes.Proofs.LogFields
import FaultCodes.Proofs.Changes
import FaultCodes.Proofs.Building
import FaultCodes.Proofs.Attachments
