import Bindery.Main
import Bindery.Files.Tree
import Bindery.Proofs.Run.Schedule
import Bindery.Proofs.Manifest.RoundTrip
import Bindery.Proofs.Java.Rendering
import Bindery.Proofs.Name.Grammar
import Bindery.Proofs.Review.Rules
import Bindery.Proofs.Java.Receiver
import Bindery.Proofs.Run.Outcomes
import Bindery.Proofs.Java.Placement
import Bindery.Proofs.Command.Agreement
import Bindery.Proofs.Review.Accepted
import Bindery.Proofs.Java.Imports
import Bindery.Proofs.Java.Wrapping
import Bindery.Proofs.Manifest.Respelling
import Bindery.Proofs.Run.Histories
import Bindery.Proofs.Java.Refusals
import Bindery.Proofs.Files.Filing
import Bindery.Proofs.Java.Statements
import Bindery.Proofs.Java.Literals
import Bindery.Proofs.Java.Clashes
