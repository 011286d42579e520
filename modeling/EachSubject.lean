import EachSubject.Main
import EachSubject.Session
import EachSubject.Proofs.Visibility
import EachSubject.Proofs.Binding
import EachSubject.Proofs.Delegation
import EachSubject.Proofs.Overrides
import EachSubject.Proofs.World.Chains
import EachSubject.Proofs.World.Heirs
import EachSubject.Proofs.Attributes
import EachSubject.Proofs.Completion
import EachSubject.Proofs.Evaluation.Constants
import EachSubject.Proofs.Evaluation.Literals
import EachSubject.Proofs.Evaluation.References
import EachSubject.Proofs.Defaults
import EachSubject.Proofs.Described
import EachSubject.Proofs.Inheritance
import EachSubject.Proofs.Wrapper.Tokens
import EachSubject.Proofs.Wrapper.Refusals
import EachSubject.Proofs.CommandLine.Delivery
import EachSubject.Proofs.CommandLine.WrittenShapes
import EachSubject.Proofs.CommandLine.ImportStrings
import EachSubject.Proofs.FirstFailure
import EachSubject.Proofs.Hint.Readback
import EachSubject.Proofs.CommandLine.ModuleFiles
import EachSubject.Proofs.Settings.Layers
import EachSubject.Proofs.Checks.Records
