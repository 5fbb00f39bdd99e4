import Accessors.Main
import Accessors.Proofs.Generation.Atomicity
import Accessors.Proofs.Generation.Members
import Accessors.Proofs.Generation.Progress
import Accessors.Proofs.Generation.Session
import Accessors.Proofs.Timeline
import Accessors.Proofs.Retention
import Accessors.Proofs.Json.Reading
import Accessors.Proofs.Json.Decoding
import Accessors.Proofs.Model.TypeDescriptor
import Accessors.Proofs.Model.Codec
import Accessors.Proofs.Reloading
import Accessors.Proofs.Files
import Accessors.Proofs.Rerunning
import Accessors.Proofs.Paths
import Accessors.Proofs.Submission
import Accessors.Proofs.Generation.Accounting
import Accessors.Proofs.Generation.Reordering
import Accessors.Proofs.Naming
import Accessors.Proofs.Protocol
import Accessors.Proofs.Staging
import Accessors.Proofs.Fingerprint
import Accessors.Proofs.Model.TypeGrammar
import Accessors.Proofs.Synthesis
import Accessors.Proofs.Addressing
import Accessors.Proofs.Settings.Loading
