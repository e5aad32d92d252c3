import Offside.Main
import Offside.CommandLine.Report
import Offside.Session.Rehearsal
import Offside.Proofs.Nesting
import Offside.Proofs.Layout
import Offside.Proofs.Locality
import Offside.Proofs.Extraction
import Offside.Proofs.Delivery
import Offside.Proofs.Offsets
import Offside.Proofs.Runs
import Offside.Proofs.Stream
import Offside.Proofs.Capacity
import Offside.Proofs.Environment
import Offside.Proofs.Representation
import Offside.Proofs.LineEndings
import Offside.Proofs.Resolution
import Offside.Proofs.Framing
import Offside.Proofs.Numerals
import Offside.Proofs.Spans
import Offside.Proofs.LineNumbers
import Offside.Proofs.Highlights
import Offside.Proofs.LineCounts
