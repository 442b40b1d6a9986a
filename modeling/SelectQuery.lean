import SelectQuery.Main
import SelectQuery.Proofs.Alphabet
import SelectQuery.Proofs.Spelling
import SelectQuery.Proofs.Tiling
import SelectQuery.Proofs.Layout
import SelectQuery.Proofs.FirstFault
import SelectQuery.Proofs.Grammar
import SelectQuery.Proofs.Canonical
import SelectQuery.Proofs.RoundTrip
import SelectQuery.Proofs.Shift
import SelectQuery.Proofs.FirstMisfit
import SelectQuery.Proofs.Relabel
import SelectQuery.Proofs.Trimming
import SelectQuery.Proofs.Script
import SelectQuery.Proofs.Lines
import SelectQuery.Proofs.Pointing
import SelectQuery.Proofs.Failure
import SelectQuery.Proofs.Responses
import SelectQuery.Proofs.Dialogue
import SelectQuery.Proofs.Checked
import SelectQuery.Proofs.Checked.Scan
import SelectQuery.Proofs.Checked.Parse
import SelectQuery.Proofs.NoTrap
import SelectQuery.Proofs.Growth
import SelectQuery.Proofs.Trailing
import SelectQuery.Proofs.Ending
import SelectQuery.Proofs.Verdict
import SelectQuery.Proofs.Respelling
import SelectQuery.Proofs.Positions
import SelectQuery.Proofs.FilePlaces
import SelectQuery.Proofs.Wording
import SelectQuery.Proofs.Checked.Rounds
import SelectQuery.Proofs.Drawing
import SelectQuery.Proofs.Frames
import SelectQuery.Proofs.Logged
