import Lookalike.Main
import Lookalike.Proofs.FullCopy
import Lookalike.Proofs.SharedRun
import Lookalike.Proofs.Region.Incremental
import Lookalike.Proofs.Alignment.Longest
import Lookalike.Proofs.Region.Within
import Lookalike.Proofs.Visibility
import Lookalike.Proofs.WellFormed
import Lookalike.Proofs.Exchange
import Lookalike.Proofs.Pairing
import Lookalike.Proofs.Neighborhood
import Lookalike.Proofs.Containment
import Lookalike.Proofs.Ranking
import Lookalike.Proofs.Alignment.Table
import Lookalike.Proofs.RollingHash.Words
import Lookalike.Proofs.Winnowing.Selection
import Lookalike.Proofs.Overlap.Enumeration
import Lookalike.Proofs.Span.Components
import Lookalike.Proofs.Text.Bytes
import Lookalike.Proofs.Text.Position
import Lookalike.Proofs.Span.Offset
import Lookalike.Proofs.Lexed
import Lookalike.Proofs.Lexed.Overlapping
import Lookalike.Proofs.Lexed.Renaming
import Lookalike.Proofs.Overlap.Score
import Lookalike.Proofs.Report.RoundTrip
import Lookalike.Proofs.Settings.Search
import Lookalike.Proofs.Region.StopTest
import Lookalike.Proofs.Report.Emission
import Lookalike.Proofs.Files.Placement
