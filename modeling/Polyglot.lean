import Polyglot.Log.Setup
import Polyglot.Main
import Polyglot.Number.Quantity
import Polyglot.Proofs.Agreement
import Polyglot.Proofs.Analysis
import Polyglot.Proofs.Asset
import Polyglot.Proofs.Decode
import Polyglot.Proofs.Frequency
import Polyglot.Proofs.Oversized
import Polyglot.Proofs.Overwriting
import Polyglot.Proofs.Records
import Polyglot.Proofs.Tally
import Polyglot.Proofs.Token
import Polyglot.Service.Reply
import Polyglot.Proofs.Grouping
import Polyglot.Proofs.Occurrences
import Polyglot.Proofs.Ranking
import Polyglot.Proofs.Decision
import Polyglot.Proofs.Election
import Polyglot.Proofs.Tested
import Polyglot.Proofs.Listing
import Polyglot.Proofs.Carrying
import Polyglot.Proofs.Parts
import Polyglot.Proofs.Renumbering
import Polyglot.Proofs.Extension
import Polyglot.Proofs.Confusion
import Polyglot.Proofs.Content
import Polyglot.Proofs.Concatenation
import Polyglot.Proofs.Relabelling
import Polyglot.Proofs.Loading
import Polyglot.Proofs.Single
import Polyglot.Proofs.Shelf
import Polyglot.Proofs.Aborting
import Polyglot.Proofs.Seam
import Polyglot.Proofs.Spacing
import Polyglot.Proofs.Shape
import Polyglot.Proofs.Positive
import Polyglot.Proofs.Mass
import Polyglot.Proofs.Choice
import Polyglot.Proofs.Interleaving
import Polyglot.Proofs.Numbering
import Polyglot.Proofs.Excess
import Polyglot.Proofs.Naming
import Polyglot.Proofs.Nesting
import Polyglot.Proofs.Handles
import Polyglot.Proofs.Observing
import Polyglot.Proofs.Isolation
import Polyglot.Proofs.Descent
import Polyglot.Proofs.Printing
import Polyglot.Proofs.Startup
