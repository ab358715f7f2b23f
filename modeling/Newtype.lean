import Newtype.Batch.Output
import Newtype.Expansion
import Newtype.Number.Decimal
import Newtype.Number.Integer
import Newtype.Number.Shortest
import Newtype.Number.Uuid
import Newtype.Catalog.Buffer
import Newtype.Catalog.Samples
import Newtype.Proofs.Arguments
import Newtype.Proofs.Order
import Newtype.Proofs.Resolution
import Newtype.Proofs.Graph
import Newtype.Proofs.Run
import Newtype.Proofs.Traits
import Newtype.Proofs.Expansion
import Newtype.Proofs.Rearrangement
import Newtype.Proofs.Outcomes
import Newtype.Proofs.Locality
import Newtype.Proofs.Members
import Newtype.Proofs.Store
import Newtype.Proofs.Output
import Newtype.Proofs.Refusals
import Newtype.Proofs.Cancellation
import Newtype.Proofs.Validity
import Newtype.Proofs.Amounts
import Newtype.Proofs.Phrases
import Newtype.Proofs.MemberPhrases
import Newtype.Proofs.Construction
import Newtype.Proofs.Owners
import Newtype.Proofs.Backing
import Newtype.Proofs.Moved
import Newtype.Proofs.Scoping
import Newtype.Proofs.Difference
import Newtype.Proofs.Shadowing
import Newtype.Proofs.Operators
import Newtype.Proofs.Supertraits
import Newtype.Proofs.Reach
import Newtype.Proofs.Nesting
import Newtype.Proofs.Alignment
import Newtype.Proofs.Countdown
import Newtype.Proofs.Cycles
import Newtype.Proofs.Addresses
import Newtype.Proofs.Imports
import Newtype.Proofs.Registry
import Newtype.Proofs.Encoding
import Newtype.Proofs.Formatting
import Newtype.Proofs.Histories
import Newtype.Proofs.Aliases
import Newtype.Proofs.Quoting
import Newtype.Proofs.Lexemes
import Newtype.Proofs.RejectionText
import Newtype.Proofs.Reading
import Newtype.Proofs.PathReading
import Newtype.Proofs.PlainPaths
