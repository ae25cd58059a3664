import Retrieval.Collection
import Retrieval.Content
import Retrieval.History
import Retrieval.Proofs.Rebuild
import Retrieval.Proofs.Engine.Insertion
import Retrieval.Proofs.Engine.Effects
import Retrieval.Proofs.Engine.Reflection
import Retrieval.Proofs.Engine.Coherence
import Retrieval.Proofs.Engine.Answers
import Retrieval.Proofs.Engine.Reordering
import Retrieval.Proofs.Engine.Reading
import Retrieval.Proofs.Engine.Texts
import Retrieval.Proofs.RankOrder
import Retrieval.Proofs.Binary64
import Retrieval.Proofs.Weight
import Retrieval.Proofs.Similarity
import Retrieval.Proofs.Engine.Errors
import Retrieval.Proofs.Session.Changes
import Retrieval.Proofs.Session.Dimensions
import Retrieval.Proofs.Session.OutOfStep
import Retrieval.Proofs.Session.Elements
import Retrieval.Proofs.Session.Lifecycle
import Retrieval.Proofs.Session.Release
import Retrieval.Proofs.Engine.Unreadable
import Retrieval.Proofs.Engine.Placement
import Retrieval.Proofs.Engine.Rebuilding
import Retrieval.Proofs.Session.Recounting
import Retrieval.Proofs.Session.Rarity
import Retrieval.Proofs.Engine.Ties
import Retrieval.Proofs.Unicode.Lowercase
import Retrieval.Proofs.Tokenizer.WordRuns
import Retrieval.Proofs.Tokenizer.Separation
import Retrieval.Proofs.Tokenizer.NormalForm
import Retrieval.Proofs.Binary64.Rounding
import Retrieval.Proofs.Binary64.SquareRoot
import Retrieval.Proofs.Binary64.Order
import Retrieval.Proofs.Similarity.Scaling
import Retrieval.Proofs.Similarity.Norms
import Retrieval.Proofs.Similarity.Integers
import Retrieval.Proofs.Similarity.Symmetry
import Retrieval.Proofs.Engine.Unrelated
import Retrieval.Proofs.Decimal.Nearest
import Retrieval.Proofs.Decimal.Numeral
import Retrieval.Proofs.Engine.Descending
import Retrieval.Proofs.Engine.Rendering
import Retrieval.Proofs.Vocabulary
import Retrieval.Proofs.Tokenizer.Tally
