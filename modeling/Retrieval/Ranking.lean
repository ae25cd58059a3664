import Retrieval.Decimal
import Retrieval.OrderedMap
import Retrieval.Similarity
set_option autoImplicit false

/-! # Ranking

All vectors are compared with the query and ordered by falling similarity; equally similar ones
keep the order of their ids. A limit cuts the list before any text is read, and a hit is the text of
a document with its similarity. -/

namespace Retrieval

/-! ## Hits -/

/-- A document found, and how similar it is to the query. -/
structure Hit (τ : Type) where
  text : τ
  similarity : Binary64
  deriving DecidableEq

namespace Hit

/-- A hit with a similarity that is any number; an integer must have a nearest double. -/
def ofNumber {τ : Type} (text : τ) (similarity : Number) : Except ArithmeticError (Hit τ) := do
  return { text, similarity := ← similarity.toDouble }

/-- The written form of a hit, with four decimals of the similarity. -/
def render (hit : Hit String) : String :=
  "SearchHit\x7btext='" ++ hit.text ++ "', similarity=" ++ hit.similarity.toFixed 4 ++ "\x7d"

end Hit

/-! ## Limits -/

/-- How many hits are wanted at most. -/
inductive Limit where
  | unbounded
  | count (n : Int)
  /-- A limit that is a double: it is compared with zero, but cannot cut a list. -/
  | real (x : Binary64)
  /-- A value that cannot even be compared with zero. -/
  | unordered (kind : ValueKind)

namespace Limit

/-- Whether the limit leaves no hit at all, being zero or negative. -/
def excludesAll : Limit → Except Error Bool
  | unbounded => .ok false
  | count n => .ok (decide (n ≤ 0))
  | real x => .ok (x.le .zero)
  | unordered kind => .error (.unorderedLimit kind)

/-- The part of a list of hits within a limit that leaves some. -/
def cut {α : Type} (hits : List α) : Limit → Except Error (List α)
  | unbounded => .ok hits
  | count n => .ok (hits.take n.toNat)
  | real _ => .error .fractionalLimit
  | unordered kind => .error (.unorderedLimit kind)

end Limit

/-! ## Scores -/

/-- The similarity of each vector to the query, in the order of the ids. -/
def score (query : List Number) (vectors : OrderedMap Int (List Number)) :
    Except VectorError (List (Int × Binary64)) :=
  (vectors.entries.mergeSort (fun a b => decide (a.1 ≤ b.1))).mapM fun entry => do
    return (entry.1, ← cosine query entry.2)

/-- Scores in the order of falling similarity; equal ones stay as they were. If one of them is not a
number, the comparison is no order: another stable sort may leave the scores in another order then,
and no order is promised. -/
def sortBySimilarity (scores : List (Int × Binary64)) : List (Int × Binary64) :=
  scores.mergeSort (fun a b => b.2.le a.2)

/-- The hits of a query among the vectors, within a limit. The texts are read in the order of the
hits, and only theirs. -/
def rank {τ : Type} (query : List Number) (vectors : OrderedMap Int (List Number))
    (textOf : Int → Except Error τ) (limit : Limit) : Except Error (List (Hit τ)) := do
  if ← limit.excludesAll then return []
  let scores ← (score query vectors).mapError VectorError.toError
  let kept ← limit.cut (sortBySimilarity scores)
  kept.mapM fun entry => do
    return { text := ← textOf entry.1, similarity := entry.2 }

end Retrieval
