import Retrieval.Ranking
import Retrieval.Tokenizer
import Retrieval.Weight
set_option autoImplicit false

/-! # Answers without a cache

What an engine answers depends only on the documents that were added and on how texts are read at
present. Here the answers are calculated from those alone: the vocabulary, the statistics and all
vectors are made anew from the list of documents for every query, and nothing is kept. -/

namespace Retrieval

/-- The documents that were added, in order, with the tokenizer that they were added under. -/
structure Collection (τ : Type) where
  tokenizer : Tokenizer τ
  documents : List τ

namespace Collection

variable {τ : Type}

/-- The tokens of each document. -/
def tokens (collection : Collection τ) : List Tokens :=
  collection.documents.filterMap fun document => (collection.tokenizer document).toOption

/-- The different terms of all documents, in the order of their first occurrence. -/
def terms (collection : Collection τ) : List String :=
  (collection.tokens.flatMap Tokens.terms).eraseDups

/-- The number of documents, and the number of those that hold a term. -/
def statistics (collection : Collection τ) : Statistics where
  total := .int collection.tokens.length
  frequency term := .int (collection.tokens.countP fun tokens => tokens.terms.contains term)

/-- The vector of each document. -/
def vectors (collection : Collection τ) : Except Error (List DocumentVector) :=
  (collection.tokens.mapM (collection.statistics.vector collection.terms)).mapError .arithmetic

/-- The vector of a query, unless it holds no term of any document. -/
def queryVector (collection : Collection τ) (query : τ) : Except Error (Option DocumentVector) :=
  match collection.tokenizer query with
  | .error failure => .error (.read (.untokenized failure))
  | .ok tokens =>
    if tokens.terms.any collection.terms.contains then
      (some <$> collection.statistics.vector collection.terms tokens).mapError .arithmetic
    else .ok none

/-- Vectors numbered from zero. -/
def numbered (vectors : List DocumentVector) : List (Int × List Number) :=
  vectors.mapIdx fun id vector => ((id : Int), vector.map .double)

/-- The documents most similar to a query, within a limit, with the texts that are read for
them. -/
def search (collection : Collection τ) (textOf : Int → Except Error τ) (query : τ)
    (limit : Limit) : Except Error (List (Hit τ)) := do
  if ← limit.excludesAll then return []
  let vectors ← collection.vectors
  match ← collection.queryVector query with
  | none => return []
  | some vector =>
    rank (vector.map .double) (OrderedMap.ofList (numbered vectors)) textOf limit

/-- The vector of a document. -/
def documentVector (collection : Collection τ) (id : Int) : Except Error DocumentVector := do
  let vectors ← collection.vectors
  if 0 ≤ id then
    match vectors[id.toNat]? with
    | some vector => return vector
    | none => throw (.noVector id)
  else throw (.noVector id)

end Collection

end Retrieval
