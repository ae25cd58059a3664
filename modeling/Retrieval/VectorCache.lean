import Retrieval.Weight
set_option autoImplicit false

/-! # The cache of document vectors

One new document can change the weight of every term in every other, so vectors are not patched:
the cache is marked as dirty, and all vectors are calculated anew when one is needed. A rebuild
that fails leaves the cache as it was. -/

namespace Retrieval

/-- The vectors of the documents by id, as of the last rebuild. -/
structure VectorCache where
  vectors : OrderedMap Int DocumentVector := .empty
  /-- The size of the vocabulary at the last rebuild. -/
  dimension : Nat := 0
  /-- Whether documents may have come since the last rebuild. -/
  dirty : Bool := false
  deriving DecidableEq, Inhabited

/-- The vectors of all records by id; of two records with one id, the later counts. -/
def documentVectors (corpus : Corpus) (vocabulary : Vocabulary) :
    Except ArithmeticError (OrderedMap Int DocumentVector) := do
  let entries ← corpus.records.mapM fun record => do
    return (record.id, ← corpus.statistics.vector vocabulary.terms record.tokens)
  return .ofList entries

namespace VectorCache

/-- The cache, marked as out of date. -/
def markDirty (cache : VectorCache) : VectorCache := { cache with dirty := true }

/-- The cache of all document vectors under the present statistics. -/
def rebuild (corpus : Corpus) (vocabulary : Vocabulary) : Except ArithmeticError VectorCache := do
  return {
    vectors := ← documentVectors corpus vocabulary
    dimension := vocabulary.size
    dirty := false }

/-- Rebuilds a dirty cache. The flag says whether it was rebuilt. -/
def refresh (cache : VectorCache) (corpus : Corpus) (vocabulary : Vocabulary) :
    Except ArithmeticError (Bool × VectorCache) :=
  if cache.dirty then do
    return (true, ← rebuild corpus vocabulary)
  else .ok (false, cache)

end VectorCache

end Retrieval
