import Retrieval.Engine
set_option autoImplicit false

/-! # Outcomes of steps

What is seen of a step: the value that it gave or the error, and the sizes and flags of the engine
after it. -/

namespace Retrieval

/-- The sizes and flags of an engine. -/
structure Snapshot where
  closed : Bool
  /-- The number of records. -/
  documents : Nat
  /-- The number of documents according to the statistics. -/
  total : Number
  /-- The number of terms that have a document frequency. -/
  frequencies : Nat
  vocabulary : Nat
  dirty : Bool
  /-- The number of vectors in the cache. -/
  cached : Nat
  /-- The size of the vocabulary at the last rebuild of the cache. -/
  dimension : Nat
  /-- The number of texts in the store. -/
  stored : Nat
  released : Bool

/-- What is seen of an engine at a moment. -/
def Engine.snapshot {τ : Type} (engine : Engine τ) : Snapshot where
  closed := engine.closed
  documents := engine.size
  total := engine.corpus.total
  frequencies := engine.corpus.frequencies.size
  vocabulary := engine.vocabulary.size
  dirty := engine.cache.dirty
  cached := engine.cache.vectors.size
  dimension := engine.cache.dimension
  stored := engine.store.size
  released := engine.store.released

/-- The values that steps give. -/
inductive Reply (τ : Type) where
  | done
  | flag (value : Bool)
  | size (value : Nat)
  | position (value : Int)
  | number (value : Number)
  | double (value : Binary64)
  | text (text : τ)
  | texts (texts : List τ)
  | hits (hits : List (Hit τ))
  | vector (vector : DocumentVector)
  /-- The vector of a query, unless it has none. -/
  | queryVector (vector : Option DocumentVector)
  | record (record : Record)
  | terms (terms : List String)
  /-- The dimension of a term, unless it is unknown. -/
  | dimension (dimension : Option Nat)
  | frequencies (entries : List (String × Number))
  | vectors (entries : List (Int × DocumentVector))
  /-- What is seen of the steps of a block. -/
  | block (outcomes : List (Except Error (Reply τ) × Snapshot))

/-- What is seen of a step. -/
abbrev Outcome (τ : Type) := Except Error (Reply τ) × Snapshot

end Retrieval
