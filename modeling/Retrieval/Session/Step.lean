import Retrieval.Engine
set_option autoImplicit false

/-! # Steps of a session

A session is a list of steps on one engine. Some are calls of the engine itself; others reach past
it to one of its parts, and may put it into states that its own calls never lead to. A block is a
list of steps at whose end the engine is closed. -/

namespace Retrieval

/-- Calls of an engine. -/
inductive Operation (τ : Type) where
  | insert (text : τ)
  | search (query : τ) (limit : Limit)
  | allDocuments
  | vocabularySize
  | totalDocuments
  | size
  | documentFrequency (term : String)
  | documentVector (id : Int)
  | close

/-- Steps on the corpus of an engine. -/
inductive CorpusStep (τ : Type) where
  | addDocument (text : τ)
  | recount
  | frequency (term : String)
  | total
  | record (position : Int)
  | text (id : Int)
  | texts
  | frequencies
  | setTotal (total : Number)
  | setFrequency (term : String) (frequency : Number)
  | push (record : Record)

/-- Steps on the vocabulary of an engine. -/
inductive VocabularyStep where
  | observe (terms : List String)
  | dimension (term : String)
  | terms
  | contains (term : String)

/-- Steps on the cache of vectors of an engine. -/
inductive CacheStep where
  | markDirty
  | refresh
  | isDirty
  | vector (id : Int)
  | vectors

/-- Calculations of weights under the statistics of an engine. -/
inductive WeightStep (τ : Type) where
  | termFrequency (tokens : Tokens) (term : String)
  | inverseFrequency (term : String)
  | vector (tokens : Tokens)
  | documentVector (position : Int)
  | queryVector (query : τ)

/-! ## Changing the conduct of a store -/

/-- The kinds of failure that a store can be told to show. -/
inductive FailureKind where
  | system
  | lookup
  | value
  deriving DecidableEq, Repr

/-- A failure of a kind, with a text that reports it. -/
def FailureKind.failure (message : String) : FailureKind → Failure
  | system => .system message
  | lookup => .lookup message
  | value => .value message

/-- A change of the conduct of a store; what is not given stays as it is. -/
structure ConductChange where
  writes : Option (Option FailureKind) := none
  reads : Option (Option FailureKind) := none
  /-- The positions that fail, or none for all of them. -/
  unreadable : Option (Option (List Int)) := none
  closing : Option (Option FailureKind) := none
  offset : Option Int := none

/-- The conduct after a change. -/
def ConductChange.apply (change : ConductChange) (conduct : Conduct) : Conduct where
  writeFailure := (change.writes.map (·.map (·.failure "disk full"))).getD conduct.writeFailure
  readFailure :=
    (change.reads.map (fun kind _ => kind.map (·.failure "read error"))).getD conduct.readFailure
  unreadable :=
    (change.unreadable.map fun positions position =>
      (positions.map (·.contains position)).getD true).getD conduct.unreadable
  closeFailure :=
    (change.closing.map (·.map (·.failure "cannot close"))).getD conduct.closeFailure
  offset := change.offset.getD conduct.offset

/-- Steps on the text store of an engine. -/
inductive StoreStep (τ : Type) where
  | append (text : τ)
  | get (position : Int)
  | close
  | configure (change : ConductChange)

/-! ## All steps -/

/-- A step of a session. -/
inductive Step (τ : Type) where
  | operation (operation : Operation τ)
  | corpus (step : CorpusStep τ)
  | vocabulary (step : VocabularyStep)
  | cache (step : CacheStep)
  | weight (step : WeightStep τ)
  | store (step : StoreStep τ)
  /-- Steps at whose end the engine is closed. -/
  | block (steps : List (Step τ))
  /-- A block that ends at once with a failure. -/
  | failingBlock (failure : Failure)

end Retrieval
