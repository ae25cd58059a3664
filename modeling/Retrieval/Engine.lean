import Retrieval.Ranking
import Retrieval.TextStore
import Retrieval.Tokenizer
import Retrieval.VectorCache
set_option autoImplicit false

/-! # The search engine

An engine adds documents to a corpus and finds those that are most similar to a query. Adding a
document updates the statistics and the vocabulary at once and marks the cache of vectors as dirty;
the next search rebuilds it. Every call gives a value or an error, together with the engine as it
is afterwards. After it has been closed, an engine answers no more. -/

namespace Retrieval

/-- An engine for documents of type `τ`. -/
structure Engine (τ : Type) where
  tokenizer : Tokenizer τ
  store : TextStore τ := {}
  corpus : Corpus := .empty
  vocabulary : Vocabulary := .empty
  cache : VectorCache := {}
  closed : Bool := false

namespace Engine

variable {τ : Type}

/-- An engine without documents, over a store that may hold texts already. -/
def fresh (tokenizer : Tokenizer τ) (texts : List τ) : Engine τ :=
  { tokenizer, store := { texts } }

/-! ## Adding documents -/

/-- The error that a failure to store the text of a document becomes. -/
def writeError (id : Nat) (failure : Failure) : Error :=
  if failure.isWriteFailure then .write (.unstored id failure) else .passedOn failure

/-- Adds a document to the corpus. The text is tokenized and stored before any statistic changes,
and the store must have held exactly one text for each record, and must report the id expected. -/
def addDocument (engine : Engine τ) (text : τ) : Except Error Nat × Engine τ :=
  match engine.tokenizer text with
  | .error failure => (.error (.write (.untokenized failure)), engine)
  | .ok tokens =>
    let id := engine.corpus.size
    if engine.store.size ≠ id then (.error (.write (.outOfStep engine.store.size id)), engine)
    else
      match engine.store.append text with
      | (.error failure, store) => (.error (writeError id failure), { engine with store })
      | (.ok assigned, store) =>
        if assigned ≠ id then
          (.error (.write (.misnumbered assigned id)), { engine with store })
        else (.ok id, { engine with store, corpus := engine.corpus.add tokens })

/-- The engine after it has learned the terms of the record at a position. -/
def learn (engine : Engine τ) (position : Nat) : Engine τ :=
  { engine with
    vocabulary :=
      match engine.corpus.records[position]? with
      | some record => engine.vocabulary.addAll record.tokens.terms
      | none => engine.vocabulary
    cache := engine.cache.markDirty }

/-- Adds a document and gives its id. -/
def insert (engine : Engine τ) (text : τ) : Except Error Nat × Engine τ :=
  if engine.closed then (.error .closed, engine)
  else
    match engine.addDocument text with
    | (.error error, after) => (.error error, after)
    | (.ok id, after) => (.ok id, after.learn id)

/-! ## Reading texts -/

/-- The error that a failure to read a text becomes. -/
def readError (id : Int) (failure : Failure) : Error :=
  if failure.isReadFailure then .read (.unread id (some failure)) else .passedOn failure

/-- The text of the document with an id. -/
def text (engine : Engine τ) (id : Int) : Except Error τ :=
  (engine.store.get id).mapError (readError id)

/-- The texts of all documents in order. -/
def texts (engine : Engine τ) : Except Error (List τ) :=
  engine.corpus.records.mapM fun record => engine.text record.id

/-! ## Vectors -/

/-- Rebuilds the cache of vectors if it is dirty. The flag says whether it was. -/
def refresh (engine : Engine τ) : Except Error Bool × Engine τ :=
  match engine.cache.refresh engine.corpus engine.vocabulary with
  | .error error => (.error (.arithmetic error), engine)
  | .ok (rebuilt, cache) => (.ok rebuilt, { engine with cache })

/-- The vector of a text with these tokens, under the present statistics. -/
def vector (engine : Engine τ) (tokens : Tokens) : Except Error DocumentVector :=
  (engine.corpus.statistics.vector engine.vocabulary.terms tokens).mapError .arithmetic

/-- The vector of a query, unless none of its terms is in the vocabulary. -/
def queryVector (engine : Engine τ) (query : τ) : Except Error (Option DocumentVector) :=
  match engine.tokenizer query with
  | .error failure => .error (.read (.untokenized failure))
  | .ok tokens =>
    if tokens.terms.any engine.vocabulary.contains then some <$> engine.vector tokens
    else .ok none

/-- The vector with an id in the cache as it is. -/
def cachedVector (engine : Engine τ) (id : Int) : Except Error DocumentVector :=
  match engine.cache.vectors.get? id with
  | some vector => .ok vector
  | none => .error (.noVector id)

/-! ## Searching -/

/-- The hits of a query among the vectors in the cache as it is. -/
def answer (engine : Engine τ) (query : τ) (limit : Limit) : Except Error (List (Hit τ)) := do
  match ← engine.queryVector query with
  | none => return []
  | some vector =>
    rank (vector.map .double) (engine.cache.vectors.map (fun v => v.map .double)) engine.text limit

/-- The documents most similar to a query, within a limit. -/
def search (engine : Engine τ) (query : τ) (limit : Limit) :
    Except Error (List (Hit τ)) × Engine τ :=
  if engine.closed then (.error .closed, engine)
  else
    match limit.excludesAll with
    | .error error => (.error error, engine)
    | .ok true => (.ok [], engine)
    | .ok false =>
      match engine.refresh with
      | (.error error, after) => (.error error, after)
      | (.ok _, after) => (after.answer query limit, after)

/-! ## Other calls -/

/-- A value that an open engine has and a closed one refuses. -/
def whenOpen {α : Type} (engine : Engine τ) (value : Except Error α) : Except Error α × Engine τ :=
  (if engine.closed then .error .closed else value, engine)

/-- The texts of all documents in order. -/
def allDocuments (engine : Engine τ) : Except Error (List τ) × Engine τ :=
  engine.whenOpen engine.texts

/-- The number of terms in the vocabulary. -/
def vocabularySize (engine : Engine τ) : Except Error Nat × Engine τ :=
  engine.whenOpen (.ok engine.vocabulary.size)

/-- The number of documents according to the statistics. -/
def totalDocuments (engine : Engine τ) : Except Error Number × Engine τ :=
  engine.whenOpen (.ok engine.corpus.total)

/-- In how many documents a term occurs. -/
def documentFrequency (engine : Engine τ) (term : String) : Except Error Number × Engine τ :=
  engine.whenOpen (.ok (engine.corpus.frequency term))

/-- The vector of a document. -/
def documentVector (engine : Engine τ) (id : Int) : Except Error DocumentVector × Engine τ :=
  if engine.closed then (.error .closed, engine)
  else
    match engine.refresh with
    | (.error error, after) => (.error error, after)
    | (.ok _, after) => (after.cachedVector id, after)

/-- The number of records, which a closed engine tells as well. -/
def size (engine : Engine τ) : Nat := engine.corpus.size

/-- Closes the engine and its store. A second call does nothing, even if the store failed to close
at the first. -/
def close (engine : Engine τ) : Except Error Unit × Engine τ :=
  if engine.closed then (.ok (), engine)
  else
    let (result, store) := engine.store.close
    (result.mapError .passedOn, { engine with closed := true, store })

end Engine

end Retrieval
