import Retrieval.Session.Outcome
import Retrieval.Session.Step
set_option autoImplicit false

/-! # Running a session

Every step gives a value or an error together with the engine as it is afterwards. An error does
not end the session. -/

namespace Retrieval

/-- A value of one type as a reply, beside the engine after it. -/
def replying {τ α : Type} (reply : α → Reply τ) (outcome : Except Error α × Engine τ) :
    Except Error (Reply τ) × Engine τ :=
  (outcome.1.map reply, outcome.2)

/-- The effect of a call of the engine. -/
def Operation.run {τ : Type} (engine : Engine τ) :
    Operation τ → Except Error (Reply τ) × Engine τ
  | insert text => replying .size (engine.insert text)
  | search query limit => replying .hits (engine.search query limit)
  | allDocuments => replying .texts engine.allDocuments
  | vocabularySize => replying .size engine.vocabularySize
  | totalDocuments => replying .number engine.totalDocuments
  | size => (.ok (.size engine.size), engine)
  | documentFrequency term => replying .number (engine.documentFrequency term)
  | documentVector id => replying .vector (engine.documentVector id)
  | close => replying (fun _ => .done) engine.close

/-- The effect of a step on the corpus. -/
def CorpusStep.run {τ : Type} (engine : Engine τ) :
    CorpusStep τ → Except Error (Reply τ) × Engine τ
  | addDocument document => replying .size (engine.addDocument document)
  | recount => (.ok .done, { engine with corpus := engine.corpus.recount })
  | frequency term => (.ok (.number (engine.corpus.frequency term)), engine)
  | total => (.ok (.number engine.corpus.total), engine)
  | record position =>
    match engine.corpus.record? position with
    | some r => (.ok (.record r), engine)
    | none => (.error (.passedOn .outOfRange), engine)
  | text id => replying .text (engine.text id, engine)
  | texts => replying .texts (engine.texts, engine)
  | frequencies =>
    (.ok (.frequencies (engine.corpus.frequencies.entries.mergeSort
      (fun a b => decide (a.1 ≤ b.1)))), engine)
  | setTotal n => (.ok .done, { engine with corpus := { engine.corpus with total := n } })
  | setFrequency term n =>
    (.ok .done, { engine with corpus := { engine.corpus with
      frequencies := engine.corpus.frequencies.insert term n } })
  | push r => (.ok .done, { engine with corpus := engine.corpus.push r })

/-- The effect of a step on the vocabulary. -/
def VocabularyStep.run {τ : Type} (engine : Engine τ) :
    VocabularyStep → Except Error (Reply τ) × Engine τ
  | observe seen =>
    let (grew, vocabulary) := engine.vocabulary.observe seen
    (.ok (.flag grew), { engine with vocabulary })
  | dimension term => (.ok (.dimension (engine.vocabulary.dimension? term)), engine)
  | terms => (.ok (.terms engine.vocabulary.terms), engine)
  | contains term => (.ok (.flag (engine.vocabulary.contains term)), engine)

/-- The effect of a step on the cache of vectors. -/
def CacheStep.run {τ : Type} (engine : Engine τ) :
    CacheStep → Except Error (Reply τ) × Engine τ
  | markDirty => (.ok .done, { engine with cache := engine.cache.markDirty })
  | refresh => replying .flag engine.refresh
  | isDirty => (.ok (.flag engine.cache.dirty), engine)
  | vector id => replying .vector (engine.cachedVector id, engine)
  | vectors =>
    (.ok (.vectors (engine.cache.vectors.entries.mergeSort
      (fun a b => decide (a.1 ≤ b.1)))), engine)

/-- The effect of a calculation of weights. -/
def WeightStep.run {τ : Type} (engine : Engine τ) :
    WeightStep τ → Except Error (Reply τ) × Engine τ
  | termFrequency tokens term =>
    replying .double ((Retrieval.termFrequency tokens term).mapError .arithmetic, engine)
  | inverseFrequency term =>
    replying .double
      ((engine.corpus.statistics.inverseFrequency term).mapError .arithmetic, engine)
  | vector tokens => replying .vector (engine.vector tokens, engine)
  | documentVector position =>
    match engine.corpus.record? position with
    | some r => replying .vector (engine.vector r.tokens, engine)
    | none => (.error (.passedOn .outOfRange), engine)
  | queryVector query => replying .queryVector (engine.queryVector query, engine)

/-- The effect of a step on the text store. -/
def StoreStep.run {τ : Type} (engine : Engine τ) :
    StoreStep τ → Except Error (Reply τ) × Engine τ
  | append text =>
    let (result, store) := engine.store.append text
    replying .position (result.mapError .passedOn, { engine with store })
  | get position => replying .text ((engine.store.get position).mapError .passedOn, engine)
  | close =>
    let (result, store) := engine.store.close
    replying (fun _ => .done) (result.mapError .passedOn, { engine with store })
  | configure change =>
    (.ok .done, { engine with
      store := { engine.store with conduct := change.apply engine.store.conduct } })

/-- Closes the engine at the end of a block. An error of closing takes the place of what the block
would have given. -/
def Engine.leave {τ : Type} (engine : Engine τ) (result : Except Error (Reply τ)) :
    Except Error (Reply τ) × Engine τ :=
  match engine.close with
  | (.error error, after) => (.error error, after)
  | (.ok _, after) => (result, after)

mutual

/-- The effect of a step. -/
def Step.run {τ : Type} (engine : Engine τ) : Step τ → Except Error (Reply τ) × Engine τ
  | .operation call => call.run engine
  | .corpus step => step.run engine
  | .vocabulary step => step.run engine
  | .cache step => step.run engine
  | .weight step => step.run engine
  | .store step => step.run engine
  | .block steps =>
    let (outcomes, after) := Step.runAll engine steps
    after.leave (.ok (.block outcomes))
  | .failingBlock failure => engine.leave (.error (.passedOn failure))

/-- The outcomes of steps one after the other, and the engine after the last. -/
def Step.runAll {τ : Type} (engine : Engine τ) : List (Step τ) → List (Outcome τ) × Engine τ
  | [] => ([], engine)
  | step :: steps =>
    let (result, after) := Step.run engine step
    let (outcomes, final) := Step.runAll after steps
    ((result, after.snapshot) :: outcomes, final)

end

end Retrieval
