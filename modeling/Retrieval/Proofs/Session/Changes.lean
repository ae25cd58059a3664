import Retrieval.Proofs.Engine.Effects

set_option autoImplicit false

/-! # What steps do to an engine

A session may reach past the engine to its parts, so its steps do more than the calls of an engine.
`Engine.Change` lists what a step that is no block can do, and `change_run` says that it does
nothing else. A block leads through the states to which its steps lead, and then closes the engine
(`Step.elements`); a `Moment` is any state on the way, also one inside a block. So a property that
each change preserves that the steps of a session can make holds at each of its moments
(`Moment.induction`). -/

namespace Retrieval

variable {τ : Type}

/-! ## Sessions and their moments -/

namespace Step

mutual

/-- The steps that a step consists of, with blocks taken apart. What is left of the end of a block
is that it closes the engine. -/
def elements : Step τ → List (Step τ)
  | .block steps => elementsAll steps ++ [.operation .close]
  | .failingBlock _ => [.operation .close]
  | step => [step]

/-- The steps that a list of steps consists of. -/
def elementsAll : List (Step τ) → List (Step τ)
  | [] => []
  | step :: steps => step.elements ++ elementsAll steps

end

end Step

/-- The engine passes through a state in the course of these steps. -/
inductive Moment : Engine τ → List (Step τ) → Engine τ → Prop
  | now (engine : Engine τ) (steps : List (Step τ)) : Moment engine steps engine
  /-- Entering a block does nothing. -/
  | inside {engine moment : Engine τ} {steps : List (Step τ)} (rest : List (Step τ))
      (h : Moment engine steps moment) : Moment engine (.block steps :: rest) moment
  | later {engine moment : Engine τ} {step : Step τ} {rest : List (Step τ)}
      (h : Moment (Step.run engine step).2 rest moment) : Moment engine (step :: rest) moment

/-- The state after the last step is a moment of the session. -/
theorem Moment.last (engine : Engine τ) (steps : List (Step τ)) :
    Moment engine steps (Step.runAll engine steps).2 := by
  induction steps generalizing engine with
  | nil => exact .now engine []
  | cons step rest ih => exact .later (ih (Step.run engine step).2)

namespace Engine

/-! ## Changes -/

/-- What a step that is no block can do to an engine. -/
inductive Change (engine : Engine τ) : Step τ → Engine τ → Prop
  | idle (step : Step τ) : Change engine step engine
  | stray (step : Step τ) (text : τ) : Change engine step (engine.withStray text)
  /-- The corpus alone takes a document; the vocabulary and the cache are not told. -/
  | recording {text : τ} {tokens : Tokens} (hadmits : engine.Admits text tokens) :
      Change engine (.corpus (.addDocument text)) (engine.recording text tokens)
  | admission {text : τ} {tokens : Tokens} (hopen : engine.closed = false)
      (hadmits : engine.Admits text tokens) :
      Change engine (.operation (.insert text)) (engine.admitting text tokens)
  | recount : Change engine (.corpus .recount) { engine with corpus := engine.corpus.recount }
  | setTotal (n : Number) :
      Change engine (.corpus (.setTotal n))
        { engine with corpus := { engine.corpus with total := n } }
  | setFrequency (term : String) (n : Number) :
      Change engine (.corpus (.setFrequency term n)) { engine with corpus := { engine.corpus with
        frequencies := engine.corpus.frequencies.insert term n } }
  | push (record : Record) :
      Change engine (.corpus (.push record)) { engine with corpus := engine.corpus.push record }
  | observe (terms : List String) :
      Change engine (.vocabulary (.observe terms))
        { engine with vocabulary := engine.vocabulary.addAll terms }
  | markDirty : Change engine (.cache .markDirty) { engine with cache := engine.cache.markDirty }
  | rebuild (step : Step τ) {cache : VectorCache}
      (hcache : VectorCache.rebuild engine.corpus engine.vocabulary = .ok cache) :
      Change engine step { engine with cache }
  | configure (change : ConductChange) :
      Change engine (.store (.configure change))
        (engine.withConduct (change.apply engine.store.conduct))
  | release : Change engine (.store .close) { engine with store := engine.store.close.2 }
  | closing (hopen : engine.closed = false) :
      Change engine (.operation .close)
        { engine with closed := true, store := engine.store.close.2 }

theorem change_refresh (engine : Engine τ) (step : Step τ) :
    engine.Change step engine.refresh.2 := by
  rcases engine.refresh_cases with ⟨-, heq⟩ | ⟨error, -, -, heq⟩ | ⟨cache, -, hcache, heq⟩
  · rw [heq]
    exact .idle step
  · rw [heq]
    exact .idle step
  · rw [heq]
    exact .rebuild step hcache

theorem change_rejecting (engine : Engine τ) (step : Step τ) (text : τ) (error : Error) :
    engine.Change step (engine.rejecting text error) := by
  unfold rejecting
  split
  · exact .stray step text
  · exact .idle step

theorem change_close (engine : Engine τ) : engine.Change (.operation .close) engine.close.2 := by
  unfold close
  cases hclosed : engine.closed with
  | true => exact .idle _
  | false => exact .closing hclosed

theorem change_reading (engine : Engine τ) {operation : Operation τ}
    (h : operation.reads = true) :
    engine.Change (.operation operation) (operation.run engine).2 := by
  rcases engine.after_reading h with heq | ⟨-, heq⟩
  · rw [heq]
    exact .idle _
  · rw [heq]
    exact engine.change_refresh _

theorem change_operation (engine : Engine τ) (operation : Operation τ) :
    engine.Change (.operation operation) (operation.run engine).2 := by
  cases operation with
  | insert text =>
    show engine.Change _ (engine.insert text).2
    rcases engine.insert_cases text with
      ⟨-, heq⟩ | ⟨-, error, -, heq⟩ | ⟨hopen, tokens, hadmits, heq⟩
    · rw [heq]
      exact .idle _
    · rw [heq]
      exact engine.change_rejecting _ text error
    · rw [heq]
      exact .admission hopen hadmits
  | close => exact engine.change_close
  | _ => exact engine.change_reading rfl

theorem change_corpus (engine : Engine τ) (step : CorpusStep τ) :
    engine.Change (.corpus step) (step.run engine).2 := by
  cases step with
  | addDocument text =>
    show engine.Change _ (engine.addDocument text).2
    rcases engine.addDocument_cases text with ⟨error, -, heq⟩ | ⟨tokens, hadmits, heq⟩
    · rw [heq]
      exact engine.change_rejecting _ text error
    · rw [heq]
      exact .recording hadmits
  | record position =>
    simp only [CorpusStep.run]
    split <;> exact .idle _
  | recount => exact .recount
  | setTotal n => exact .setTotal n
  | setFrequency term n => exact .setFrequency term n
  | push record => exact .push record
  | _ => exact .idle _

theorem change_vocabulary (engine : Engine τ) (step : VocabularyStep) :
    engine.Change (.vocabulary step) (step.run engine).2 := by
  cases step with
  | observe terms => exact .observe terms
  | _ => exact .idle _

theorem change_cache (engine : Engine τ) (step : CacheStep) :
    engine.Change (.cache step) (step.run engine).2 := by
  cases step with
  | markDirty => exact .markDirty
  | refresh => exact engine.change_refresh _
  | _ => exact .idle _

theorem change_weight (engine : Engine τ) (step : WeightStep τ) :
    engine.Change (.weight step) (step.run engine).2 := by
  cases step with
  | documentVector position =>
    simp only [WeightStep.run]
    split <;> exact .idle _
  | _ => exact .idle _

theorem change_store (engine : Engine τ) (step : StoreStep τ) :
    engine.Change (.store step) (step.run engine).2 := by
  cases step with
  | append text =>
    show engine.Change _ { engine with store := (engine.store.append text).2 }
    rcases engine.store.append_cases text with ⟨failure, -, heq⟩ | ⟨-, heq⟩
    · rw [heq]
      exact .idle _
    · rw [heq]
      exact .stray _ text
  | get position => exact .idle _
  | close => exact .release
  | configure change => exact .configure change

theorem leave_snd (engine : Engine τ) (result : Except Error (Reply τ)) :
    (engine.leave result).2 = engine.close.2 := by
  unfold leave
  rcases engine.close with ⟨_ | _, after⟩ <;> rfl

end Engine

/-! ## What all changes preserve -/

section Preserved

variable {motive : Engine τ → Prop}

mutual

/-- What the changes of its elements preserve, a step preserves. -/
theorem Step.run_preserves : ∀ (step : Step τ) (engine : Engine τ),
    (∀ {engine after : Engine τ} {element : Step τ}, element ∈ step.elements → motive engine →
      engine.Change element after → motive after) →
    motive engine → motive (Step.run engine step).2
  | .operation call, engine, hchange, h =>
    hchange (List.mem_singleton_self _) h (engine.change_operation call)
  | .corpus step, engine, hchange, h =>
    hchange (List.mem_singleton_self _) h (engine.change_corpus step)
  | .vocabulary step, engine, hchange, h =>
    hchange (List.mem_singleton_self _) h (engine.change_vocabulary step)
  | .cache step, engine, hchange, h =>
    hchange (List.mem_singleton_self _) h (engine.change_cache step)
  | .weight step, engine, hchange, h =>
    hchange (List.mem_singleton_self _) h (engine.change_weight step)
  | .store step, engine, hchange, h =>
    hchange (List.mem_singleton_self _) h (engine.change_store step)
  | .block steps, engine, hchange, h => by
    have hinside : motive (Step.runAll engine steps).2 :=
      Step.runAll_preserves steps engine (fun hmem => hchange (List.mem_append_left _ hmem)) h
    show motive ((Step.runAll engine steps).2.leave _).2
    rw [Engine.leave_snd]
    exact hchange (List.mem_append_right _ (List.mem_singleton_self _)) hinside
      (Engine.change_close _)
  | .failingBlock failure, engine, hchange, h => by
    show motive (engine.leave _).2
    rw [Engine.leave_snd]
    exact hchange (List.mem_singleton_self _) h engine.change_close

theorem Step.runAll_preserves : ∀ (steps : List (Step τ)) (engine : Engine τ),
    (∀ {engine after : Engine τ} {element : Step τ}, element ∈ Step.elementsAll steps →
      motive engine → engine.Change element after → motive after) →
    motive engine → motive (Step.runAll engine steps).2
  | [], _, _, h => h
  | step :: rest, engine, hchange, h => by
    have hstep : motive (Step.run engine step).2 :=
      Step.run_preserves step engine (fun hmem => hchange (List.mem_append_left _ hmem)) h
    exact Step.runAll_preserves rest _ (fun hmem => hchange (List.mem_append_right _ hmem)) hstep

end

/-- What holds at the start, and is preserved by each change that an element of the session can
make, holds at every moment. -/
theorem Moment.induction {engine moment : Engine τ} {steps : List (Step τ)}
    (hmoment : Moment engine steps moment)
    (hchange : ∀ {engine after : Engine τ} {element : Step τ}, element ∈ Step.elementsAll steps →
      motive engine → engine.Change element after → motive after)
    (hstart : motive engine) : motive moment := by
  induction hmoment with
  | now engine steps => exact hstart
  | inside rest _ ih =>
    -- the elements of the block are among those of the session
    exact ih (fun hmem => hchange (List.mem_append_left _ (List.mem_append_left _ hmem))) hstart
  | later _ ih =>
    refine ih (fun hmem => hchange (List.mem_append_right _ hmem)) ?_
    exact Step.run_preserves _ _ (fun hmem => hchange (List.mem_append_left _ hmem)) hstart

end Preserved

end Retrieval
