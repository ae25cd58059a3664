import Retrieval.Proofs.Session.Elements

set_option autoImplicit false

/-! # The life of an engine

An engine is open until it is closed, by a call or by the end of a block, and then for good. A
closed engine is `Engine.Shut`: it refuses every call that needs an open one, and what it answers
changes nothing. Closing marks the engine before the store is asked, so the mark does not depend on
whether the store can be closed, and the store is asked only once. The latter is an account:
`Engine.requestsDue` counts the request that an open engine has still to make together with those
that the store has had, and only steps that close the store themselves add to it. -/

namespace Retrieval

variable {τ : Type}

/-! ## Closed engines -/

/-- Whether a call needs an open engine. The number of records and closing do not. -/
def Operation.needsOpen : Operation τ → Bool
  | size => false
  | close => false
  | _ => true

namespace Engine

/-- A closed engine refuses every call that needs an open one and can be closed again; neither
changes anything. -/
structure Shut (engine : Engine τ) : Prop where
  closed_eq : engine.closed = true
  refuses : ∀ operation : Operation τ, operation.needsOpen = true →
    operation.run engine = (.error .closed, engine)
  close_eq : Operation.run engine .close = (.ok .done, engine)

theorem shut_of_closed {engine : Engine τ} (h : engine.closed = true) : engine.Shut where
  closed_eq := h
  refuses := by
    intro operation hneeds
    cases operation with
    | size => cases hneeds
    | close => cases hneeds
    | insert text => simp [Operation.run, insert, replying, h, Except.map]
    | search query limit => simp [Operation.run, search, replying, h, Except.map]
    | documentVector id => simp [Operation.run, documentVector, replying, h, Except.map]
    | allDocuments => simp [Operation.run, allDocuments, whenOpen, replying, h, Except.map]
    | vocabularySize => simp [Operation.run, vocabularySize, whenOpen, replying, h, Except.map]
    | totalDocuments => simp [Operation.run, totalDocuments, whenOpen, replying, h, Except.map]
    | documentFrequency term =>
      simp [Operation.run, documentFrequency, whenOpen, replying, h, Except.map]
  close_eq := by simp [Operation.run, close, replying, h, Except.map]

end Engine

/-! ## How an engine is closed -/

/-- Whether a step closes the engine. -/
def Step.closes : Step τ → Bool
  | .operation .close => true
  | .block _ => true
  | .failingBlock _ => true
  | _ => false

namespace Engine

theorem Change.closed_of_closed {engine after : Engine τ} {step : Step τ}
    (h : engine.Change step after) (hclosed : engine.closed = true) : after.closed = true := by
  cases h with
  | closing hopen => rfl
  | _ => exact hclosed

theorem Change.closed_eq {engine after : Engine τ} {step : Step τ} (h : engine.Change step after)
    (hcloses : step.closes = false) : after.closed = engine.closed := by
  cases h with
  | closing hopen => cases hcloses
  | _ => rfl

/-- An engine that is closed stays as it is; an open one is closed whether its store can be closed
or not. -/
theorem close_cases (engine : Engine τ) :
    (engine.closed = true ∧ engine.close = (.ok (), engine)) ∨
    (engine.closed = false ∧ ∃ failure, engine.store.conduct.closeFailure = some failure ∧
      engine.close = (.error (.passedOn failure),
        { engine with closed := true, store := engine.store.close.2 })) ∨
    (engine.closed = false ∧ engine.store.conduct.closeFailure = none ∧
      engine.close = (.ok (), { engine with closed := true, store := engine.store.close.2 })) := by
  unfold close TextStore.close
  cases hclosed : engine.closed with
  | true => exact Or.inl ⟨rfl, rfl⟩
  | false =>
    right
    cases hfailure : engine.store.conduct.closeFailure with
    | some failure => exact Or.inl ⟨rfl, failure, rfl, rfl⟩
    | none => exact Or.inr ⟨rfl, rfl, rfl⟩

theorem closed_close (engine : Engine τ) : engine.close.2.closed = true := by
  rcases engine.close_cases with ⟨hclosed, heq⟩ | ⟨-, failure, -, heq⟩ | ⟨-, -, heq⟩
  · rw [heq]
    exact hclosed
  · rw [heq]
  · rw [heq]

/-- What comes of closing an engine at the end of something that would have given a result: the
engine is closed afterwards, and its result is kept unless the store had to be closed and failed. -/
structure ClosesWith (engine : Engine τ) (result : Except Error (Reply τ))
    (outcome : Except Error (Reply τ) × Engine τ) : Prop where
  closed : outcome.2.closed = true
  refused : ∀ failure, engine.closed = false →
    engine.store.conduct.closeFailure = some failure → outcome.1 = .error (.passedOn failure)
  kept : engine.closed = true ∨ engine.store.conduct.closeFailure = none → outcome.1 = result

theorem closesWith_leave (engine : Engine τ) (result : Except Error (Reply τ)) :
    engine.ClosesWith result (engine.leave result) := by
  have hclosed : (engine.leave result).2.closed = true := engine.leave_snd result ▸ closed_close _
  unfold leave at hclosed ⊢
  rcases engine.close_cases with ⟨hstate, heq⟩ | ⟨hstate, failure, hfailure, heq⟩ |
    ⟨hstate, hfailure, heq⟩
  · rw [heq] at hclosed ⊢
    exact ⟨hclosed, fun _ hopen => by simp [hstate] at hopen, fun _ => rfl⟩
  · rw [heq] at hclosed ⊢
    refine ⟨hclosed, ?_, ?_⟩
    · intro other _ hother
      rw [hfailure] at hother
      cases hother
      rfl
    · simp [hstate, hfailure]
  · rw [heq] at hclosed ⊢
    exact ⟨hclosed, fun _ _ hother => by simp [hfailure] at hother, fun _ => rfl⟩

/-- A call to close is a block with nothing in it. -/
theorem run_close (engine : Engine τ) : Operation.run engine .close = engine.leave (.ok .done) := by
  unfold leave
  simp only [Operation.run, replying]
  rcases engine.close with ⟨_ | _, after⟩ <;> rfl

end Engine

namespace Step

theorem closed_run_of_closes (engine : Engine τ) {step : Step τ} (h : step.closes = true) :
    (run engine step).2.closed = true := by
  cases step with
  | operation call =>
    cases call with
    | close => exact engine.closed_close
    | _ => cases h
  | block steps => exact ((runAll engine steps).2.closesWith_leave _).closed
  | failingBlock failure => exact (engine.closesWith_leave _).closed
  | _ => cases h

/-- A step that does not close the engine is no block. -/
theorem isElement_of_closes_eq_false {step : Step τ} (h : step.closes = false) :
    step.isElement = true := by
  cases step with
  | block steps => cases h
  | failingBlock failure => cases h
  | _ => rfl

theorem closed_run_iff (engine : Engine τ) (step : Step τ) :
    (run engine step).2.closed = true ↔ engine.closed = true ∨ step.closes = true := by
  cases hcloses : step.closes with
  | true => simp only [closed_run_of_closes engine hcloses, or_true]
  | false =>
    have hchange := change_run engine (isElement_of_closes_eq_false hcloses)
    rw [hchange.closed_eq hcloses]
    simp

/-! ## Requests to the store -/

/-- Whether a step closes the store past the engine. -/
def closesStore : Step τ → Bool
  | .store .close => true
  | _ => false

end Step

theorem TextStore.closeRequests_close (store : TextStore τ) :
    store.close.2.closeRequests = store.closeRequests + 1 := by
  unfold close release
  cases store.conduct.closeFailure with
  | some failure => rfl
  | none => cases store.released <;> simp

namespace Engine

/-- How often the store has been asked to close, or will have been once the engine is closed. -/
def requestsDue (engine : Engine τ) : Nat :=
  engine.store.closeRequests + (!engine.closed).toNat

theorem Change.requestsDue_eq {engine after : Engine τ} {step : Step τ}
    (h : engine.Change step after) (hstore : step.closesStore = false) :
    after.requestsDue = engine.requestsDue := by
  cases h with
  | release => cases hstore
  | closing hopen => simp [requestsDue, TextStore.closeRequests_close, hopen]
  | _ => rfl

end Engine

namespace Step

theorem requestsDue_run (engine : Engine τ) {step : Step τ} (h : step.isElement = true) :
    (run engine step).2.requestsDue = engine.requestsDue + step.closesStore.toNat := by
  cases hstore : step.closesStore with
  | false => exact (change_run engine h).requestsDue_eq hstore
  | true =>
    cases step with
    | store step =>
      cases step with
      | close =>
        show engine.store.close.2.closeRequests + (!engine.closed).toNat = engine.requestsDue + 1
        rw [TextStore.closeRequests_close, Engine.requestsDue]
        omega
      | _ => cases hstore
    | _ => cases hstore

theorem requestsDue_runAll (engine : Engine τ) (steps : List (Step τ)) :
    (runAll engine steps).2.requestsDue =
      engine.requestsDue + (elementsAll steps).countP closesStore := by
  rw [← runAll_elementsAll]
  have helement := isElement_of_mem_elementsAll steps
  generalize elementsAll steps = elements at helement
  induction elements generalizing engine with
  | nil => rfl
  | cons element rest ih =>
    obtain ⟨hfirst, hrest⟩ := List.forall_mem_cons.1 helement
    show (runAll (run engine element).2 rest).2.requestsDue = _
    rw [ih _ hrest, requestsDue_run engine hfirst, List.countP_cons]
    cases element.closesStore with
    | false => simp
    | true =>
      simp only [Bool.toNat_true, if_true]
      omega

/-- A session closes the engine if one of its steps does. -/
theorem closed_runAll_iff (engine : Engine τ) (steps : List (Step τ)) :
    (runAll engine steps).2.closed = true ↔
      engine.closed = true ∨ ∃ step ∈ steps, step.closes = true := by
  induction steps generalizing engine with
  | nil => simp [runAll]
  | cons step rest ih =>
    show (runAll (run engine step).2 rest).2.closed = true ↔ _
    rw [ih, closed_run_iff]
    simp only [List.mem_cons, exists_eq_or_imp, or_assoc]

end Step

/-! ## The life of an engine -/

/-- Once closed, an engine is shut at every moment. It is closed by a call to close and by the end
of a block, whatever happened inside and whether the store can be closed or not, and by nothing
else. Apart from the requests of steps that go past the engine, the store is asked to close once if
the session closes the engine, and never otherwise. -/
theorem lifecycle (start : Engine τ) (steps : List (Step τ)) :
    (start.closed = true → ∀ moment, Moment start steps moment → moment.Shut) ∧
    (∀ step, (Step.run start step).2.closed = true ↔
      start.closed = true ∨ step.closes = true) ∧
    ((Step.runAll start steps).2.closed = true ↔
      start.closed = true ∨ ∃ step ∈ steps, step.closes = true) ∧
    start.ClosesWith (.ok .done) (Operation.run start .close) ∧
    (Step.runAll start steps).2.ClosesWith (.ok (.block (Step.runAll start steps).1))
      (Step.run start (.block steps)) ∧
    (∀ failure, start.ClosesWith (.error (.passedOn failure))
      (Step.run start (.failingBlock failure))) ∧
    (∀ result, (Step.runAll start steps).2.ClosesWith result
      ((Step.runAll start steps).2.leave result)) ∧
    (Step.runAll start steps).2.store.closeRequests =
      start.store.closeRequests + (Step.elementsAll steps).countP Step.closesStore +
        if start.closed = false ∧ (Step.runAll start steps).2.closed = true then 1 else 0 := by
  have hstays : start.closed = true → ∀ moment, Moment start steps moment → moment.closed = true :=
    fun hclosed moment hmoment => hmoment.induction (fun _ h hchange => hchange.closed_of_closed h)
      hclosed
  refine ⟨?_, Step.closed_run_iff start, Step.closed_runAll_iff start steps, ?_, ?_, ?_, ?_, ?_⟩
  · intro hclosed moment hmoment
    exact Engine.shut_of_closed (hstays hclosed moment hmoment)
  · rw [Engine.run_close]
    exact Engine.closesWith_leave start _
  · exact Engine.closesWith_leave _ _
  · intro failure
    exact Engine.closesWith_leave start _
  · exact Engine.closesWith_leave _
  · have hdue := Step.requestsDue_runAll start steps
    have hlast := fun hclosed => hstays hclosed _ (Moment.last start steps)
    unfold Engine.requestsDue at hdue
    cases hstart : start.closed <;> cases hfinal : (Step.runAll start steps).2.closed <;>
      simp [hstart, hfinal] at hdue hlast ⊢ <;> omega

/-- An engine whose store cannot be closed. -/
def jammed : Engine String where
  tokenizer := .standard {}
  store := { conduct := { closeFailure := some (.system "cannot close") } }

/-- A block over the engine ends with the error of its store. The engine is closed all the same, and
refuses then even a search with a limit that is no number. -/
theorem jammed_after_block :
    let outcome := Step.run jammed (.block [.operation (.insert "The cat")])
    outcome.1 = .error (.passedOn (.system "cannot close")) ∧
    (∀ moment, Moment outcome.2 [.operation (.insert "A dog"), .operation .close] moment →
      moment.Shut) ∧
    Operation.run outcome.2 (.search "cat" (.unordered .string)) = (.error .closed, outcome.2) := by
  obtain ⟨-, hcloses, -, -, hblock, -, -, -⟩ := lifecycle jammed [.operation (.insert "The cat")]
  have hclosed := (hcloses (.block [.operation (.insert "The cat")])).2 (Or.inr rfl)
  have hshut := (lifecycle _ [.operation (.insert "A dog"), .operation .close]).1 hclosed
  refine ⟨hblock.refused _ (by decide +kernel) (by decide +kernel), hshut, ?_⟩
  exact (hshut _ (.now _ _)).refuses _ rfl

end Retrieval
