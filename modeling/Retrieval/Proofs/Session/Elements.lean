import Retrieval.Proofs.Session.Changes

set_option autoImplicit false

/-! # Sessions taken apart

A block does no more to an engine than its steps and a close after them. So a session leads to the
same engine as its elements one after the other (`Step.runAll_elementsAll`), and each of its moments
is the state after some of these, counted from the start (`Moment.exists_past`). What is proved of
sessions by induction can thus be proved of lists of elements, each of which makes one change
(`Step.change_run`). -/

namespace Retrieval

variable {τ : Type}

namespace Step

/-! ## Elements -/

/-- Whether a step is an element of sessions, which all are but blocks. -/
def isElement : Step τ → Bool
  | .block _ | .failingBlock _ => false
  | _ => true

mutual

theorem isElement_of_mem_elements : ∀ (step : Step τ),
    ∀ element ∈ step.elements, element.isElement = true
  | .operation _ | .corpus _ | .vocabulary _ | .cache _ | .weight _ | .store _ => by
    intro element h
    cases List.mem_singleton.1 h
    rfl
  | .block steps => by
    intro element h
    rcases List.mem_append.1 h with h | h
    · exact isElement_of_mem_elementsAll steps element h
    · cases List.mem_singleton.1 h
      rfl
  | .failingBlock _ => by
    intro element h
    cases List.mem_singleton.1 h
    rfl

theorem isElement_of_mem_elementsAll : ∀ (steps : List (Step τ)),
    ∀ element ∈ elementsAll steps, element.isElement = true
  | [] => by simp [elementsAll]
  | step :: rest => by
    intro element h
    rcases List.mem_append.1 h with h | h
    · exact isElement_of_mem_elements step element h
    · exact isElement_of_mem_elementsAll rest element h

end

/-- An element makes one change. -/
theorem change_run (engine : Engine τ) {step : Step τ} (h : step.isElement = true) :
    engine.Change step (Step.run engine step).2 := by
  cases step with
  | operation call => exact engine.change_operation call
  | corpus step => exact engine.change_corpus step
  | vocabulary step => exact engine.change_vocabulary step
  | cache step => exact engine.change_cache step
  | weight step => exact engine.change_weight step
  | store step => exact engine.change_store step
  | block steps => cases h
  | failingBlock failure => cases h

/-! ## Running the elements -/

theorem runAll_append (engine : Engine τ) (steps rest : List (Step τ)) :
    (runAll engine (steps ++ rest)).2 = (runAll (runAll engine steps).2 rest).2 := by
  induction steps generalizing engine with
  | nil => rfl
  | cons step steps ih => exact ih (run engine step).2

mutual

theorem runAll_elements : ∀ (step : Step τ) (engine : Engine τ),
    (runAll engine step.elements).2 = (run engine step).2
  | .operation _, _ | .corpus _, _ | .vocabulary _, _ | .cache _, _ | .weight _, _
  | .store _, _ => rfl
  | .block steps, engine => by
    show (runAll engine (elementsAll steps ++ [.operation .close])).2 =
      ((runAll engine steps).2.leave _).2
    rw [runAll_append, runAll_elementsAll steps engine, Engine.leave_snd]
    rfl
  | .failingBlock failure, engine => (engine.leave_snd _).symm

/-- Blocks taken apart, a session leads to the same engine. -/
theorem runAll_elementsAll : ∀ (steps : List (Step τ)) (engine : Engine τ),
    (runAll engine (elementsAll steps)).2 = (runAll engine steps).2
  | [], _ => rfl
  | step :: rest, engine => by
    show (runAll engine (step.elements ++ elementsAll rest)).2 = (runAll (run engine step).2 rest).2
    rw [runAll_append, runAll_elements step engine, runAll_elementsAll rest]

end

end Step

/-- A moment is the state after the elements that have been run so far. -/
theorem Moment.exists_past {engine moment : Engine τ} {steps : List (Step τ)}
    (h : Moment engine steps moment) :
    ∃ past, past <+: Step.elementsAll steps ∧ moment = (Step.runAll engine past).2 := by
  induction h with
  | now engine steps => exact ⟨[], List.nil_prefix, rfl⟩
  | inside rest _ ih =>
    obtain ⟨past, hpast, heq⟩ := ih
    have hblock : past <+: Step.elements (.block _) := hpast.trans (List.prefix_append _ _)
    exact ⟨past, hblock.trans (List.prefix_append _ _), heq⟩
  | @later engine moment step rest _ ih =>
    obtain ⟨past, hpast, heq⟩ := ih
    refine ⟨step.elements ++ past, (List.prefix_append_right_inj _).2 hpast, ?_⟩
    rw [Step.runAll_append, Step.runAll_elements, heq]

end Retrieval
