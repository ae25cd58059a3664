import Mathlib.Data.List.Induction
import Retrieval.Proofs.Session.Lifecycle

set_option autoImplicit false

/-! # Releasing the store

Closing an engine should release its store, which drops the texts. It does so if the store can be
closed at the first attempt. If it cannot, the engine counts as closed all the same, and no later
call asks the store again: such a call gives no error although nothing has been released. So after a
close without an error the store is released exactly if no close before it has failed
(`release_of_close`), provided that the session only calls the engine and changes the conduct of its
store (`Step.regular`).

Whether a close has failed is told by the past of a state, which is the list of the elements that
have led to it (`CloseFailed`). Engine and store then stand in one of three ways (`Standing`), and
each further element leads from one of these to another. -/

namespace Retrieval

variable {τ : Type}

/-! ## Closing the store -/

namespace TextStore

/-- The store has been closed and its texts have been dropped. -/
def Emptied (store : TextStore τ) : Prop := store.released = true ∧ store.texts = []

theorem emptied_close {store : TextStore τ} (hkept : store.released = false)
    (hfailure : store.conduct.closeFailure = none) : store.close.2.Emptied := by
  unfold close release Emptied
  simp [hkept, hfailure]

theorem released_close_of_failure {store : TextStore τ} {failure : Failure}
    (hfailure : store.conduct.closeFailure = some failure) :
    store.close.2.released = store.released := by
  unfold close
  rw [hfailure]

end TextStore

/-! ## Regular sessions -/

/-- Whether an element is a call of the engine or a change of the conduct of its store. -/
def Step.regular : Step τ → Bool
  | .operation _ => true
  | .store (.configure _) => true
  | _ => false

namespace Step

theorem isElement_of_regular {step : Step τ} (h : step.regular = true) : step.isElement = true := by
  cases step with
  | block steps => cases h
  | failingBlock failure => cases h
  | _ => rfl

theorem eq_close_of_regular {step : Step τ} (hregular : step.regular = true)
    (hcloses : step.closes = true) : step = .operation .close := by
  cases step with
  | operation call =>
    cases call with
    | close => rfl
    | _ => cases hcloses
  | store step => cases hcloses
  | _ => cases hregular

/-- A regular element that does not close the engine does not release its store. -/
theorem released_run {engine : Engine τ} {step : Step τ} (h : step.regular = true)
    (hcloses : step.closes = false) :
    (run engine step).2.store.released = engine.store.released := by
  have hchange := change_run engine (isElement_of_regular h)
  generalize (run engine step).2 = after at hchange
  cases hchange with
  | closing hopen => cases hcloses
  | release => cases h
  | _ => rfl

/-- A regular element leaves the texts in the store of a closed engine as they are. -/
theorem texts_run_of_closed {engine : Engine τ} {step : Step τ} (h : step.regular = true)
    (hclosed : engine.closed = true) :
    (run engine step).2.store.texts = engine.store.texts := by
  have hshut := Engine.shut_of_closed hclosed
  cases step with
  | operation call =>
    have hrun : (call.run engine).2 = engine := by
      cases hneeds : call.needsOpen with
      | true => rw [hshut.refuses call hneeds]
      | false =>
        cases call with
        | close => rw [hshut.close_eq]
        | size => rfl
        | _ => cases hneeds
    exact congrArg (fun engine => engine.store.texts) hrun
  | store step =>
    cases step with
    | configure change => rfl
    | _ => cases h
  | _ => cases h

end Step

/-! ## Failed attempts to close -/

/-- Somewhere in the past of a state, a call to close the engine has failed. -/
def CloseFailed (start : Engine τ) (past : List (Step τ)) : Prop :=
  ∃ before error, before ++ [.operation .close] <+: past ∧
    (Step.runAll start before).2.close.1 = .error error

theorem not_closeFailed_nil (start : Engine τ) : ¬ CloseFailed start [] := by
  rintro ⟨before, error, hprefix, -⟩
  simp at hprefix

theorem closeFailed_concat_iff (start : Engine τ) (past : List (Step τ)) (step : Step τ) :
    CloseFailed start (past ++ [step]) ↔
      CloseFailed start past ∨
        step = .operation .close ∧ ∃ error, (Step.runAll start past).2.close.1 = .error error := by
  constructor
  · rintro ⟨before, error, hprefix, herror⟩
    rcases List.prefix_concat_iff.1 hprefix with heq | hprefix
    · obtain ⟨rfl, hstep⟩ := List.append_inj' heq rfl
      cases hstep
      exact Or.inr ⟨rfl, error, herror⟩
    · exact Or.inl ⟨before, error, hprefix, herror⟩
  · rintro (⟨before, error, hprefix, herror⟩ | ⟨rfl, error, herror⟩)
    · exact ⟨before, error, hprefix.trans (List.prefix_append _ _), herror⟩
    · exact ⟨past, error, List.prefix_rfl, herror⟩

/-! ## What has become of the store -/

/-- How an engine and its store stand, by whether a call to close the engine has failed. -/
inductive Standing (failed : Prop) (engine : Engine τ) : Prop
  | working (hopen : engine.closed = false) (hkept : engine.store.released = false)
      (hfailed : ¬ failed)
  | emptied (hclosed : engine.closed = true) (hstore : engine.store.Emptied) (hfailed : ¬ failed)
  | unreleased (hclosed : engine.closed = true) (hkept : engine.store.released = false)
      (hfailed : failed)

namespace Standing

theorem of_open {failed : Prop} {engine : Engine τ} (h : Standing failed engine)
    (hopen : engine.closed = false) : engine.store.released = false ∧ ¬ failed := by
  cases h with
  | working _ hkept hfailed => exact ⟨hkept, hfailed⟩
  | emptied hclosed => simp [hopen] at hclosed
  | unreleased hclosed => simp [hopen] at hclosed

theorem after_close {failed : Prop} {engine : Engine τ} (h : Standing failed engine) :
    Standing (failed ∨ ∃ error, engine.close.1 = .error error) engine.close.2 := by
  rcases engine.close_cases with
    ⟨hclosed, heq⟩ | ⟨hopen, failure, hfailure, heq⟩ | ⟨hopen, hfailure, heq⟩
  · simpa [heq] using h
  · have hkept := (TextStore.released_close_of_failure hfailure).trans (h.of_open hopen).1
    rw [heq]
    exact .unreleased rfl hkept (Or.inr ⟨_, rfl⟩)
  · obtain ⟨hkept, hfailed⟩ := h.of_open hopen
    rw [heq]
    exact .emptied rfl (TextStore.emptied_close hkept hfailure) (by simp [hfailed])

theorem after_run {failed : Prop} {engine : Engine τ} (h : Standing failed engine) {step : Step τ}
    (hregular : step.regular = true) (hcloses : step.closes = false) :
    Standing failed (Step.run engine step).2 := by
  have hclosed := (Step.change_run engine (Step.isElement_of_regular hregular)).closed_eq hcloses
  have hreleased : (Step.run engine step).2.store.released = engine.store.released :=
    Step.released_run hregular hcloses
  cases h with
  | working hopen hkept hfailed =>
    exact .working (hclosed.trans hopen) (hreleased.trans hkept) hfailed
  | emptied hend hstore hfailed =>
    have htexts := Step.texts_run_of_closed hregular hend
    exact .emptied (hclosed.trans hend)
      ⟨hreleased.trans hstore.1, htexts.trans hstore.2⟩ hfailed
  | unreleased hend hkept hfailed =>
    exact .unreleased (hclosed.trans hend) (hreleased.trans hkept) hfailed

theorem emptied_iff {failed : Prop} {engine : Engine τ} (h : Standing failed engine)
    (hclosed : engine.closed = true) : engine.store.Emptied ↔ ¬ failed := by
  cases h with
  | working hopen => simp [hopen] at hclosed
  | emptied _ hstore hfailed => exact ⟨fun _ => hfailed, fun _ => hstore⟩
  | unreleased _ hkept hfailed => simp [TextStore.Emptied, hkept, hfailed]

/-- After a close without an error, the store is released if no close before it has failed. -/
theorem emptied_close_iff {failed : Prop} {engine : Engine τ} (h : Standing failed engine)
    (hok : engine.close.1 = .ok ()) : engine.close.2.store.Emptied ↔ ¬ failed := by
  have hafter := h.after_close
  rw [hok] at hafter
  simpa using hafter.emptied_iff engine.closed_close

end Standing

theorem standing_runAll {start : Engine τ} (hopen : start.closed = false)
    (hkept : start.store.released = false) {past : List (Step τ)}
    (hregular : ∀ step ∈ past, step.regular = true) :
    Standing (CloseFailed start past) (Step.runAll start past).2 := by
  induction past using List.reverseRecOn with
  | nil => exact .working hopen hkept (not_closeFailed_nil start)
  | append_singleton past step ih =>
    have hstep : step.regular = true := hregular step (by simp)
    have hbefore := ih fun step hmem => hregular step (List.mem_append_left _ hmem)
    rw [Step.runAll_append]
    show Standing _ (Step.run (Step.runAll start past).2 step).2
    cases hcloses : step.closes with
    | true =>
      obtain rfl := Step.eq_close_of_regular hstep hcloses
      have hsame := closeFailed_concat_iff start past (.operation .close)
      simp only [true_and] at hsame
      rw [propext hsame]
      exact hbefore.after_close
    | false =>
      have hne : step ≠ .operation .close := fun heq => by simp [heq, Step.closes] at hcloses
      have hsame : CloseFailed start (past ++ [step]) ↔ CloseFailed start past := by
        simp [closeFailed_concat_iff, hne]
      rw [propext hsame]
      exact hbefore.after_run hstep hcloses

/-! ## What a close without an error means -/

theorem close_eq_ok_of_leave {engine : Engine τ} {result : Except Error (Reply τ)} {reply : Reply τ}
    (h : (engine.leave result).1 = .ok reply) : engine.close.1 = .ok () := by
  unfold Engine.leave at h
  split at h
  · cases h
  · next heq => rw [heq]

/-- In a session of calls and changes of conduct, a close or an end of a block without an error has
released the store exactly if no close before it has failed. Once one has failed, each further close
does nothing and gives no error, and the store is never released. -/
theorem release_of_close (tokenizer : Tokenizer τ) (texts : List τ) {steps : List (Step τ)}
    (hregular : ∀ element ∈ Step.elementsAll steps, element.regular = true) {moment : Engine τ}
    (hmoment : Moment (.fresh tokenizer texts) steps moment) :
    (∃ past, past <+: Step.elementsAll steps ∧
      moment = (Step.runAll (.fresh tokenizer texts) past).2) ∧
    ∀ past, past <+: Step.elementsAll steps →
      moment = (Step.runAll (.fresh tokenizer texts) past).2 →
        ((Operation.run moment .close).1 = .ok .done →
          ((Operation.run moment .close).2.store.Emptied ↔
            ¬ CloseFailed (.fresh tokenizer texts) past)) ∧
        (∀ result reply, (moment.leave result).1 = .ok reply →
          ((moment.leave result).2.store.Emptied ↔ ¬ CloseFailed (.fresh tokenizer texts) past)) ∧
        (CloseFailed (.fresh tokenizer texts) past →
          Operation.run moment .close = (.ok .done, moment) ∧ moment.store.released = false) := by
  refine ⟨hmoment.exists_past, ?_⟩
  rintro past hpast rfl
  have hstanding : Standing (CloseFailed (.fresh tokenizer texts) past)
      (Step.runAll (.fresh tokenizer texts) past).2 :=
    standing_runAll rfl rfl fun step hstep => hregular step (hpast.subset hstep)
  have hleave : ∀ result reply,
      ((Step.runAll (.fresh tokenizer texts) past).2.leave result).1 = .ok reply →
        (((Step.runAll (.fresh tokenizer texts) past).2.leave result).2.store.Emptied ↔
          ¬ CloseFailed (.fresh tokenizer texts) past) := by
    intro result reply hreply
    rw [Engine.leave_snd]
    exact hstanding.emptied_close_iff (close_eq_ok_of_leave hreply)
  refine ⟨?_, hleave, ?_⟩
  · rw [Engine.run_close]
    exact hleave (.ok .done) .done
  · intro hfailed
    cases hstanding with
    | working _ _ hnot => exact absurd hfailed hnot
    | emptied _ _ hnot => exact absurd hfailed hnot
    | unreleased hclosed hkept _ => exact ⟨(Engine.shut_of_closed hclosed).close_eq, hkept⟩

/-- A block with one document in it releases the store at its end. -/
theorem emptied_after_block :
    let inside := (Step.run (.fresh (.standard {}) []) (.operation (.insert "the cat"))).2
    Moment (.fresh (.standard {}) []) [.block [.operation (.insert "the cat")]] inside ∧
      (inside.leave (.ok .done)).1 = .ok .done ∧ (inside.leave (.ok .done)).2.store.Emptied := by
  intro inside
  have hmoment : Moment (.fresh (.standard {}) []) [.block [.operation (.insert "the cat")]]
      inside := .inside [] (.later (.now _ []))
  have hreply : (inside.leave (.ok .done)).1 = .ok .done :=
    (inside.closesWith_leave _).kept (Or.inr (by decide +kernel))
  have hnever : ¬ CloseFailed (.fresh (.standard {}) []) [.operation (.insert "the cat")] := by
    rw [← List.nil_append [_], closeFailed_concat_iff]
    simp [not_closeFailed_nil]
  obtain ⟨-, hends⟩ := release_of_close (.standard {}) [] (by decide) hmoment
  obtain ⟨-, hleave, -⟩ := hends [.operation (.insert "the cat")] (List.prefix_append _ _) rfl
  exact ⟨hmoment, hreply, (hleave _ _ hreply).2 hnever⟩

/-- The store fails at the first attempt to close it, and could be closed by a second one. -/
def failingOnce : List (Step String) :=
  [.operation (.insert "the cat"), .store (.configure { closing := some (some .system) }),
    .operation .close, .store (.configure { closing := some none })]

/-- The second close gives no error, but the store still has the text. -/
theorem kept_after_second_close :
    let engine := (Step.runAll (.fresh (.standard {}) []) failingOnce).2
    (∀ element ∈ Step.elementsAll failingOnce, element.regular = true) ∧
    engine.store.conduct.closeFailure = none ∧
    (Operation.run engine .close).1 = .ok .done ∧
    (Operation.run engine .close).2.store.released = false ∧
    (Operation.run engine .close).2.store.texts = ["the cat"] := by
  intro engine
  have hshut : engine.Shut := Engine.shut_of_closed (by decide +kernel)
  rw [hshut.close_eq]
  exact ⟨by decide, by decide +kernel, rfl, by decide +kernel, by decide +kernel⟩

end Retrieval
