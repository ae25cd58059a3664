import Retrieval.Session.Run
set_option autoImplicit false

/-! # Histories of an engine

What an engine has been through: calls, and changes of the way its store behaves. A history leads
from a fresh engine to a state, and it tells which documents were added on the way. -/

namespace Retrieval

/-- A call of an engine, or a change of the conduct of its store. -/
inductive Event (τ : Type) where
  | call (operation : Operation τ)
  | behave (conduct : Conduct)

namespace Engine

variable {τ : Type}

/-- The engine with a store that behaves in another way from now on. -/
def withConduct (engine : Engine τ) (conduct : Conduct) : Engine τ :=
  { engine with store := { engine.store with conduct } }

/-- The engine after an event. -/
def after (engine : Engine τ) : Event τ → Engine τ
  | .call operation => (operation.run engine).2
  | .behave conduct => engine.withConduct conduct

/-- The engine after a history. -/
def afterAll (engine : Engine τ) (history : List (Event τ)) : Engine τ :=
  history.foldl after engine

/-- The document that an event adds to an engine, if it adds one. -/
def admitted? (engine : Engine τ) : Event τ → Option τ
  | .call (.insert document) => (engine.insert document).1.toOption.map fun _ => document
  | _ => none

/-- The documents that a history adds, in order. -/
def admitted (engine : Engine τ) : List (Event τ) → List τ
  | [] => []
  | event :: history =>
    (engine.admitted? event).toList ++ (engine.after event).admitted history

end Engine

end Retrieval
