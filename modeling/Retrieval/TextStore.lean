import Retrieval.Error
set_option autoImplicit false

/-! # The store of texts

The texts of the documents, kept by position. A store may misbehave: it can refuse to write, to
read or to be closed, and it can report another position than the one at which it put a text. How
it behaves at present is its `Conduct`, which may change at any time.

A position in a list is counted from the front if it is not negative, and from the back otherwise:
`-1` is the last position. -/

namespace Retrieval

/-! ## Positions from either end -/

/-- The element at a position counted from the front, or from the back if negative. -/
def atPosition? {α : Type} (xs : List α) (position : Int) : Option α :=
  if 0 ≤ position then xs[position.toNat]?
  else if 0 ≤ xs.length + position then xs[(xs.length + position).toNat]?
  else none

/-! ## Stores -/

/-- How a store behaves at present. -/
structure Conduct where
  /-- The failure of every attempt to add a text. -/
  writeFailure : Option Failure := none
  /-- The failure of an attempt to read at a position that is unreadable. -/
  readFailure : Int → Option Failure := fun _ => none
  /-- The positions that fail, if reading them has a failure. -/
  unreadable : Int → Bool := fun _ => true
  /-- The failure of every attempt to close. -/
  closeFailure : Option Failure := none
  /-- What is added to the position of a new text before it is reported. -/
  offset : Int := 0

/-- The texts of the documents by position. -/
structure TextStore (τ : Type) where
  texts : List τ := []
  /-- Whether the store has been closed, which drops the texts. -/
  released : Bool := false
  /-- How often the store has been asked to close. -/
  closeRequests : Nat := 0
  conduct : Conduct := {}

namespace TextStore

variable {τ : Type}

/-- The number of texts. -/
def size (store : TextStore τ) : Nat := store.texts.length

/-- Adds a text at the end and reports its position, or fails and adds nothing. -/
def append (store : TextStore τ) (text : τ) : Except Failure Int × TextStore τ :=
  match store.conduct.writeFailure with
  | some failure => (.error failure, store)
  | none =>
    (.ok (store.size + store.conduct.offset), { store with texts := store.texts ++ [text] })

/-- The failure that a read at a position meets before the position is looked up. -/
def refusal (store : TextStore τ) (position : Int) : Option Failure :=
  if store.conduct.unreadable position then store.conduct.readFailure position else none

/-- The text at a position, which counts from the end if it is negative. -/
def get (store : TextStore τ) (position : Int) : Except Failure τ :=
  match store.refusal position with
  | some failure => .error failure
  | none =>
    match atPosition? store.texts position with
    | some text => .ok text
    | none => .error .outOfRange

/-- Drops the texts; a store that is released already keeps what was added since. -/
def release (store : TextStore τ) : TextStore τ :=
  if store.released then store else { store with texts := [], released := true }

/-- Closes the store, or fails and drops nothing. -/
def close (store : TextStore τ) : Except Failure Unit × TextStore τ :=
  let asked := { store with closeRequests := store.closeRequests + 1 }
  match store.conduct.closeFailure with
  | some failure => (.error failure, asked)
  | none => (.ok (), asked.release)

end TextStore

end Retrieval
