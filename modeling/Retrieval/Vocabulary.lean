set_option autoImplicit false

/-! # Vocabularies

The terms that have been seen, without repetition and in the order in which they were first seen.
The place of a term is its dimension in every vector; it never changes, because terms are only
added at the end. -/

namespace Retrieval

/-- The terms that have been seen, by dimension. -/
structure Vocabulary where
  terms : List String
  nodup : terms.Nodup
  deriving DecidableEq

namespace Vocabulary

/-- The vocabulary before any term has been seen. -/
def empty : Vocabulary := ⟨[], List.nodup_nil⟩

instance : Inhabited Vocabulary := ⟨empty⟩

/-- The number of terms, which is the length of every vector. -/
def size (v : Vocabulary) : Nat := v.terms.length

/-- Whether a term has been seen. -/
def contains (v : Vocabulary) (term : String) : Bool := v.terms.contains term

/-- The dimension of a term that has been seen. -/
def dimension? (v : Vocabulary) (term : String) : Option Nat := v.terms.idxOf? term

/-- The vocabulary after one term has been seen. -/
def add (v : Vocabulary) (term : String) : Vocabulary :=
  if h : term ∈ v.terms then v
  else
    ⟨v.terms ++ [term], by
      rw [List.nodup_append]
      refine ⟨v.nodup, by simp, ?_⟩
      intro a ha b hb
      rw [List.mem_singleton] at hb
      exact fun hab => h (hb ▸ hab ▸ ha)⟩

theorem terms_add (v : Vocabulary) (term : String) :
    (v.add term).terms = if term ∈ v.terms then v.terms else v.terms ++ [term] := by
  unfold add
  split <;> rfl

/-- The vocabulary after a list of terms has been seen. -/
def addAll (v : Vocabulary) (terms : List String) : Vocabulary := terms.foldl add v

/-- Sees a list of terms. The flag says whether one of them was new. -/
def observe (v : Vocabulary) (terms : List String) : Bool × Vocabulary :=
  (terms.any (fun term => !v.contains term), v.addAll terms)

end Vocabulary

end Retrieval
