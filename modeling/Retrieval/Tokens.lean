import Retrieval.Number
import Retrieval.OrderedMap
set_option autoImplicit false

/-! # Tokens of a text

What a tokenizer makes of a text: how often each term occurs, in the order of first occurrence, and
how many tokens there are. The numbers are those that the tokenizer gives; nothing here requires
that they are whole, positive or consistent. -/

namespace Retrieval

/-- The counts of the terms of a text, and its length in tokens. -/
structure Tokens where
  counts : OrderedMap String Number
  length : Number
  deriving DecidableEq, Inhabited

namespace Tokens

/-- The different terms, in the order of their first occurrence. -/
def terms (tokens : Tokens) : List String := tokens.counts.keys

/-- One more occurrence of a term. -/
def countTerm (counts : OrderedMap String Number) (term : String) : OrderedMap String Number :=
  counts.insert term (counts.getD term (.int 0)).succ

/-- The counts of a list of terms. -/
def ofList (terms : List String) : Tokens :=
  { counts := terms.foldl countTerm .empty
    length := .int terms.length }

end Tokens

end Retrieval
