import Retrieval.TextStore
import Retrieval.Tokens
set_option autoImplicit false

/-! # The corpus

The records of the documents in order of arrival, and the statistics that weights are made of: how
many documents there are, and in how many of them each term occurs. The statistics are counted up
with every document, and can be recounted from the records. -/

namespace Retrieval

/-- What is kept of a document: its id and its tokens. -/
structure Record where
  id : Int
  tokens : Tokens
  deriving DecidableEq, Inhabited

/-- The records and their statistics. -/
structure Corpus where
  records : List Record
  /-- How many documents there are. -/
  total : Number
  /-- In how many documents each term occurs. -/
  frequencies : OrderedMap String Number
  deriving DecidableEq, Inhabited

namespace Corpus

/-- The corpus without documents. -/
def empty : Corpus := { records := [], total := .int 0, frequencies := .empty }

/-- The number of records. -/
def size (corpus : Corpus) : Nat := corpus.records.length

/-- In how many documents a term occurs. -/
def frequency (corpus : Corpus) (term : String) : Number :=
  corpus.frequencies.getD term (.int 0)

/-- The record at a position. -/
def record? (corpus : Corpus) (position : Int) : Option Record :=
  atPosition? corpus.records position

/-- One more document for each of the terms. -/
def countDocument (frequencies : OrderedMap String Number) (terms : List String) :
    OrderedMap String Number :=
  terms.foldl Tokens.countTerm frequencies

/-- The corpus with a document added, whose id is its position. -/
def add (corpus : Corpus) (tokens : Tokens) : Corpus :=
  { records := corpus.records ++ [{ id := corpus.size, tokens }]
    total := corpus.total.succ
    frequencies := countDocument corpus.frequencies tokens.terms }

/-- The corpus with its statistics counted anew from the records. -/
def recount (corpus : Corpus) : Corpus :=
  { corpus with
    total := .int corpus.size
    frequencies :=
      corpus.records.foldl (fun counts record => countDocument counts record.tokens.terms) .empty }

/-- The corpus with a record put at the end and the statistics left as they are. -/
def push (corpus : Corpus) (record : Record) : Corpus :=
  { corpus with records := corpus.records ++ [record] }

end Corpus

end Retrieval
