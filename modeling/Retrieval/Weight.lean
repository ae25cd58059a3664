import Retrieval.Corpus
import Retrieval.Vocabulary
set_option autoImplicit false

/-! # Weights of terms

The weight of a term in a text is its frequency there, relative to the length of the text, times a
measure of how rare the term is among all documents. A text becomes a vector with one entry for
each known term: the weight of the term, or zero if the text does not hold it. -/

namespace Retrieval

/-- The vectors of documents and queries. -/
abbrev DocumentVector := List Binary64

/-- What weights depend on besides the text: the number of documents, and for each term the number
of documents that hold it. -/
structure Statistics where
  total : Number
  frequency : String → Number

/-- The statistics that a corpus keeps. -/
def Corpus.statistics (corpus : Corpus) : Statistics where
  total := corpus.total
  frequency := corpus.frequency

/-- The frequency of a term relative to the length of the text; zero in a text without tokens. -/
def termFrequency (tokens : Tokens) (term : String) : Except ArithmeticError Binary64 :=
  if tokens.length.isZero then .ok .zero
  else (tokens.counts.getD term (.int 0)).div tokens.length

namespace Statistics

/-- How rare a term is: `ln (n / (df + 1)) + 1`, where `n` is the number of documents and `df` the
number of those that hold the term. -/
def inverseFrequency (statistics : Statistics) (term : String) :
    Except ArithmeticError Binary64 := do
  let ratio ← statistics.total.div (statistics.frequency term).succ
  let log ← ratio.log
  return log.add .one

/-- The weight of a term in a text. -/
def weight (statistics : Statistics) (tokens : Tokens) (term : String) :
    Except ArithmeticError Binary64 := do
  let tf ← termFrequency tokens term
  let idf ← statistics.inverseFrequency term
  return tf.mul idf

/-- The weights of the known terms of a text, in the order of the text. -/
def weights (statistics : Statistics) (known : List String) (tokens : Tokens) :
    Except ArithmeticError (List (String × Binary64)) :=
  (tokens.terms.filter known.contains).mapM fun term => do
    return (term, ← statistics.weight tokens term)

/-- The entries for the known terms: the given weights, and zero for the terms without one. -/
def layOut (known : List String) (weights : List (String × Binary64)) : DocumentVector :=
  known.map fun term => (weights.lookup term).getD .zero

/-- The vector of a text. -/
def vector (statistics : Statistics) (known : List String) (tokens : Tokens) :
    Except ArithmeticError DocumentVector :=
  layOut known <$> statistics.weights known tokens

end Statistics

end Retrieval
