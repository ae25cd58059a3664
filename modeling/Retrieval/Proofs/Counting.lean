import Retrieval.Weight
import Retrieval.Proofs.OrderedMap

set_option autoImplicit false

/-! # Document frequencies

The corpus counts with every document, for each of its terms, one more document that holds the
term. Here the same statistics are made from all documents at once (`Corpus.ofTokens`), and adding
a document to the one is adding it to the other (`add_ofTokens`). What the counts say is
`Counts`: their keys are the terms of the documents in the order of first occurrence, and the count
of a term is the number of documents that hold it. -/

namespace Retrieval

/-! ## Counting a term -/

namespace Tokens

theorem keys_countTerm (counts : OrderedMap String Number) (term : String) :
    (countTerm counts term).keys = see counts.keys term :=
  OrderedMap.keys_insert_eq_see counts term _

theorem get?_countTerm (counts : OrderedMap String Number) (term other : String) :
    (countTerm counts term).get? other =
      if other = term then some (counts.getD term (.int 0)).succ else counts.get? other :=
  OrderedMap.get?_insert counts term _ other

theorem getD_foldl_countTerm {counts : OrderedMap String Number} {term : String} {n : Nat}
    (h : counts.getD term (.int 0) = .int n) (terms : List String) :
    (terms.foldl countTerm counts).getD term (.int 0) = .int (n + terms.count term : Nat) := by
  induction terms generalizing counts n with
  | nil => exact h
  | cons t rest ih =>
    rw [List.foldl_cons, List.count_cons]
    by_cases hterm : term = t
    · subst hterm
      have hnext : (countTerm counts term).getD term (.int 0) = .int (n + 1 : Nat) := by
        rw [OrderedMap.getD, get?_countTerm, if_pos rfl, Option.getD_some, h]
        rfl
      rw [ih hnext, beq_self_eq_true, if_pos rfl]
      congr 1
      omega
    · have hnext : (countTerm counts t).getD term (.int 0) = .int n := by
        rw [OrderedMap.getD, get?_countTerm, if_neg hterm]
        exact h
      rw [ih hnext, beq_false_of_ne (Ne.symm hterm)]
      rfl

end Tokens

namespace Corpus

/-! ## Counting a document -/

theorem keys_countDocument (counts : OrderedMap String Number) (terms : List String) :
    (countDocument counts terms).keys = terms.foldl see counts.keys := by
  induction terms generalizing counts with
  | nil => rfl
  | cons t rest ih =>
    rw [countDocument, List.foldl_cons, ← countDocument, ih, Tokens.keys_countTerm, List.foldl_cons]

/-- The different terms of a list stand in the order of first occurrence. -/
theorem terms_ofList (terms : List String) : (Tokens.ofList terms).terms = terms.eraseDups :=
  (keys_countDocument .empty terms).trans (foldl_see_nil terms)

theorem getD_counts_ofList (terms : List String) (term : String) :
    (Tokens.ofList terms).counts.getD term (.int 0) = .int (terms.count term) := by
  have hcount : (Tokens.ofList terms).counts.getD term (.int 0) =
      .int (0 + terms.count term : Nat) :=
    Tokens.getD_foldl_countTerm rfl terms
  rw [hcount, Nat.zero_add]

/-- The count of a term in a list is the number of its occurrences there. -/
theorem get?_counts_ofList (terms : List String) (term : String) :
    (Tokens.ofList terms).counts.get? term =
      if term ∈ terms then some (.int (terms.count term)) else none := by
  rw [OrderedMap.get?_eq_ite_getD _ term (.int 0), ← Tokens.terms, terms_ofList,
    getD_counts_ofList]
  simp only [List.mem_eraseDups]

/-- A document counts once for each of its terms, and for no other term. -/
theorem get?_countDocument (counts : OrderedMap String Number) {terms : List String}
    (h : terms.Nodup) (term : String) :
    (countDocument counts terms).get? term =
      if term ∈ terms then some (counts.getD term (.int 0)).succ else counts.get? term := by
  induction terms generalizing counts with
  | nil => rfl
  | cons t rest ih =>
    obtain ⟨ht, hrest⟩ := List.nodup_cons.1 h
    rw [countDocument, List.foldl_cons, ← countDocument, ih _ hrest, Tokens.get?_countTerm]
    -- the first term is counted once, and not again with the rest
    by_cases hterm : term = t
    · subst hterm
      simp [ht]
    · simp [OrderedMap.getD, Tokens.get?_countTerm, hterm]

/-! ## Counting all documents -/

/-- The counts of a list of documents, one after the other. -/
def countDocuments (documents : List Tokens) : OrderedMap String Number :=
  documents.foldl (fun counts tokens => countDocument counts tokens.terms) .empty

/-- The number of documents that hold a term. -/
def holders (documents : List Tokens) (term : String) : Nat :=
  documents.countP fun tokens => tokens.terms.contains term

theorem holders_append (documents others : List Tokens) (term : String) :
    holders (documents ++ others) term = holders documents term + holders others term :=
  List.countP_append

theorem holders_le_length (documents : List Tokens) (term : String) :
    holders documents term ≤ documents.length :=
  List.countP_le_length

/-- What counts say about the documents that were counted. -/
structure Counts (counts : OrderedMap String Number) (documents : List Tokens) : Prop where
  keys : counts.keys = (documents.flatMap Tokens.terms).eraseDups
  getD : ∀ term, counts.getD term (.int 0) = .int (holders documents term)

theorem Counts.add {counts : OrderedMap String Number} {documents : List Tokens}
    (h : Counts counts documents) (tokens : Tokens) :
    Counts (countDocument counts tokens.terms) (documents ++ [tokens]) where
  keys := by
    rw [keys_countDocument, h.keys, foldl_see_eraseDups]
    simp
  getD term := by
    have hnodup : tokens.terms.Nodup := tokens.counts.nodup_keys
    have hold := h.getD term
    rw [OrderedMap.getD, get?_countDocument counts hnodup, hold, holders_append]
    by_cases hterm : term ∈ tokens.terms
    · simp [hterm, holders, Number.succ]
    · rw [if_neg hterm, ← OrderedMap.getD, hold]
      simp [hterm, holders]

theorem Counts.addAll {counts : OrderedMap String Number} {documents : List Tokens}
    (h : Counts counts documents) (others : List Tokens) :
    Counts (others.foldl (fun counts tokens => countDocument counts tokens.terms) counts)
      (documents ++ others) := by
  induction others generalizing counts documents with
  | nil => simpa using h
  | cons tokens rest ih => simpa using ih (h.add tokens)

theorem counts_countDocuments (documents : List Tokens) :
    Counts (countDocuments documents) documents := by
  have hempty : Counts .empty [] := ⟨rfl, fun _ => rfl⟩
  exact hempty.addAll documents

/-- A term has a count if it occurs in a document, and then its count is the number of documents
that hold it. -/
theorem Counts.get? {counts : OrderedMap String Number} {documents : List Tokens}
    (h : Counts counts documents) (term : String) :
    counts.get? term =
      if term ∈ documents.flatMap Tokens.terms then some (.int (holders documents term))
      else none := by
  rw [counts.get?_eq_ite_getD term (.int 0), h.keys, h.getD]
  simp only [List.mem_eraseDups]

/-! ## The corpus of a list of documents -/

/-- The corpus of documents with these tokens, whose statistics are counted at once. -/
def ofTokens (documents : List Tokens) : Corpus where
  records := documents.mapIdx fun id tokens => { id, tokens }
  total := .int documents.length
  frequencies := countDocuments documents

@[simp]
theorem size_ofTokens (documents : List Tokens) : (ofTokens documents).size = documents.length :=
  List.length_mapIdx

/-- Adding a document counts as if it had been there from the start. -/
theorem add_ofTokens (documents : List Tokens) (tokens : Tokens) :
    (ofTokens documents).add tokens = ofTokens (documents ++ [tokens]) := by
  have hrecords : (ofTokens (documents ++ [tokens])).records =
      (ofTokens documents).records ++ [{ id := documents.length, tokens }] :=
    List.mapIdx_concat
  have hfrequencies : countDocuments (documents ++ [tokens]) =
      countDocument (countDocuments documents) tokens.terms :=
    List.foldl_append
  have htotal : (ofTokens documents).total.succ = .int (documents ++ [tokens]).length := by
    simp [ofTokens, Number.succ]
  rw [add, size_ofTokens, ← hrecords, htotal, show (ofTokens documents).frequencies =
    countDocuments documents from rfl, ← hfrequencies]
  rfl

/-- The statistics of a list of documents: their number, and for each term the number of those
that hold it. -/
theorem statistics_ofTokens (documents : List Tokens) :
    (ofTokens documents).statistics =
      { total := .int documents.length
        frequency := fun term => .int (holders documents term) } := by
  have hfrequency : (ofTokens documents).frequency = fun term => .int (holders documents term) :=
    funext (counts_countDocuments documents).getD
  rw [statistics, hfrequency]
  rfl

end Corpus

end Retrieval
