import Retrieval.Proofs.Collection
import Retrieval.Proofs.Engine.Effects
import Retrieval.Proofs.Rebuild

set_option autoImplicit false

/-! # What an engine holds

An engine counts, numbers and caches step by step; a collection is only a list of documents. An
engine *reflects* a collection if its corpus and its vocabulary are those that follow from the
documents at once, and its cache, unless it is marked as dirty, is what a rebuild would give now.
The empty engine reflects the empty collection, and each effect of a call takes an engine that
reflects its documents to one that reflects them with those just added (`Reflects.effect`). So an
engine reflects the documents that its history has added (`reflects_afterAll`). -/

namespace Retrieval

variable {τ : Type}

namespace Engine

/-! ## Engines that reflect a collection -/

/-- The engine holds what follows from the documents of the collection. -/
structure Reflects (engine : Engine τ) (collection : Collection τ) : Prop where
  tokenizer_eq : engine.tokenizer = collection.tokenizer
  tokenized : collection.Tokenized
  corpus_eq : engine.corpus = .ofTokens collection.tokens
  vocabulary_eq : engine.vocabulary.terms = collection.terms
  /-- The texts of the documents come first in the store; stray texts come after them. -/
  stored : engine.closed = false → collection.documents <+: engine.store.texts
  fitsIn : engine.cache.FitsIn engine.vocabulary.size
  /-- A clean cache is not out of date. -/
  rebuilt : engine.cache.dirty = false →
    VectorCache.rebuild engine.corpus engine.vocabulary = .ok engine.cache

theorem reflects_fresh (tokenizer : Tokenizer τ) (texts : List τ) :
    (fresh tokenizer texts).Reflects ⟨tokenizer, []⟩ where
  tokenizer_eq := rfl
  tokenized := nofun
  corpus_eq := rfl
  vocabulary_eq := rfl
  stored _ := List.nil_prefix
  fitsIn := VectorCache.fitsIn_empty _
  rebuilt _ := rfl

theorem Reflects.size_eq {engine : Engine τ} {collection : Collection τ}
    (h : engine.Reflects collection) : engine.corpus.size = collection.documents.length := by
  rw [h.corpus_eq, Corpus.size_ofTokens, Collection.length_tokens h.tokenized]

/-- An engine takes a text only while its store holds the texts of its documents and no others. -/
theorem Reflects.texts_eq {engine : Engine τ} {collection : Collection τ}
    (h : engine.Reflects collection) (hopen : engine.closed = false)
    (hsize : engine.store.size = engine.corpus.size) :
    engine.store.texts = collection.documents := by
  have hlength : collection.documents.length = engine.store.texts.length :=
    h.size_eq.symm.trans hsize.symm
  exact ((h.stored hopen).eq_of_length hlength).symm

/-! ## Effects keep the reflection -/

theorem Reflects.withStray {engine : Engine τ} {collection : Collection τ}
    (h : engine.Reflects collection) (text : τ) : (engine.withStray text).Reflects collection :=
  { h with stored := fun hopen => (h.stored hopen).trans (List.prefix_append _ _) }

theorem Reflects.withConduct {engine : Engine τ} {collection : Collection τ}
    (h : engine.Reflects collection) (conduct : Conduct) :
    (engine.withConduct conduct).Reflects collection :=
  { h with }

theorem Reflects.caching {engine : Engine τ} {collection : Collection τ} {cache : VectorCache}
    (h : engine.Reflects collection)
    (hcache : VectorCache.rebuild engine.corpus engine.vocabulary = .ok cache) :
    Reflects { engine with cache } collection :=
  { h with
    fitsIn := VectorCache.fitsIn_of_rebuild hcache
    rebuilt := fun _ => hcache }

theorem Reflects.admitting {engine : Engine τ} {tokenizer : Tokenizer τ} {documents : List τ}
    {text : τ} {tokens : Tokens} (h : engine.Reflects ⟨tokenizer, documents⟩)
    (hopen : engine.closed = false) (hadmits : engine.Admits text tokens) :
    (engine.admitting text tokens).Reflects ⟨tokenizer, documents ++ [text]⟩ := by
  have htokenizer : engine.tokenizer = tokenizer := h.tokenizer_eq
  have htokens : tokenizer text = .ok tokens := htokenizer ▸ hadmits.tokens_eq
  have hconcat := Collection.tokens_concat htokens documents
  have hvocabulary : (engine.vocabulary.addAll tokens.terms).terms =
      Collection.terms ⟨tokenizer, documents ++ [text]⟩ := by
    rw [Vocabulary.terms_addAll, h.vocabulary_eq, Collection.terms, Collection.terms, hconcat,
      foldl_see_eraseDups, List.flatMap_append, List.flatMap_singleton]
  have hdirty : (engine.admitting text tokens).cache.dirty = true := rfl
  refine ⟨h.tokenizer_eq, ?_, ?_, hvocabulary, ?_, ?_, ?_⟩
  · -- the new document is accepted, as those before it
    intro document hdocument
    rcases List.mem_append.1 hdocument with hold | hnew
    · exact h.tokenized document hold
    · rw [List.mem_singleton.1 hnew]
      exact ⟨tokens, htokens⟩
  · -- the corpus
    show engine.corpus.add tokens = _
    rw [h.corpus_eq, Corpus.add_ofTokens, hconcat]
  · -- the store held the texts of the documents and no others, since it was in step
    intro _
    have htexts : engine.store.texts = documents := h.texts_eq hopen hadmits.inStep
    show documents ++ [text] <+: engine.store.texts ++ [text]
    exact htexts ▸ List.prefix_rfl
  · exact h.fitsIn.markDirty.mono (engine.vocabulary.size_le_size_addAll tokens.terms)
  · -- the cache is dirty now
    intro hclean
    rw [hdirty] at hclean
    cases hclean

/-- What a call does to an engine that reflects a list of documents, it does to the list. -/
theorem Reflects.effect {engine after : Engine τ} {tokenizer : Tokenizer τ}
    {documents new : List τ} (h : engine.Reflects ⟨tokenizer, documents⟩)
    (heffect : engine.Effect new after) : after.Reflects ⟨tokenizer, documents ++ new⟩ := by
  cases heffect with
  | idle => rwa [List.append_nil]
  | stray text hopen =>
    rw [List.append_nil]
    exact h.withStray text
  | admission hopen hadmits => exact h.admitting hopen hadmits
  | rebuild hopen hcache =>
    rw [List.append_nil]
    exact h.caching hcache
  | closing hopen hconduct =>
    rw [List.append_nil]
    exact { h with stored := nofun }

/-- After any history, an engine reflects the documents that the history has added. -/
theorem reflects_afterAll (tokenizer : Tokenizer τ) (texts : List τ) (history : List (Event τ)) :
    ((fresh tokenizer texts).afterAll history).Reflects
      ⟨tokenizer, (fresh tokenizer texts).admitted history⟩ := by
  have hstart := reflects_fresh tokenizer texts
  exact afterAll_induction
    (motive := fun engine documents => engine.Reflects ⟨tokenizer, documents⟩)
    (fun h heffect => h.effect heffect) (fun _ h => h.withConduct _) [] hstart

end Engine

end Retrieval
