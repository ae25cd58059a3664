import Retrieval.Proofs.Engine.Answers

set_option autoImplicit false

/-! # Which errors can occur

Each call can fail with one kind of error besides that of a closed engine, provided that the
tokenizer counts as a tokenizer should (`Tokenizer.WellFormed`) and that the store fails only in the
ways that are foreseen (`Conduct.Foreseen`). `Engine.Safe` lists the kinds; the point of it is what
is not in the list: a rebuild never fails, and no vector is missing, too short or without a
similarity. An engine that reflects a collection of less than `2 ^ 1000` documents is safe
(`Reflects.safe`), because then all vectors of the collection can be calculated. -/

namespace Retrieval

variable {τ : Type}

/-! ## What is assumed of the parts -/

/-- Writing and reading fail only in the ways that the engine expects of a store. -/
structure Conduct.Foreseen (conduct : Conduct) : Prop where
  write : ∀ failure, conduct.writeFailure = some failure → failure.isWriteFailure = true
  read : ∀ position failure, conduct.unreadable position = true →
    conduct.readFailure position = some failure → failure.isReadFailure = true

theorem Conduct.foreseen_default : Conduct.Foreseen {} := ⟨nofun, nofun⟩

theorem TextStore.isReadFailure_of_get {store : TextStore τ} (h : store.conduct.Foreseen)
    {position : Int} {failure : Failure} (hget : store.get position = .error failure) :
    failure.isReadFailure = true := by
  unfold get at hget
  cases hrefusal : store.refusal position with
  | some refused =>
    rw [hrefusal] at hget
    cases hget
    unfold refusal at hrefusal
    split at hrefusal
    · next hunreadable => exact h.read position _ hunreadable hrefusal
    · cases hrefusal
  | none =>
    rw [hrefusal] at hget
    cases hlookup : atPosition? store.texts position with
    | some text =>
      rw [hlookup] at hget
      cases hget
    | none =>
      rw [hlookup] at hget
      cases hget
      rfl

/-- A limit that is an integer, or none at all. -/
inductive Limit.Whole : Limit → Prop
  | unbounded : Whole .unbounded
  | count (n : Int) : Whole (.count n)

theorem Limit.Whole.excludesAll {limit : Limit} (h : limit.Whole) :
    ∃ excluded, limit.excludesAll = .ok excluded := by
  cases h <;> exact ⟨_, rfl⟩

theorem Limit.Whole.cut {α : Type} {limit : Limit} (h : limit.Whole) (hits : List α) :
    ∃ kept, limit.cut hits = .ok kept := by
  cases h <;> exact ⟨_, rfl⟩

namespace Engine

/-! ## Safe engines -/

/-- The calls of an engine fail with no error but the one that each is for. -/
structure Safe (engine : Engine τ) : Prop where
  insert_error : ∀ text error, (engine.insert text).1 = .error error →
    (engine.closed = true ∧ error = .closed) ∨
      (engine.closed = false ∧ ∃ cause, error = .write cause)
  search_error : ∀ query limit, limit.Whole →
    ∀ error, (engine.search query limit).1 = .error error →
      (engine.closed = true ∧ error = .closed) ∨
        (engine.closed = false ∧ ∃ cause, error = .read cause)
  allDocuments_error : ∀ error, engine.allDocuments.1 = .error error →
    (engine.closed = true ∧ error = .closed) ∨
      (engine.closed = false ∧ ∃ cause, error = .read cause)
  /-- An open engine has the vectors of its documents and no others. -/
  documentVector_error : ∀ id error, (engine.documentVector id).1 = .error error ↔
    (engine.closed = true ∧ error = .closed) ∨
      (engine.closed = false ∧ error = .noVector id ∧ ¬ (0 ≤ id ∧ id < engine.corpus.size))
  /-- No rebuild fails. -/
  refresh_ok : ∃ rebuilt, engine.refresh.1 = .ok rebuilt
  /-- No vector of a query fails but with its tokenizer. -/
  queryVector_error : ∀ query error, engine.refresh.2.queryVector query = .error error →
    ∃ failure, error = .read (.untokenized failure)
  /-- No ranking fails over a similarity. -/
  score_ok : ∀ query v, engine.refresh.2.queryVector query = .ok (some v) →
    ∃ scores, score (v.map .double)
      (engine.refresh.2.cache.vectors.map fun v => v.map .double) = .ok scores

theorem isReadError_of_text {engine : Engine τ} (h : engine.store.conduct.Foreseen) {id : Int}
    {error : Error} (herror : engine.text id = .error error) : ∃ cause, error = .read cause := by
  obtain ⟨failure, hget, rfl⟩ := mapError_eq_error_iff.1 herror
  have hread := TextStore.isReadFailure_of_get h hget
  exact ⟨_, by rw [readError, if_pos hread]⟩

theorem isWriteError_of_rejection {engine : Engine τ} (h : engine.store.conduct.Foreseen) {text : τ}
    {error : Error} (hreject : engine.Rejection text error) : ∃ cause, error = .write cause := by
  cases hreject with
  | passedOn htokens hsize hwrite hother =>
    have hforeseen := h.write _ hwrite
    rw [hother] at hforeseen
    cases hforeseen
  | untokenized htokens => exact ⟨_, rfl⟩
  | outOfStep htokens hsize => exact ⟨_, rfl⟩
  | unstored htokens hsize hwrite hsystem => exact ⟨_, rfl⟩
  | misnumbered htokens hsize hwrite hoffset => exact ⟨_, rfl⟩

theorem insert_error {engine : Engine τ} (h : engine.store.conduct.Foreseen) {text : τ}
    {error : Error} (herror : (engine.insert text).1 = .error error) :
    (engine.closed = true ∧ error = .closed) ∨
      (engine.closed = false ∧ ∃ cause, error = .write cause) := by
  rcases engine.insert_cases text with
    ⟨hclosed, heq⟩ | ⟨hopen, cause, hreject, heq⟩ | ⟨hopen, tokens, -, heq⟩
  · rw [heq] at herror
    cases herror
    exact Or.inl ⟨hclosed, rfl⟩
  · rw [heq] at herror
    cases herror
    exact Or.inr ⟨hopen, isWriteError_of_rejection h hreject⟩
  · rw [heq] at herror
    cases herror

theorem allDocuments_error {engine : Engine τ} (h : engine.store.conduct.Foreseen) {error : Error}
    (herror : engine.allDocuments.1 = .error error) :
    (engine.closed = true ∧ error = .closed) ∨
      (engine.closed = false ∧ ∃ cause, error = .read cause) := by
  unfold allDocuments whenOpen at herror
  cases hclosed : engine.closed with
  | true =>
    rw [hclosed, if_pos rfl] at herror
    cases herror
    exact Or.inl ⟨rfl, rfl⟩
  | false =>
    rw [hclosed, if_neg Bool.false_ne_true] at herror
    obtain ⟨record, -, htext⟩ := exists_mem_of_mapM_eq_error herror
    exact Or.inr ⟨rfl, isReadError_of_text h htext⟩

theorem exists_score_refreshed (engine : Engine τ) {collection : Collection τ}
    {vectors : List DocumentVector} (hvectors : collection.vectors = .ok vectors) {query : τ}
    {v : DocumentVector} (hv : collection.queryVector query = .ok (some v)) :
    ∃ scores, score (v.map .double)
      ((engine.refreshed vectors).cache.vectors.map fun v => v.map .double) = .ok scores := by
  show ∃ scores, score _ ((OrderedMap.numbering vectors).map fun v => v.map .double) = .ok scores
  rw [OrderedMap.map_numbering]
  apply Collection.exists_score_eq_ok
  intro other hother
  rw [Collection.length_of_queryVector hv, Collection.length_of_mem_vectors hvectors hother]

section Reflecting

variable {engine : Engine τ} {collection : Collection τ} (h : engine.Reflects collection)
include h

theorem Reflects.refresh_of_vectors {vectors : List DocumentVector}
    (hvectors : collection.vectors = .ok vectors) :
    ∃ rebuilt, engine.refresh = (.ok rebuilt, engine.refreshed vectors) := by
  rcases h.refresh with ⟨error, herror, -⟩ | ⟨others, rebuilt, hothers, heq⟩
  · rw [hvectors] at herror
    cases herror
  · rw [hvectors] at hothers
    cases hothers
    exact ⟨rebuilt, heq⟩

/-- After a refresh, an answer fails only with the tokenizer or with a text that cannot be read. -/
theorem Reflects.answer_error (hconduct : engine.store.conduct.Foreseen)
    (htokenizer : collection.tokenizer.WellFormed)
    (hsize : collection.tokens.length ≤ twoPow 1000) {vectors : List DocumentVector}
    (hvectors : collection.vectors = .ok vectors) {query : τ} {limit : Limit} (hlimit : limit.Whole)
    {error : Error} (herror : (engine.refreshed vectors).answer query limit = .error error) :
    ∃ cause, error = .read cause := by
  have hquery : (engine.refreshed vectors).queryVector query = collection.queryVector query :=
    h.queryVector query
  unfold Engine.answer at herror
  rw [hquery] at herror
  cases hv : collection.queryVector query with
  | error cause =>
    rw [hv] at herror
    cases herror
    obtain ⟨failure, rfl⟩ := Collection.queryVector_error htokenizer hsize hv
    exact ⟨_, rfl⟩
  | ok queried =>
    rw [hv, ok_bind] at herror
    cases queried with
    | none => cases herror
    | some v =>
      rcases rank_error_cases herror with hexcludes | ⟨cause, hscore, -⟩ | ⟨scores, hcut⟩ |
        ⟨id, -, htext⟩
      · obtain ⟨excluded, hok⟩ := hlimit.excludesAll
        rw [hok] at hexcludes
        cases hexcludes
      · obtain ⟨scores, hok⟩ := engine.exists_score_refreshed hvectors hv
        rw [hok] at hscore
        cases hscore
      · obtain ⟨kept, hok⟩ := hlimit.cut scores
        rw [hok] at hcut
        cases hcut
      · have hrefreshed : (engine.refreshed vectors).store.conduct.Foreseen := hconduct
        exact isReadError_of_text hrefreshed htext

theorem Reflects.search_error (hconduct : engine.store.conduct.Foreseen)
    (htokenizer : collection.tokenizer.WellFormed)
    (hsize : collection.tokens.length ≤ twoPow 1000) {query : τ} {limit : Limit}
    (hlimit : limit.Whole) {error : Error}
    (herror : (engine.search query limit).1 = .error error) :
    (engine.closed = true ∧ error = .closed) ∨
      (engine.closed = false ∧ ∃ cause, error = .read cause) := by
  obtain ⟨vectors, hvectors⟩ := Collection.exists_vectors_eq_ok htokenizer hsize
  obtain ⟨rebuilt, hrefresh⟩ := h.refresh_of_vectors hvectors
  obtain ⟨excluded, hexcludes⟩ := hlimit.excludesAll
  unfold Engine.search at herror
  cases hclosed : engine.closed with
  | true =>
    rw [hclosed, if_pos rfl] at herror
    cases herror
    exact Or.inl ⟨rfl, rfl⟩
  | false =>
    rw [hclosed, if_neg Bool.false_ne_true, hexcludes, hrefresh] at herror
    right
    cases excluded with
    | true => cases herror
    | false => exact ⟨rfl, h.answer_error hconduct htokenizer hsize hvectors hlimit herror⟩

/-- The vectors of a collection stand behind the ids from zero up to the number of records. -/
theorem Reflects.documentVector_error {vectors : List DocumentVector}
    (hvectors : collection.vectors = .ok vectors) {id : Int} {error : Error} :
    (engine.documentVector id).1 = .error error ↔
      (engine.closed = true ∧ error = .closed) ∨
        (engine.closed = false ∧ error = .noVector id ∧ ¬ (0 ≤ id ∧ id < engine.corpus.size)) := by
  have hlength : vectors.length = engine.corpus.size := by
    rw [h.size_eq, Collection.length_vectors h.tokenized hvectors]
  rw [h.documentVector, ← hlength]
  cases hclosed : engine.closed with
  | true => simp [eq_comm]
  | false => simp [Collection.documentVector_error hvectors]

/-- An engine that reflects a collection of well-formed tokens is safe, as long as its store fails
only as foreseen and its documents are not too many. -/
theorem Reflects.safe (hconduct : engine.store.conduct.Foreseen)
    (htokenizer : collection.tokenizer.WellFormed) (hrecords : engine.corpus.size ≤ twoPow 1000) :
    engine.Safe := by
  have hsize : collection.tokens.length ≤ twoPow 1000 := by
    rwa [h.corpus_eq, Corpus.size_ofTokens] at hrecords
  obtain ⟨vectors, hvectors⟩ := Collection.exists_vectors_eq_ok htokenizer hsize
  obtain ⟨rebuilt, hrefresh⟩ := h.refresh_of_vectors hvectors
  have hquery : ∀ query, engine.refresh.2.queryVector query = collection.queryVector query := by
    intro query
    rw [hrefresh]
    exact h.queryVector query
  exact {
    insert_error := fun _ _ herror => Engine.insert_error hconduct herror
    search_error := fun _ _ hlimit _ herror =>
      h.search_error hconduct htokenizer hsize hlimit herror
    allDocuments_error := fun _ herror => Engine.allDocuments_error hconduct herror
    documentVector_error := fun _ _ => h.documentVector_error hvectors
    refresh_ok := ⟨rebuilt, by rw [hrefresh]⟩
    queryVector_error := by
      intro query error herror
      rw [hquery] at herror
      exact Collection.queryVector_error htokenizer hsize herror
    score_ok := by
      intro query v hv
      rw [hquery] at hv
      rw [hrefresh]
      exact engine.exists_score_refreshed hvectors hv }

end Reflecting

/-! ## Every reachable engine is safe -/

theorem foreseen_afterAll {tokenizer : Tokenizer τ} {texts : List τ} {history : List (Event τ)}
    (h : ∀ conduct, .behave conduct ∈ history → conduct.Foreseen) :
    ((fresh tokenizer texts).afterAll history).store.conduct.Foreseen := by
  refine afterAll_induction (motive := fun engine _ => engine.store.conduct.Foreseen) ?_ ?_ []
    Conduct.foreseen_default
  · intro engine after documents new hconduct heffect
    cases heffect with
    | closing hopen hsame => exact hsame ▸ hconduct
    | _ => exact hconduct
  · intro engine documents conduct hmem _
    exact h conduct hmem

/-- The standard tokenizer counts as it should. Under any tokenizer that does, and with a store that
fails only as foreseen, an engine is safe after every history that leaves it with less than `2 ^
1000` documents. -/
theorem safe_afterAll :
    (∀ options, (Tokenizer.standard options).WellFormed) ∧
    ∀ (tokenizer : Tokenizer τ) (texts : List τ) (history : List (Event τ)), tokenizer.WellFormed →
      (∀ conduct, .behave conduct ∈ history → conduct.Foreseen) →
      ((fresh tokenizer texts).afterAll history).corpus.size < twoPow 1000 →
      ((fresh tokenizer texts).afterAll history).Safe := by
  refine ⟨Tokenizer.wellFormed_standard, ?_⟩
  intro tokenizer texts history htokenizer hconducts hsize
  have hreflects := reflects_afterAll tokenizer texts history
  exact hreflects.safe (foreseen_afterAll hconducts) htokenizer (Nat.le_of_lt hsize)

/-- The standard tokenizer and a store on a full disk. -/
theorem safe_on_full_disk :
    ((fresh (.standard {}) []).afterAll [.call (.insert "The cat"),
      .behave { writeFailure := some (.system "disk full") },
      .call (.insert "The dog")]).Safe := by
  apply (safe_afterAll (τ := String)).2
  · exact Tokenizer.wellFormed_standard {}
  · intro conduct hconduct
    simp only [List.mem_cons, List.not_mem_nil, reduceCtorEq, false_or, or_false,
      Event.behave.injEq] at hconduct
    subst hconduct
    refine ⟨?_, nofun⟩
    rintro failure ⟨⟩
    rfl
  · have hpow : twoPow 1000 = 2 * twoPow 999 := twoPow_succ 999
    have hsize : ((fresh (.standard {}) []).afterAll [.call (.insert "The cat"),
        .behave { writeFailure := some (.system "disk full") },
        .call (.insert "The dog")]).corpus.size = 1 := rfl
    have := twoPow_pos 999
    omega

end Engine

end Retrieval
