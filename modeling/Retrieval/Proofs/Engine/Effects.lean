import Retrieval.History
import Retrieval.Proofs.Engine.Insertion

set_option autoImplicit false

/-! # What calls do to an engine

Of all that an engine holds, a call changes one of a few things: it adds a document, leaves a stray
text, rebuilds the cache, closes the engine, or does nothing at all. `Effect` lists them, and
`effect_run` says that there are no others. What every effect preserves, and every change of conduct
of the store, holds after each history (`afterAll_induction`); so a property of all states that an
engine can reach is proved by one case for each effect, without a look at the calls. -/

namespace Retrieval

variable {τ : Type}

/-- Whether a call only asks the engine for something. -/
def Operation.reads : Operation τ → Bool
  | insert _ => false
  | close => false
  | _ => true

namespace Engine

/-! ## Calls that may rebuild the cache -/

/-- A clean cache stays as it is; a dirty one is replaced by a rebuilt one, unless the rebuild
fails. -/
theorem refresh_cases (engine : Engine τ) :
    (engine.cache.dirty = false ∧ engine.refresh = (.ok false, engine)) ∨
    (∃ error, engine.cache.dirty = true ∧
      VectorCache.rebuild engine.corpus engine.vocabulary = .error error ∧
      engine.refresh = (.error (.arithmetic error), engine)) ∨
    (∃ cache, engine.cache.dirty = true ∧
      VectorCache.rebuild engine.corpus engine.vocabulary = .ok cache ∧
      engine.refresh = (.ok true, { engine with cache })) := by
  unfold refresh VectorCache.refresh
  cases hdirty : engine.cache.dirty with
  | false => exact Or.inl ⟨rfl, rfl⟩
  | true =>
    right
    cases hcache : VectorCache.rebuild engine.corpus engine.vocabulary with
    | error error => exact Or.inl ⟨error, rfl, rfl, rfl⟩
    | ok cache => exact Or.inr ⟨cache, rfl, rfl, rfl⟩

/-- A refresh changes the cache only. -/
theorem eq_of_refresh {engine after : Engine τ} {result : Except Error Bool}
    (h : engine.refresh = (result, after)) : after = { engine with cache := after.cache } := by
  rcases engine.refresh_cases with ⟨-, heq⟩ | ⟨error, -, -, heq⟩ | ⟨cache, -, -, heq⟩
  · rw [heq] at h
    cases h
    rfl
  · rw [heq] at h
    cases h
    rfl
  · rw [heq] at h
    cases h
    rfl

/-- A search ends at one of five places: the engine is closed, the limit is no number, it leaves no
hit, the cache cannot be rebuilt, or there is an answer from the refreshed cache. -/
theorem search_cases (engine : Engine τ) (query : τ) (limit : Limit) :
    (engine.closed = true ∧ engine.search query limit = (.error .closed, engine)) ∨
    (engine.closed = false ∧ ∃ error, limit.excludesAll = .error error ∧
      engine.search query limit = (.error error, engine)) ∨
    (engine.closed = false ∧ limit.excludesAll = .ok true ∧
      engine.search query limit = (.ok [], engine)) ∨
    (engine.closed = false ∧ limit.excludesAll = .ok false ∧
      ∃ error, VectorCache.rebuild engine.corpus engine.vocabulary = .error error ∧
        engine.search query limit = (.error (.arithmetic error), engine)) ∨
    (engine.closed = false ∧ limit.excludesAll = .ok false ∧
      ∃ rebuilt after, engine.refresh = (.ok rebuilt, after) ∧
        engine.search query limit = (after.answer query limit, after)) := by
  unfold search
  cases hclosed : engine.closed with
  | true => simp
  | false =>
    cases limit.excludesAll with
    | error error => simp
    | ok excluded =>
      cases excluded with
      | true => simp
      | false =>
        rcases engine.refresh_cases with
          ⟨-, heq⟩ | ⟨error, -, hcache, heq⟩ | ⟨cache, -, -, heq⟩
        · simp [heq]
        · simp [heq, hcache]
        · simp [heq]

/-- Asking for the vector of a document ends where a search without a limit does. -/
theorem documentVector_cases (engine : Engine τ) (id : Int) :
    (engine.closed = true ∧ engine.documentVector id = (.error .closed, engine)) ∨
    (engine.closed = false ∧
      ∃ error, VectorCache.rebuild engine.corpus engine.vocabulary = .error error ∧
        engine.documentVector id = (.error (.arithmetic error), engine)) ∨
    (engine.closed = false ∧ ∃ rebuilt after, engine.refresh = (.ok rebuilt, after) ∧
      engine.documentVector id = (after.cachedVector id, after)) := by
  unfold documentVector
  cases hclosed : engine.closed with
  | true => simp
  | false =>
    rcases engine.refresh_cases with ⟨-, heq⟩ | ⟨error, -, hcache, heq⟩ | ⟨cache, -, -, heq⟩
    · simp [heq]
    · simp [heq, hcache]
    · simp [heq]

/-- A search leaves the engine as it was, or with its cache refreshed. -/
theorem after_search (engine : Engine τ) (query : τ) (limit : Limit) :
    (engine.search query limit).2 = engine ∨
      engine.closed = false ∧ (engine.search query limit).2 = engine.refresh.2 := by
  rcases engine.search_cases query limit with ⟨-, heq⟩ | ⟨-, error, -, heq⟩ | ⟨-, -, heq⟩ |
    ⟨-, -, error, -, heq⟩ | ⟨hopen, -, rebuilt, after, hrefresh, heq⟩
  · exact Or.inl (by rw [heq])
  · exact Or.inl (by rw [heq])
  · exact Or.inl (by rw [heq])
  · exact Or.inl (by rw [heq])
  · exact Or.inr ⟨hopen, by rw [heq, hrefresh]⟩

/-- Asking for the vector of a document leaves the engine as it was, or with its cache refreshed. -/
theorem after_documentVector (engine : Engine τ) (id : Int) :
    (engine.documentVector id).2 = engine ∨
      engine.closed = false ∧ (engine.documentVector id).2 = engine.refresh.2 := by
  rcases engine.documentVector_cases id with
    ⟨-, heq⟩ | ⟨-, error, -, heq⟩ | ⟨hopen, rebuilt, after, hrefresh, heq⟩
  · exact Or.inl (by rw [heq])
  · exact Or.inl (by rw [heq])
  · exact Or.inr ⟨hopen, by rw [heq, hrefresh]⟩

/-- A call that only asks for something leaves the engine as it was, or with its cache
refreshed. -/
theorem after_reading (engine : Engine τ) {operation : Operation τ} (h : operation.reads = true) :
    (operation.run engine).2 = engine ∨
      engine.closed = false ∧ (operation.run engine).2 = engine.refresh.2 := by
  cases operation with
  | insert text => cases h
  | close => cases h
  | search query limit => exact engine.after_search query limit
  | documentVector id => exact engine.after_documentVector id
  | _ => exact Or.inl rfl

/-! ## Effects -/

/-- What a call can do to an engine, with the documents that it adds. Only an open engine
changes. -/
inductive Effect (engine : Engine τ) : List τ → Engine τ → Prop
  | idle : Effect engine [] engine
  | stray (text : τ) (hopen : engine.closed = false) : Effect engine [] (engine.withStray text)
  | admission {text : τ} {tokens : Tokens} (hopen : engine.closed = false)
      (hadmits : engine.Admits text tokens) : Effect engine [text] (engine.admitting text tokens)
  | rebuild {cache : VectorCache} (hopen : engine.closed = false)
      (hcache : VectorCache.rebuild engine.corpus engine.vocabulary = .ok cache) :
      Effect engine [] { engine with cache }
  | closing {store : TextStore τ} (hopen : engine.closed = false)
      (hconduct : store.conduct = engine.store.conduct) :
      Effect engine [] { engine with store, closed := true }

theorem effect_refresh {engine : Engine τ} (hopen : engine.closed = false) :
    engine.Effect [] engine.refresh.2 := by
  rcases engine.refresh_cases with
    ⟨-, heq⟩ | ⟨error, -, -, heq⟩ | ⟨cache, -, hcache, heq⟩
  · rw [heq]
    exact .idle
  · rw [heq]
    exact .idle
  · rw [heq]
    exact .rebuild hopen hcache

theorem effect_close (engine : Engine τ) : engine.Effect [] engine.close.2 := by
  unfold close
  cases hclosed : engine.closed with
  | true => exact .idle
  | false =>
    have hconduct : engine.store.close.2.conduct = engine.store.conduct := by
      unfold TextStore.close
      cases engine.store.conduct.closeFailure with
      | some failure => rfl
      | none =>
        show (TextStore.release _).conduct = _
        unfold TextStore.release
        split <;> rfl
    exact .closing hclosed hconduct

/-- An insertion that gives an id adds its document, and any other adds none. -/
theorem effect_insert (engine : Engine τ) (text : τ) :
    engine.Effect (engine.admitted? (.call (.insert text))).toList (engine.insert text).2 := by
  show engine.Effect ((engine.insert text).1.toOption.map fun _ => text).toList _
  rcases engine.insert_cases text with
    ⟨-, heq⟩ | ⟨hopen, error, -, heq⟩ | ⟨hopen, tokens, hadmits, heq⟩
  · rw [heq]
    exact .idle
  · rw [heq]
    show engine.Effect [] (engine.rejecting text error)
    unfold rejecting
    split
    · exact .stray text hopen
    · exact .idle
  · rw [heq]
    exact .admission hopen hadmits

/-- A call has one of the effects, and adds the document that the history tells. -/
theorem effect_run (engine : Engine τ) (operation : Operation τ) :
    engine.Effect (engine.admitted? (.call operation)).toList (operation.run engine).2 := by
  cases operation with
  | insert text => exact engine.effect_insert text
  | search query limit =>
    show engine.Effect [] (engine.search query limit).2
    rcases engine.after_search query limit with heq | ⟨hopen, heq⟩
    · rw [heq]
      exact .idle
    · rw [heq]
      exact effect_refresh hopen
  | documentVector id =>
    show engine.Effect [] (engine.documentVector id).2
    rcases engine.after_documentVector id with heq | ⟨hopen, heq⟩
    · rw [heq]
      exact .idle
    · rw [heq]
      exact effect_refresh hopen
  | close => exact engine.effect_close
  | allDocuments => exact .idle
  | vocabularySize => exact .idle
  | totalDocuments => exact .idle
  | size => exact .idle
  | documentFrequency term => exact .idle

/-! ## Histories -/

/-- What holds at the start and is preserved by every effect, with the documents that it adds, and
by every change of conduct that occurs, holds after the history. -/
theorem afterAll_induction {motive : Engine τ → List τ → Prop} {history : List (Event τ)}
    (hcall : ∀ {engine after : Engine τ} {documents new : List τ}, motive engine documents →
      engine.Effect new after → motive after (documents ++ new))
    (hbehave : ∀ {engine : Engine τ} {documents : List τ} {conduct : Conduct},
      .behave conduct ∈ history → motive engine documents →
        motive (engine.withConduct conduct) documents)
    {engine : Engine τ} (documents : List τ) (hstart : motive engine documents) :
    motive (engine.afterAll history) (documents ++ engine.admitted history) := by
  induction history generalizing engine documents with
  | nil => simpa [afterAll, admitted] using hstart
  | cons event rest ih =>
    -- one event, then the rest from the state that it leads to
    have hafter : motive (engine.after event) (documents ++ (engine.admitted? event).toList) := by
      cases event with
      | call operation => exact hcall hstart (engine.effect_run operation)
      | behave conduct => simpa [admitted?, after] using hbehave List.mem_cons_self hstart
    have hrest := ih (fun hmem => hbehave (List.mem_cons_of_mem event hmem)) _ hafter
    rw [List.append_assoc] at hrest
    exact hrest

end Engine

end Retrieval
