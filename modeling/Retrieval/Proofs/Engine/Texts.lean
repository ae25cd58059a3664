import Retrieval.Proofs.Engine.Answers

set_option autoImplicit false

/-! # Texts come back as they went in

The id of a document, the position of its record and the position of its text are three numbers that
nothing but the tests of an insertion keeps equal. They are equal in every engine that a history
leads to: the ids that insertions have given are the numbers from zero on (`issued_eq`), and the
text read for an id is the document that was added under it (`Reflects.texts_at`), whatever failed
in between and whatever stray texts the store holds. So all documents are read back in order, the
first of them that cannot be read is the one reported, and a hit has the text of the document whose
similarity it tells (`Engine.Verbatim`). -/

namespace Retrieval

variable {τ : Type}

/-! ## Hits of a collection -/

namespace Collection

/-- A text that can be read is that of the document with this id. -/
theorem getElem?_of_text {collection : Collection τ} {conduct : Conduct} {id : Nat} {text : τ}
    (h : collection.text conduct id = .ok text) : collection.documents[id]? = some text := by
  have hget := mapError_eq_ok_iff.1 h
  rw [TextStore.get_natCast] at hget
  split at hget
  · cases hget
  · cases hdocument : collection.documents[id]? with
    | none => simp [hdocument] at hget
    | some document => simpa [hdocument] using hget

/-- A hit of a search has the similarity of a document and the text that is read for its id. -/
theorem exists_document_of_search {collection : Collection τ} {textOf : Int → Except Error τ}
    {query : τ} {limit : Limit} {hits : List (Hit τ)}
    (h : collection.search textOf query limit = .ok hits) {hit : Hit τ} (hhit : hit ∈ hits) :
    ∃ (id : Nat) (v w : DocumentVector), collection.queryVector query = .ok (some v) ∧
      collection.documentVector id = .ok w ∧ textOf id = .ok hit.text ∧
      cosine (v.map .double) (w.map .double) = .ok hit.similarity := by
  unfold search at h
  obtain ⟨excluded, -, h⟩ := bind_eq_ok_iff.1 h
  cases excluded with
  | true =>
    cases h
    cases hhit
  | false =>
    obtain ⟨vectors, hvectors, h⟩ := bind_eq_ok_iff.1 h
    obtain ⟨queried, hquery, h⟩ := bind_eq_ok_iff.1 h
    cases queried with
    | none =>
      cases h
      cases hhit
    | some v =>
      obtain ⟨entry, hentry, htext, hcosine⟩ := exists_entry_of_rank h hhit
      -- the entries are the vectors of the documents, each at its number
      obtain ⟨id, hid, rfl⟩ := List.mem_mapIdx.1 (OrderedMap.mem_of_mem_entries_ofList hentry)
      refine ⟨id, v, vectors[id], hquery, ?_, htext, hcosine⟩
      simp [documentVector, hvectors, hid]

end Collection

namespace Engine

/-! ## Reading all texts -/

/-- The text read for a record is the document at its position, unless the store refuses. -/
theorem Reflects.texts_at {engine : Engine τ} {collection : Collection τ}
    (h : engine.Reflects collection) (hopen : engine.closed = false) (position : Nat) :
    (engine.corpus.records[position]?).map (fun record => engine.text record.id) =
      (collection.documents[position]?).map fun document =>
        match engine.store.refusal position with
        | some failure => .error (readError position failure)
        | none => .ok document := by
  have hlength : engine.corpus.records.length = collection.documents.length := h.size_eq
  cases hdocument : collection.documents[position]? with
  | none =>
    have hrecord : engine.corpus.records[position]? = none := by
      rw [List.getElem?_eq_none_iff] at hdocument ⊢
      omega
    simp [hrecord]
  | some document =>
    obtain ⟨hposition, -⟩ := List.getElem?_eq_some_iff.1 hdocument
    have hrecord : (engine.corpus.records[position]?).map Record.id = some (position : Int) := by
      rw [h.corpus_eq]
      simp [Corpus.ofTokens, Collection.length_tokens h.tokenized, hposition]
    obtain ⟨record, hget, hid⟩ := Option.map_eq_some_iff.1 hrecord
    rw [hget, Option.map_some, Option.map_some, hid, h.text hopen hposition]
    congr 1
    -- whether a store refuses depends on its conduct alone
    have hrefusal : TextStore.refusal
        { texts := collection.documents, conduct := engine.store.conduct } position =
          engine.store.refusal position := rfl
    rw [Collection.text, TextStore.get_natCast, hrefusal]
    cases engine.store.refusal position with
    | some failure => rfl
    | none => simp [hdocument]

/-- The engine gives these documents back, each under its number. -/
structure Verbatim (engine : Engine τ) (documents : List τ) : Prop where
  allDocuments_ok : engine.closed = false →
    (∀ id : Nat, id < documents.length → engine.store.refusal id = none) →
      engine.allDocuments.1 = .ok documents
  /-- The document that cannot be read is reported, and of several the first. -/
  allDocuments_error : engine.closed = false → ∀ (id : Nat) (failure : Failure),
    id < documents.length → engine.store.refusal id = some failure →
      failure.isReadFailure = true →
        (∀ earlier : Nat, earlier < id → engine.store.refusal earlier = none) →
          engine.allDocuments.1 = .error (.read (.unread id (some failure)))
  /-- A hit has the text of a document, and tells how similar its vector is to that of the query. -/
  hit : ∀ query limit hits, (engine.search query limit).1 = .ok hits → ∀ hit ∈ hits,
    ∃ (id : Nat) (v w : DocumentVector), documents[id]? = some hit.text ∧
      engine.queryVector query = .ok (some v) ∧ (engine.documentVector id).1 = .ok w ∧
        cosine (v.map .double) (w.map .double) = .ok hit.similarity

theorem Reflects.verbatim {engine : Engine τ} {collection : Collection τ}
    (h : engine.Reflects collection) : engine.Verbatim collection.documents where
  allDocuments_ok hopen hreads := by
    simp only [allDocuments, whenOpen, hopen, Bool.false_eq_true, if_false]
    rw [texts, mapM_eq_ok_iff]
    apply List.ext_getElem?
    intro position
    rw [List.getElem?_map, List.getElem?_map, h.texts_at hopen]
    cases hdocument : collection.documents[position]? with
    | none => rfl
    | some document =>
      obtain ⟨hposition, -⟩ := List.getElem?_eq_some_iff.1 hdocument
      rw [Option.map_some, Option.map_some, hreads position hposition]
  allDocuments_error hopen id failure hid hrefusal hread hearlier := by
    simp only [allDocuments, whenOpen, hopen, Bool.false_eq_true, if_false]
    rw [texts, mapM_eq_error_iff]
    refine ⟨id, ?_, ?_⟩
    · rw [h.texts_at hopen, List.getElem?_eq_getElem hid, Option.map_some, hrefusal]
      simp [readError, hread]
    · intro earlier hlt
      have hbound : earlier < collection.documents.length := by omega
      refine ⟨collection.documents[earlier], ?_⟩
      rw [h.texts_at hopen, List.getElem?_eq_getElem hbound, Option.map_some, hearlier earlier hlt]
  hit query limit hits hsearch hit hhit := by
    rw [h.search] at hsearch
    cases hclosed : engine.closed with
    | true => simp [hclosed] at hsearch
    | false =>
      rw [hclosed, if_neg Bool.false_ne_true] at hsearch
      obtain ⟨id, v, w, hquery, hvector, htext, hcosine⟩ :=
        Collection.exists_document_of_search hsearch hhit
      refine ⟨id, v, w, Collection.getElem?_of_text htext, ?_, ?_, hcosine⟩
      · rw [h.queryVector, hquery]
      · rw [h.documentVector, hclosed, if_neg Bool.false_ne_true, hvector]

/-! ## The ids of insertions -/

/-- The id that an event gives to a document, if it adds one. -/
def issued? (engine : Engine τ) : Event τ → Option Nat
  | .call (.insert document) => (engine.insert document).1.toOption
  | _ => none

/-- The ids that a history gives, in order. -/
def issued (engine : Engine τ) : List (Event τ) → List Nat
  | [] => []
  | event :: history => (engine.issued? event).toList ++ (engine.after event).issued history

/-- The id given is the number of records. -/
theorem issued?_eq (engine : Engine τ) (event : Event τ) :
    engine.issued? event = (engine.admitted? event).map fun _ => engine.corpus.size := by
  cases event with
  | behave conduct => rfl
  | call operation =>
    cases operation with
    | insert document =>
      simp only [issued?, admitted?]
      rcases engine.insert_cases document with
        ⟨-, heq⟩ | ⟨-, error, -, heq⟩ | ⟨-, tokens, -, heq⟩ <;> simp [heq, Except.toOption]
    | _ => rfl

theorem Effect.size_eq {engine after : Engine τ} {new : List τ} (h : engine.Effect new after) :
    after.corpus.size = engine.corpus.size + new.length := by
  cases h with
  | admission hopen hadmits => simp [admitting, recording, Corpus.add, Corpus.size]
  | _ => rfl

theorem size_after (engine : Engine τ) (event : Event τ) :
    (engine.after event).corpus.size =
      engine.corpus.size + (engine.admitted? event).toList.length := by
  cases event with
  | call operation => exact (engine.effect_run operation).size_eq
  | behave conduct => rfl

/-- From any engine on, insertions give the numbers that follow the number of records. -/
theorem issued_eq (engine : Engine τ) (history : List (Event τ)) :
    engine.issued history = List.range' engine.corpus.size (engine.admitted history).length := by
  induction history generalizing engine with
  | nil => rfl
  | cons event rest ih =>
    rw [issued, admitted, ih, size_after, issued?_eq]
    cases engine.admitted? event with
    | none => simp
    | some document => simp [List.range'_succ]

/-- After any history of an engine over any store, the ids that insertions have given are the
numbers from zero on, and the documents added come back as they are: all of them in order if they
can be read, otherwise with the first failure, and in hits beside their own similarity. -/
theorem verbatim_afterAll (tokenizer : Tokenizer τ) (texts : List τ) (history : List (Event τ)) :
    (fresh tokenizer texts).issued history =
      List.range ((fresh tokenizer texts).admitted history).length ∧
    ((fresh tokenizer texts).afterAll history).Verbatim
      ((fresh tokenizer texts).admitted history) := by
  constructor
  · rw [issued_eq, List.range_eq_range']
    rfl
  · exact (reflects_afterAll tokenizer texts history).verbatim

/-- A document that could not be stored leaves no gap between those before and after it, and one
that cannot be read is reported by its number. -/
theorem texts_around_failure :
    ((fresh (.standard {}) []).afterAll [.call (.insert "The cat"),
      .behave { writeFailure := some (.system "disk full") }, .call (.insert "The dog"),
      .behave {}, .call (.insert "The cow")]).allDocuments.1 = .ok ["The cat", "The cow"] ∧
    ((fresh (.standard {}) []).afterAll [.call (.insert "The cat"), .call (.insert "The cow"),
      .behave {
        readFailure := fun _ => some (.lookup "read error")
        unreadable := fun position => position == 1 }]).allDocuments.1 =
      .error (.read (.unread 1 (some (.lookup "read error")))) := by
  constructor
  · refine (verbatim_afterAll _ _ _).2.allDocuments_ok rfl ?_
    intro id _
    rfl
  · refine (verbatim_afterAll _ _ _).2.allDocuments_error rfl 1 _ (by decide) rfl rfl ?_
    intro earlier hearlier
    obtain rfl : earlier = 0 := by omega
    rfl

end Engine

end Retrieval
