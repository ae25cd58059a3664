import Retrieval.Proofs.Engine.Answers
import Retrieval.Proofs.Engine.Placement
import Retrieval.Proofs.RankOrder

set_option autoImplicit false

/-! # Texts that cannot be read

A ranking compares and sorts first, then cuts, and reads last. So which texts can be read has no
influence on which ids are kept and in what order: all that happens afterwards is that the texts of
the kept ids are read one after the other, and the first of them that cannot be read is the failure
of the ranking (`ReadsInOrder`). What cannot be read behind the cut is never noticed. A vector of
another length than the query is noticed before anything is read, and whatever the limit is. -/

namespace Retrieval

variable {τ : Type}

/-! ## Limits that leave some hits -/

/-- How many of a number of hits a limit leaves that does not exclude all. -/
inductive Limit.Leaves (total : Nat) : Limit → Nat → Prop
  | all : Leaves total .unbounded total
  | first {k : Int} (hk : 1 ≤ k) : Leaves total (.count k) (min k.toNat total)

theorem Limit.Leaves.excludesAll {limit : Limit} {total number : Nat}
    (h : limit.Leaves total number) : limit.excludesAll = .ok false := by
  cases h with
  | all => rfl
  | first hk =>
    rw [Limit.excludesAll, decide_eq_false (by omega)]

theorem Limit.Leaves.cut {α : Type} {hits : List α} {limit : Limit} {number : Nat}
    (h : limit.Leaves hits.length number) : limit.cut hits = .ok (hits.take number) := by
  cases h with
  | all => rw [Limit.cut, List.take_length]
  | first hk => rw [Limit.cut, ← List.take_eq_take_min]

/-! ## Reading one text after the other -/

/-- A result that comes of reading the texts of these ids in order, and of nothing else. -/
structure ReadsInOrder (textOf : Int → Except Error τ) (similarity : Int → Binary64)
    (ids : List Int) (result : Except Error (List (Hit τ))) : Prop where
  fails_iff : (∃ error, result = .error error) ↔ ∃ id ∈ ids, ∃ error, textOf id = .error error
  error_iff : ∀ error, result = .error error ↔ FirstFailure textOf ids error
  ok : ∀ text : Int → τ, (∀ id ∈ ids, textOf id = .ok (text id)) →
    result = .ok (ids.map (hitOf text similarity))

theorem readsInOrder_mapM (textOf : Int → Except Error τ) (similarity : Int → Binary64)
    (ids : List Int) :
    ReadsInOrder textOf similarity ids (ids.mapM (readHit textOf similarity)) := by
  have herror : ∀ error,
      ids.mapM (readHit textOf similarity) = .error error ↔ FirstFailure textOf ids error :=
    fun error => mapM_eq_error_iff_firstFailure.trans firstFailure_fmap_iff
  refine ⟨?_, herror, fun text htext => mapM_readHit htext⟩
  simp only [herror]
  exact exists_firstFailure_iff

/-! ## Rankings of doubles -/

section Doubles

variable {query : DocumentVector} {vectors : OrderedMap Int DocumentVector}

/-- The ranking of vectors of doubles. -/
def rankDoubles (query : DocumentVector) (vectors : OrderedMap Int DocumentVector)
    (textOf : Int → Except Error τ) (limit : Limit) : Except Error (List (Hit τ)) :=
  rank (query.map .double) (vectors.map fun v => v.map .double) textOf limit

/-- The similarity of the vector with an id to a query, as far as there is one. -/
def similarityTo (query : DocumentVector) (vectors : OrderedMap Int DocumentVector) (id : Int) :
    Binary64 :=
  match vectors.get? id with
  | some v => (cosine (query.map .double) (v.map .double)).toOption.getD .zero
  | none => .zero

theorem cosine_eq_similarityTo {entry : Int × DocumentVector} (hentry : entry ∈ vectors.entries)
    (hlength : entry.2.length = query.length) :
    cosine (query.map .double) (entry.2.map .double) =
      .ok (similarityTo query vectors entry.1) := by
  obtain ⟨similarity, hcosine⟩ := exists_cosine_eq_ok hlength.symm
  simp only [similarityTo, OrderedMap.get?_eq_some_iff.2 hentry, hcosine, Except.toOption,
    Option.getD_some]

/-- All vectors have the length of the query, and no similarity to it is not-a-number. -/
structure Comparable (query : DocumentVector) (vectors : OrderedMap Int DocumentVector) :
    Prop where
  length_eq : ∀ entry ∈ vectors.entries, entry.2.length = query.length
  ne_nan : ∀ id ∈ vectors.keys, similarityTo query vectors id ≠ .nan

/-- The ids of the vectors in the order of their ranking. -/
structure RankedBy (query : DocumentVector) (vectors : OrderedMap Int DocumentVector)
    (ranked : List Int) : Prop where
  cosine_eq : ∀ entry ∈ vectors.entries,
    cosine (query.map .double) (entry.2.map .double) = .ok (similarityTo query vectors entry.1)
  perm : ranked.Perm vectors.keys
  pairwise : ranked.Pairwise (Precedes (similarityTo query vectors))

theorem Comparable.cosine_eq (h : Comparable query vectors) : ∀ entry ∈ vectors.entries,
    cosine (query.map .double) (entry.2.map .double) = .ok (similarityTo query vectors entry.1) :=
  fun entry hentry => cosine_eq_similarityTo hentry (h.length_eq entry hentry)

theorem Comparable.rankedBy (h : Comparable query vectors) :
    RankedBy query vectors (rankedIds (similarityTo query vectors) vectors.keys) where
  cosine_eq := h.cosine_eq
  perm := rankedIds_perm _ _
  pairwise := pairwise_precedes_rankedIds vectors.nodup_keys h.ne_nan

/-- A ranking of comparable vectors puts the ids in order, cuts, and reads along what is left. -/
theorem Comparable.rankDoubles_eq (h : Comparable query vectors) (textOf : Int → Except Error τ)
    (limit : Limit) :
    rankDoubles query vectors textOf limit = (do
      if ← limit.excludesAll then return []
      (← limit.cut (rankedIds (similarityTo query vectors) vectors.keys)).mapM
        (readHit textOf (similarityTo query vectors))) := by
  have hmapped : ∀ entry ∈ (vectors.map fun v => v.map Number.double).entries,
      cosine (query.map .double) entry.2 = .ok (similarityTo query vectors entry.1) := by
    intro entry hentry
    obtain ⟨original, horiginal, rfl⟩ := List.mem_map.1 hentry
    exact h.cosine_eq original horiginal
  have hkeys : (vectors.map fun v => v.map Number.double).keys = vectors.keys :=
    OrderedMap.keys_map _ vectors
  rw [rankDoubles, rank_eq_mapM_readHit hmapped (hkeys ▸ h.ne_nan), hkeys]

/-- The ids of comparable vectors have an order, and a ranking reads along it up to its limit. -/
theorem Comparable.exists_ranked (h : Comparable query vectors) :
    ∃ ranked, RankedBy query vectors ranked ∧
      ∀ limit number, limit.Leaves vectors.size number → ∀ textOf : Int → Except Error τ,
        rankDoubles query vectors textOf limit =
          (ranked.take number).mapM (readHit textOf (similarityTo query vectors)) := by
  refine ⟨_, h.rankedBy, ?_⟩
  intro limit number hlimit textOf
  have hsize : vectors.size = (rankedIds (similarityTo query vectors) vectors.keys).length := by
    rw [h.rankedBy.perm.length_eq, OrderedMap.keys, List.length_map, OrderedMap.size]
  rw [hsize] at hlimit
  rw [h.rankDoubles_eq, hlimit.excludesAll, ok_bind, if_neg Bool.false_ne_true, hlimit.cut, ok_bind]

theorem cosine_eq_mismatch {v : DocumentVector} (h : v.length ≠ query.length) :
    cosine (query.map .double) (v.map .double) = .error (.mismatch query.length v.length) := by
  rw [cosine_eq_mismatch_iff, List.length_map, List.length_map]
  exact ⟨Ne.symm h, rfl, rfl⟩

/-- If a vector has another length than the query, such a vector is the failure of the scores. -/
theorem score_eq_mismatch (h : ∃ entry ∈ vectors.entries, entry.2.length ≠ query.length) :
    ∃ entry ∈ vectors.entries, entry.2.length ≠ query.length ∧
      score (query.map .double) (vectors.map fun v => v.map .double) =
        .error (.mismatch query.length entry.2.length) := by
  have hfails : ∃ cause, score (query.map .double) (vectors.map fun v => v.map .double) =
      .error cause := by
    obtain ⟨entry, hentry, hlength⟩ := h
    simp only [score, mapM_eq_error_iff_firstFailure]
    refine exists_firstFailure_iff.2 ⟨(entry.1, entry.2.map .double), ?_,
      .mismatch query.length entry.2.length, ?_⟩
    · exact List.mem_mergeSort.2 (List.mem_map_of_mem hentry)
    · rw [cosine_eq_mismatch hlength, error_bind]
  obtain ⟨cause, hscore⟩ := hfails
  obtain ⟨mapped, hmapped, hstep⟩ := exists_mem_of_mapM_eq_error hscore
  obtain ⟨entry, hentry, rfl⟩ := List.mem_map.1 (List.mem_mergeSort.1 hmapped)
  have hcosine := map_eq_error_iff.1 hstep
  -- doubles of one length are similar, so the vector that failed has another length
  have hlength : entry.2.length ≠ query.length := by
    intro hsame
    rw [cosine_eq_similarityTo hentry hsame] at hcosine
    cases hcosine
  rw [cosine_eq_mismatch hlength] at hcosine
  cases hcosine
  exact ⟨entry, hentry, hlength, hscore⟩

/-- A ranking that keeps a hit compares all vectors before it reads a text. -/
theorem rankDoubles_eq_mismatch (h : ∃ entry ∈ vectors.entries, entry.2.length ≠ query.length)
    {limit : Limit} {number : Nat} (hlimit : limit.Leaves vectors.size number)
    (textOf : Int → Except Error τ) :
    ∃ entry ∈ vectors.entries, entry.2.length ≠ query.length ∧
      rankDoubles query vectors textOf limit =
        .error (.mismatch query.length entry.2.length) := by
  obtain ⟨entry, hentry, hlength, hscore⟩ := score_eq_mismatch h
  refine ⟨entry, hentry, hlength, ?_⟩
  rw [rankDoubles, rank, hlimit.excludesAll, ok_bind, if_neg Bool.false_ne_true, hscore]
  rfl

end Doubles

/-! ## Searches -/

namespace Engine

/-- The search of an open engine comes to a ranking: the cache can be refreshed, and the query has a
known term and hence a vector. -/
structure Ranks (engine : Engine τ) (query : τ) (v : DocumentVector) (after : Engine τ) : Prop where
  not_closed : engine.closed = false
  refreshed : ∃ rebuilt, engine.refresh = (.ok rebuilt, after)
  known : ∃ tokens, engine.tokenizer query = .ok tokens ∧
    (∃ term ∈ tokens.terms, term ∈ engine.vocabulary.terms) ∧ engine.vector tokens = .ok v

section Ranking

variable {engine after : Engine τ} {query : τ} {v : DocumentVector}

theorem queryVector_eq_some_iff : engine.queryVector query = .ok (some v) ↔
    ∃ tokens, engine.tokenizer query = .ok tokens ∧
      (∃ term ∈ tokens.terms, term ∈ engine.vocabulary.terms) ∧ engine.vector tokens = .ok v := by
  constructor
  · intro h
    cases htokens : engine.tokenizer query with
    | error failure =>
      rw [queryVector, htokens] at h
      cases h
    | ok tokens =>
      by_cases hknown : ∃ term ∈ tokens.terms, term ∈ engine.vocabulary.terms
      · rw [queryVector_of_known htokens hknown] at h
        obtain ⟨w, hw, hsome⟩ := map_eq_ok_iff.1 h
        cases hsome
        exact ⟨tokens, rfl, hknown, hw⟩
      · rw [queryVector_of_unknown htokens (by simpa using hknown)] at h
        cases h
  · rintro ⟨tokens, htokens, hknown, hvector⟩
    rw [queryVector_of_known htokens hknown, hvector, map_ok]

theorem Ranks.queryVector (h : engine.Ranks query v after) :
    engine.queryVector query = .ok (some v) :=
  queryVector_eq_some_iff.2 h.known

theorem Ranks.after_eq (h : engine.Ranks query v after) :
    after = { engine with cache := after.cache } := by
  obtain ⟨rebuilt, hrefresh⟩ := h.refreshed
  exact eq_of_refresh hrefresh

/-- Whatever the limit is, the refreshed vectors are ranked, with the texts that the store had
before. -/
theorem Ranks.search_eq (h : engine.Ranks query v after) (limit : Limit) :
    (engine.search query limit).1 = rankDoubles v after.cache.vectors engine.text limit := by
  obtain ⟨rebuilt, hrefresh⟩ := h.refreshed
  have hquery : after.queryVector query = .ok (some v) := by
    rw [h.after_eq]
    exact h.queryVector
  rw [search, h.not_closed, if_neg Bool.false_ne_true]
  cases hexcludes : limit.excludesAll with
  | error error => rw [rankDoubles, rank, hexcludes, error_bind]
  | ok excluded =>
    cases excluded with
    | true =>
      rw [rankDoubles, rank, hexcludes]
      rfl
    | false =>
      rw [hrefresh]
      show after.answer query limit = _
      rw [answer, hquery, ok_bind, h.after_eq]
      rfl

/-- The refreshed vectors are those of the documents, numbered, and as long as that of the query. -/
theorem Reflects.vectors_of_ranks {collection : Collection τ} (h : engine.Reflects collection)
    (hranks : engine.Ranks query v after) :
    (∀ entry ∈ after.cache.vectors.entries, entry.2.length = v.length) ∧
    after.cache.vectors.keys = (List.range engine.corpus.size).map fun id : Nat => (id : Int) := by
  obtain ⟨rebuilt, hrefresh⟩ := hranks.refreshed
  rcases h.refresh with ⟨error, -, heq⟩ | ⟨vectors, flag, hvectors, heq⟩
  · rw [heq] at hrefresh
    cases hrefresh
  · rw [heq] at hrefresh
    cases hrefresh
    constructor
    · intro entry hentry
      obtain ⟨id, hid, rfl⟩ := List.mem_mapIdx.1 hentry
      have hquery := (h.queryVector query).symm.trans hranks.queryVector
      rw [Collection.length_of_mem_vectors hvectors (List.getElem_mem hid),
        Collection.length_of_queryVector hquery]
    · rw [h.size_eq, ← Collection.length_vectors h.tokenized hvectors]
      exact OrderedMap.keys_numbering vectors

end Ranking

end Engine

open Engine in
/-- Which texts can be read matters for the kept ids only: a ranking fails if the text of one of
them cannot be read, with the first of these in the order of the ranking, and gives otherwise what
it gives if all texts can be read; so does a search of an engine. A vector of another length than
the query makes every ranking fail that keeps a hit, whatever texts can be read. -/
theorem reads_kept_alone :
    (∀ (query : DocumentVector) (vectors : OrderedMap Int DocumentVector),
      Comparable query vectors → ∃ ranked, RankedBy query vectors ranked ∧
        ∀ limit number, limit.Leaves vectors.size number → ∀ textOf : Int → Except Error τ,
          ReadsInOrder textOf (similarityTo query vectors) (ranked.take number)
            (rankDoubles query vectors textOf limit) ∧
          ∀ other : Int → Except Error τ, (∀ id ∈ ranked.take number, other id = textOf id) →
            rankDoubles query vectors other limit = rankDoubles query vectors textOf limit) ∧
    (∀ (query : DocumentVector) (vectors : OrderedMap Int DocumentVector),
      (∃ entry ∈ vectors.entries, entry.2.length ≠ query.length) →
        ∀ limit number, limit.Leaves vectors.size number → ∀ textOf : Int → Except Error τ,
          ∃ entry ∈ vectors.entries, entry.2.length ≠ query.length ∧
            rankDoubles query vectors textOf limit =
              .error (.mismatch query.length entry.2.length)) ∧
    (∀ (tokenizer : Tokenizer τ) (texts : List τ) (history : List (Event τ)) (query : τ)
      (v : DocumentVector) (after : Engine τ),
      ((fresh tokenizer texts).afterAll history).Ranks query v after →
      (∀ id ∈ after.cache.vectors.keys, similarityTo v after.cache.vectors id ≠ .nan) →
        ∃ ranked, RankedBy v after.cache.vectors ranked ∧
          ranked.Perm ((List.range ((fresh tokenizer texts).afterAll history).corpus.size).map
            fun id : Nat => (id : Int)) ∧
          ∀ limit number,
            limit.Leaves ((fresh tokenizer texts).afterAll history).corpus.size number →
              ReadsInOrder ((fresh tokenizer texts).afterAll history).text
                (similarityTo v after.cache.vectors) (ranked.take number)
                (((fresh tokenizer texts).afterAll history).search query limit).1) := by
  refine ⟨?_, fun _ _ h _ _ hlimit textOf => rankDoubles_eq_mismatch h hlimit textOf, ?_⟩
  · intro query vectors h
    obtain ⟨ranked, hranked, hrank⟩ := h.exists_ranked
    refine ⟨ranked, hranked, ?_⟩
    intro limit number hlimit textOf
    rw [hrank limit number hlimit]
    refine ⟨readsInOrder_mapM _ _ _, ?_⟩
    intro other hother
    rw [hrank limit number hlimit]
    exact mapM_congr fun id hid => by rw [readHit, readHit, hother id hid]
  · intro tokenizer texts history query v after hranks hnan
    obtain ⟨hlength, hkeys⟩ :=
      (reflects_afterAll tokenizer texts history).vectors_of_ranks hranks
    have hcomparable : Comparable v after.cache.vectors := ⟨hlength, hnan⟩
    obtain ⟨ranked, hranked, hrank⟩ := hcomparable.exists_ranked
    have hsize : after.cache.vectors.size =
        ((fresh tokenizer texts).afterAll history).corpus.size := by
      simpa [OrderedMap.keys, OrderedMap.size] using congrArg List.length hkeys
    refine ⟨ranked, hranked, hkeys ▸ hranked.perm, ?_⟩
    intro limit number hlimit
    rw [hranks.search_eq, hrank limit number (hsize ▸ hlimit)]
    exact readsInOrder_mapM _ _ _

/-- Two vectors on the first axis, and between their ids one on the second. -/
def axes : OrderedMap Int DocumentVector :=
  .ofList [(4, [.zero, .one]), (7, [.one, .zero]), (2, [.one, .zero])]

/-- An engine with a cat and a dog, of which only the cat can be read. -/
def unreadableDog : Engine String :=
  (Engine.fresh (.standard {}) []).afterAll [.call (.insert "Cat"), .call (.insert "Dog"),
    .behave {
      readFailure := fun _ => some (.system "read error"), unreadable := fun id => id == 1 }]

/-- Ids have one order only if no two of them precede each other. -/
theorem RankedBy.eq {query : DocumentVector} {vectors : OrderedMap Int DocumentVector}
    {ranked ids : List Int} (h : RankedBy query vectors ranked) (hperm : vectors.keys.Perm ids)
    (hpairwise : ids.Pairwise (Precedes (similarityTo query vectors)))
    (hantisymm : ∀ a ∈ ids, ∀ b ∈ ids, Precedes (similarityTo query vectors) a b →
      Precedes (similarityTo query vectors) b a → a = b) : ranked = ids := by
  have hranked := h.perm.trans hperm
  refine hranked.eq_of_pairwise ?_ h.pairwise hpairwise
  intro a b ha hb
  exact hantisymm a (hranked.mem_iff.1 ha) b hb

/-- What is not similar is ranked last, and that its text cannot be read matters without a limit
only; a query of another length fails before. A search for the cat does not read of the dog if it
may give one hit. -/
theorem reads_before_unreadable :
    rankDoubles [.one, .zero] axes (fun id => if id = 4 then .error (.noVector 4) else .ok id)
        (.count 2) =
      .ok ([2, 7].map (hitOf id (similarityTo [.one, .zero] axes))) ∧
    rankDoubles [.one, .zero] axes (fun id => if id = 4 then .error (.noVector 4) else .ok id)
        .unbounded = .error (.noVector 4) ∧
    (∃ entry ∈ axes.entries, entry.2.length ≠ 1 ∧
      rankDoubles (τ := Int) [.one] axes (fun id => .error (.noVector id)) (.count 1) =
        .error (.mismatch 1 entry.2.length)) ∧
    (unreadableDog.search "cat" .unbounded).1 =
      .error (.read (.unread 1 (some (.system "read error")))) ∧
    ¬ ∃ error, (unreadableDog.search "cat" (.count 1)).1 = .error error := by
  obtain ⟨hcomparable, hmismatch, -⟩ := reads_kept_alone (τ := Int)
  obtain ⟨ranked, hranked, hreads⟩ :=
    hcomparable [.one, .zero] axes ⟨by decide +kernel, by decide +kernel⟩
  obtain rfl : ranked = [2, 7, 4] :=
    hranked.eq (by decide +kernel) (by decide +kernel) (by decide +kernel)
  have hrefresh : unreadableDog.refresh.1 = .ok true := by decide +kernel
  have hranks : unreadableDog.Ranks "cat"
      ((unreadableDog.vector (.ofList ["cat"])).toOption.getD []) unreadableDog.refresh.2 :=
    ⟨rfl, ⟨true, by rw [← hrefresh]⟩, .ofList ["cat"], by decide +kernel,
      ⟨"cat", by decide +kernel⟩, by decide +kernel⟩
  obtain ⟨found, hfound, -, hsearch⟩ :=
    (reads_kept_alone (τ := String)).2.2 _ _ _ _ _ _ hranks (by decide +kernel)
  obtain rfl : found = [0, 1] :=
    hfound.eq (by decide +kernel) (by decide +kernel) (by decide +kernel)
  have hcat : unreadableDog.text 0 = .ok "Cat" := by decide +kernel
  refine ⟨?_, ?_, ?_, ?_, ?_⟩
  · exact (hreads _ _ (.first (by decide)) _).1.ok id (by decide +kernel)
  · exact ((hreads _ _ .all _).1.error_iff _).2 ⟨[2, 7], 4, [], rfl, by simp, rfl⟩
  · exact hmismatch [.one] axes (by decide +kernel) _ _ (.first (by decide)) _
  · refine ((hsearch _ _ .all).error_iff _).2 ⟨[0], 1, [], rfl, ?_, by decide +kernel⟩
    intro id hid
    rw [List.mem_singleton.1 hid]
    exact ⟨"Cat", hcat⟩
  · rintro ⟨error, hsearched⟩
    obtain ⟨id, hid, cause, hread⟩ :=
      (hsearch _ _ (.first (by decide))).fails_iff.1 ⟨error, hsearched⟩
    have hfirst : [0, 1].take (min (Int.toNat 1) unreadableDog.corpus.size) = [(0 : Int)] := by
      decide +kernel
    have hzero : id ∈ [(0 : Int)] := hfirst ▸ hid
    rw [List.mem_singleton.1 hzero] at hread
    cases hcat.symm.trans hread

end Retrieval
