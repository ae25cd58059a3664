import Retrieval.Proofs.Engine.Coherence
import Retrieval.Proofs.Engine.Reordering
import Retrieval.Proofs.Engine.Unreadable

set_option autoImplicit false

/-! # Documents with the same words

Two documents with the same bag of words, which count each term alike and have the same length, have
the same vector, in whatever order each of them holds its terms (`Statistics.vector_of_sameBag`) and
however far apart they were added: an engine gives the vectors that follow from all its documents.
So both are equally similar to each query, and a ranking, which decides ties by the id, puts the
first before the second and nothing but further ties between them. A limit keeps the beginning of
the ranking, and with the second document always the first (`Engine.tied_of_sameBag`). -/

namespace Retrieval

variable {τ : Type}

/-! ## Bags of words -/

namespace Tokens

/-- Both count each term alike, and have the same length. Their terms may have different orders. -/
structure SameBag (first second : Tokens) : Prop where
  length_eq : first.length = second.length
  get?_eq : ∀ term, first.counts.get? term = second.counts.get? term

/-- A tokenizer that counts puts the same words in another order into the same bag. -/
theorem sameBag_ofList {xs ys : List String} (h : xs.Perm ys) :
    (ofList xs).SameBag (ofList ys) where
  length_eq := by rw [ofList, ofList, h.length_eq]
  get?_eq term := by
    rw [Corpus.get?_counts_ofList, Corpus.get?_counts_ofList, h.count_eq]
    simp only [h.mem_iff]

theorem SameBag.knownCounts_perm {first second : Tokens} (h : first.SameBag second)
    (known : List String) : (first.knownCounts known).Perm (second.knownCounts known) :=
  (OrderedMap.entries_perm_of_get?_eq h.get?_eq).filter _

end Tokens

theorem Statistics.vector_of_sameBag {statistics : Statistics} {known : List String}
    {first second : Tokens} (h : first.SameBag second) {v : DocumentVector}
    (hv : statistics.vector known first = .ok v) : statistics.vector known second = .ok v :=
  vector_of_perm h.length_eq.symm (h.knownCounts_perm known).symm hv

/-- Documents of a collection with the same bag have the same vector, or there are no vectors. -/
theorem Collection.documentVector_of_sameBag {collection : Collection τ} {i j : Nat}
    {first second : Tokens} (hi : collection.tokens[i]? = some first)
    (hj : collection.tokens[j]? = some second) (h : first.SameBag second) :
    collection.documentVector i = collection.documentVector j := by
  cases hvectors : collection.vectors with
  | error error => rw [documentVector, documentVector, hvectors, error_bind, error_bind]
  | ok vectors =>
    have hget := getElem?_of_mapM_eq_ok (mapError_eq_ok_iff.1 hvectors) i
    rw [hi, Option.map_some] at hget
    obtain ⟨v, -, hv⟩ := Option.map_eq_some_iff.1 hget.symm
    rw [documentVector_of_tokens hvectors hi, documentVector_of_tokens hvectors hj, ← hv,
      Statistics.vector_of_sameBag h hv.symm]

/-! ## Places in a list -/

/-- Of two elements of a list, of which the second must not precede the first, the first stands at
some place and the second behind it. -/
theorem exists_split_of_pairwise {α : Type} {related : α → α → Prop} {xs : List α} {a b : α}
    (h : xs.Pairwise related) (ha : a ∈ xs) (hb : b ∈ xs) (hne : a ≠ b) (hnot : ¬ related b a) :
    ∃ front between back, xs = front ++ a :: between ++ b :: back := by
  obtain ⟨front, rest, rfl⟩ := List.append_of_mem ha
  obtain ⟨-, -, hcross⟩ := List.pairwise_append.1 h
  have hrest : b ∈ rest := by
    rcases List.mem_append.1 hb with hfront | hrest
    · exact absurd (hcross b hfront a List.mem_cons_self) hnot
    · exact (List.mem_cons.1 hrest).resolve_left (Ne.symm hne)
  obtain ⟨between, back, rfl⟩ := List.append_of_mem hrest
  exact ⟨front, between, back, by simp⟩

/-- What is kept from the beginning of a list holds with an element all that the element must not
precede. -/
theorem mem_prefix_of_pairwise {α : Type} {related : α → α → Prop} {xs kept : List α} {a b : α}
    (h : xs.Pairwise related) (hkept : kept <+: xs) (ha : a ∈ xs) (hb : b ∈ kept)
    (hnot : ¬ related b a) : a ∈ kept := by
  obtain ⟨rest, rfl⟩ := hkept
  rcases List.mem_append.1 ha with ha | ha
  · exact ha
  · exact absurd ((List.pairwise_append.1 h).2.2 b hb a ha) hnot

/-! ## Ties -/

/-- The greater of two ids does not precede the other in a tie. -/
theorem not_precedes_of_tie {similarity : Int → Binary64} {a b : Int} (hlt : a < b)
    (htie : similarity a = similarity b) : ¬ Precedes similarity b a := by
  rintro (h | ⟨-, -, h⟩)
  · rw [htie, Binary64.lt_irrefl] at h
    cases h
  · omega

/-- In a ranking, two ids of the same similarity stand in their order, and between them ids of that
similarity only. -/
theorem exists_between_of_tie {similarity : Int → Binary64} {ranked : List Int} {a b : Int}
    (hranked : ranked.Pairwise (Precedes similarity)) (ha : a ∈ ranked) (hb : b ∈ ranked)
    (hlt : a < b) (htie : similarity a = similarity b) :
    ∃ front between back, ranked = front ++ a :: between ++ b :: back ∧
      ∀ id ∈ between, (similarity id).le (similarity a) = true ∧
        (similarity a).le (similarity id) = true := by
  obtain ⟨front, between, back, rfl⟩ := exists_split_of_pairwise hranked ha hb
    (Int.ne_of_lt hlt) (not_precedes_of_tie hlt htie)
  refine ⟨front, between, back, rfl, ?_⟩
  intro id hid
  obtain ⟨hbefore, -, hbehind⟩ := List.pairwise_append.1 hranked
  obtain ⟨-, hfirst, -⟩ := List.pairwise_append.1 hbefore
  constructor
  · exact ((List.pairwise_cons.1 hfirst).1 id hid).le
  · rw [htie]
    exact (hbehind id (by simp [hid]) b List.mem_cons_self).le

/-- What a ranking gives is read along the beginning of the order, or along all of it. -/
theorem Comparable.exists_kept {query : DocumentVector} {vectors : OrderedMap Int DocumentVector}
    (h : Comparable query vectors) {textOf : Int → Except Error τ} {limit : Limit}
    {hits : List (Hit τ)} (hrank : rankDoubles query vectors textOf limit = .ok hits) :
    ∃ kept, kept <+: rankedIds (similarityTo query vectors) vectors.keys ∧
      kept.mapM (readHit textOf (similarityTo query vectors)) = .ok hits ∧
      (limit = .unbounded → kept = rankedIds (similarityTo query vectors) vectors.keys) := by
  rw [h.rankDoubles_eq] at hrank
  obtain ⟨excluded, hexcludes, hread⟩ := bind_eq_ok_iff.1 hrank
  cases excluded with
  | true =>
    cases hread
    refine ⟨[], List.nil_prefix, rfl, ?_⟩
    rintro rfl
    cases hexcludes
  | false =>
    obtain ⟨kept, hcut, hkept⟩ := bind_eq_ok_iff.1 hread
    refine ⟨kept, Limit.prefix_of_cut hcut, hkept, ?_⟩
    rintro rfl
    cases hcut
    rfl

/-! ## Similarities of documents -/

namespace Engine

/-- The similarity of a document to a query, as far as both have vectors. -/
def similarity? (engine : Engine τ) (query : τ) (id : Int) : Option Binary64 :=
  match engine.queryVector query, (engine.documentVector id).1 with
  | .ok (some v), .ok w => (cosine (v.map .double) (w.map .double)).toOption
  | _, _ => none

section Ranking

variable {engine after : Engine τ} {query : τ} {v : DocumentVector}

/-- A search that gives hits has come to a ranking. -/
theorem exists_ranks_of_hits {limit : Limit} {hits : List (Hit τ)}
    (h : (engine.search query limit).1 = .ok hits) (hne : hits ≠ []) :
    ∃ v after, engine.Ranks query v after := by
  rcases engine.search_cases query limit with ⟨-, heq⟩ | ⟨-, error, -, heq⟩ | ⟨-, -, heq⟩ |
    ⟨-, -, error, -, heq⟩ | ⟨hopen, -, rebuilt, after, hrefresh, heq⟩
  · rw [heq] at h
    cases h
  · rw [heq] at h
    cases h
  · rw [heq] at h
    cases h
    exact absurd rfl hne
  · rw [heq] at h
    cases h
  · have hquery : after.queryVector query = engine.queryVector query := by
      rw [eq_of_refresh hrefresh]
      rfl
    rw [heq, answer, hquery] at h
    obtain ⟨queried, hqueried, h⟩ := bind_eq_ok_iff.1 h
    cases queried with
    | none =>
      cases h
      exact absurd rfl hne
    | some v =>
      exact ⟨v, after, hopen, ⟨rebuilt, hrefresh⟩, queryVector_eq_some_iff.1 hqueried⟩

/-- The vectors that are ranked are those of the documents. -/
theorem Ranks.documentVector_eq (h : engine.Ranks query v after) {entry : Int × DocumentVector}
    (hentry : entry ∈ after.cache.vectors.entries) :
    (engine.documentVector entry.1).1 = .ok entry.2 := by
  obtain ⟨rebuilt, hrefresh⟩ := h.refreshed
  rw [documentVector, h.not_closed, if_neg Bool.false_ne_true, hrefresh]
  show after.cachedVector entry.1 = .ok entry.2
  rw [cachedVector, OrderedMap.get?_eq_some_iff.2 hentry]

theorem Ranks.similarity?_eq (h : engine.Ranks query v after)
    (hlength : ∀ entry ∈ after.cache.vectors.entries, entry.2.length = v.length) {id : Int}
    (hid : id ∈ after.cache.vectors.keys) :
    engine.similarity? query id = some (similarityTo v after.cache.vectors id) := by
  obtain ⟨entry, hentry, rfl⟩ := List.mem_map.1 hid
  have hcosine := cosine_eq_similarityTo hentry (hlength entry hentry)
  simp only [similarity?, h.queryVector, h.documentVector_eq hentry, hcosine, Except.toOption]

end Ranking

/-! ## Documents that tie -/

/-- How two documents stand in the ranking of all documents for a query. -/
structure TiedIn (engine : Engine τ) (query : τ) (first second : Int) (ranked : List Int)
    (similarity : Int → Binary64) : Prop where
  perm : ranked.Perm ((List.range engine.size).map fun id : Nat => (id : Int))
  similarity?_eq : ∀ id ∈ ranked, engine.similarity? query id = some (similarity id)
  vector : ∃ v, (engine.documentVector first).1 = .ok v ∧ (engine.documentVector second).1 = .ok v
  tie : similarity first = similarity second
  /-- Whatever stands between the two is as similar as they are. -/
  between : ∃ front between back, ranked = front ++ first :: between ++ second :: back ∧
    ∀ id ∈ between, (similarity id).le (similarity first) = true ∧
      (similarity first).le (similarity id) = true
  /-- A search reads along the ranking, and to its end if there is no limit. -/
  reads : ∀ limit hits, (engine.search query limit).1 = .ok hits →
    ∃ kept, kept <+: ranked ∧ kept.mapM (readHit engine.text similarity) = .ok hits ∧
      (limit = .unbounded → kept = ranked) ∧ (second ∈ kept → first ∈ kept)

section Reflects

variable {engine after : Engine τ} {collection : Collection τ} {query : τ} {v : DocumentVector}

theorem Reflects.mem_keys_of_ranks (h : engine.Reflects collection)
    (hranks : engine.Ranks query v after) {id : Nat} (hid : id < engine.size) :
    (id : Int) ∈ after.cache.vectors.keys := by
  rw [(h.vectors_of_ranks hranks).2]
  exact List.mem_map_of_mem (List.mem_range.2 hid)

theorem Reflects.comparable (h : engine.Reflects collection) (hranks : engine.Ranks query v after)
    (hnan : ∀ id : Nat, id < engine.size → engine.similarity? query id ≠ some .nan) :
    Comparable v after.cache.vectors := by
  obtain ⟨hlength, hkeys⟩ := h.vectors_of_ranks hranks
  refine ⟨hlength, ?_⟩
  intro id hid heq
  have hsimilarity := hranks.similarity?_eq hlength hid
  rw [hkeys] at hid
  obtain ⟨number, hsize, rfl⟩ := List.mem_map.1 hid
  exact hnan number (List.mem_range.1 hsize) (by rw [hsimilarity, heq])

/-- Documents with the same vector tie. -/
theorem Reflects.tiedIn (h : engine.Reflects collection) (hranks : engine.Ranks query v after)
    (hnan : ∀ id : Nat, id < engine.size → engine.similarity? query id ≠ some .nan) {i j : Nat}
    (hlt : i < j) (hj : j < engine.size)
    (hvector : (engine.documentVector i).1 = (engine.documentVector j).1) :
    engine.TiedIn query i j
      (rankedIds (similarityTo v after.cache.vectors) after.cache.vectors.keys)
      (similarityTo v after.cache.vectors) := by
  obtain ⟨hlength, hkeys⟩ := h.vectors_of_ranks hranks
  have hcomparable := h.comparable hranks hnan
  have hranked := hcomparable.rankedBy
  have hfirst := h.mem_keys_of_ranks hranks (Nat.lt_trans hlt hj)
  have hsecond := h.mem_keys_of_ranks hranks hj
  have hids : (i : Int) < j := Int.ofNat_lt.2 hlt
  have htie : similarityTo v after.cache.vectors i = similarityTo v after.cache.vectors j := by
    have hsame : engine.similarity? query i = engine.similarity? query j := by
      rw [similarity?, similarity?, hvector]
    rw [hranks.similarity?_eq hlength hfirst, hranks.similarity?_eq hlength hsecond] at hsame
    exact Option.some.inj hsame
  constructor
  case perm => exact hkeys ▸ hranked.perm
  case similarity?_eq =>
    exact fun id hid => hranks.similarity?_eq hlength (hranked.perm.mem_iff.1 hid)
  case vector =>
    obtain ⟨entry, hentry, hid⟩ := List.mem_map.1 hsecond
    have heq := hranks.documentVector_eq hentry
    rw [hid] at heq
    exact ⟨entry.2, hvector.trans heq, heq⟩
  case tie => exact htie
  case between =>
    exact exists_between_of_tie hranked.pairwise (hranked.perm.mem_iff.2 hfirst)
      (hranked.perm.mem_iff.2 hsecond) hids htie
  case reads =>
    intro limit hits hhits
    rw [hranks.search_eq] at hhits
    obtain ⟨kept, hprefix, hread, hall⟩ := hcomparable.exists_kept hhits
    refine ⟨kept, hprefix, hread, hall, ?_⟩
    intro hkept
    exact mem_prefix_of_pairwise hranked.pairwise hprefix (hranked.perm.mem_iff.2 hfirst) hkept
      (not_precedes_of_tie hids htie)

end Reflects

/-- In every state that an engine can reach, documents with the same bag of words have the same
vector, and they tie in each search that gives hits, as long as no similarity is not-a-number: the
first that was added stands before the other, what stands between them is as similar as they are,
and no limit leaves the other without the first. -/
theorem tied_of_sameBag (tokenizer : Tokenizer τ) (texts : List τ) (history : List (Event τ))
    {i j : Nat} {first second : Record} (hlt : i < j)
    (hfirst : ((fresh tokenizer texts).afterAll history).corpus.records[i]? = some first)
    (hsecond : ((fresh tokenizer texts).afterAll history).corpus.records[j]? = some second)
    (hbag : first.tokens.SameBag second.tokens) :
    (((fresh tokenizer texts).afterAll history).documentVector i).1 =
      (((fresh tokenizer texts).afterAll history).documentVector j).1 ∧
    ∀ query limit hits,
      (((fresh tokenizer texts).afterAll history).search query limit).1 = .ok hits → hits ≠ [] →
      (∀ id : Nat, id < ((fresh tokenizer texts).afterAll history).size →
        ((fresh tokenizer texts).afterAll history).similarity? query id ≠ some .nan) →
      ∃ ranked similarity,
        ((fresh tokenizer texts).afterAll history).TiedIn query i j ranked similarity := by
  have hreflects := reflects_afterAll tokenizer texts history
  generalize (fresh tokenizer texts).afterAll history = engine at *
  have hsize : j < engine.size := (List.getElem?_eq_some_iff.1 hsecond).1
  have hvector : (engine.documentVector i).1 = (engine.documentVector j).1 := by
    rw [hreflects.corpus_eq] at hfirst hsecond
    rw [hreflects.documentVector, hreflects.documentVector, Collection.documentVector_of_sameBag
      (Corpus.record_ofTokens hfirst).2 (Corpus.record_ofTokens hsecond).2 hbag]
  refine ⟨hvector, ?_⟩
  intro query limit hits hhits hne hnan
  obtain ⟨v, after, hranks⟩ := exists_ranks_of_hits hhits hne
  exact ⟨_, _, hreflects.tiedIn hranks hnan hlt hsize hvector⟩

/-- An engine with two documents that hold the same words. The second came after a search. -/
def catDogTwice : Engine String :=
  (fresh (.standard {}) []).afterAll [.call (.insert "Cat dog"),
    .call (.search "cat" .unbounded), .call (.insert "Dog cat")]

/-- Asked for one hit, the engine gives the document that was added first. -/
theorem tied_catDogTwice :
    (catDogTwice.documentVector (0 : Nat)).1 = (catDogTwice.documentVector (1 : Nat)).1 ∧
    (∃ hit : Hit String, hit.text = "Cat dog" ∧
      (catDogTwice.search "cat" (.count 1)).1 = .ok [hit]) ∧
    ∃ ranked similarity, catDogTwice.TiedIn "cat" (0 : Nat) (1 : Nat) ranked similarity := by
  have hrefresh : catDogTwice.refresh.1 = .ok true := by decide +kernel
  have hranks : catDogTwice.Ranks "cat"
      ((catDogTwice.vector (.ofList ["cat"])).toOption.getD []) catDogTwice.refresh.2 :=
    ⟨by decide +kernel, ⟨true, by rw [← hrefresh]⟩, .ofList ["cat"], by decide +kernel,
      ⟨"cat", by decide +kernel⟩, by decide +kernel⟩
  have hcomparable : Comparable ((catDogTwice.vector (.ofList ["cat"])).toOption.getD [])
      catDogTwice.refresh.2.cache.vectors := ⟨by decide +kernel, by decide +kernel⟩
  obtain ⟨ranked, hranked, hrank⟩ := hcomparable.exists_ranked
  obtain rfl : ranked = [0, 1] :=
    hranked.eq (by decide +kernel) (by decide +kernel) (by decide +kernel)
  have hkept : [0, 1].take (min (Int.toNat 1) catDogTwice.refresh.2.cache.vectors.size) =
      [(0 : Int)] := by decide +kernel
  have htext : ∀ id ∈ [(0 : Int)], catDogTwice.text id = .ok "Cat dog" := by decide +kernel
  have hhits := (hranks.search_eq (.count 1)).trans
    (hrank _ _ (.first (by decide)) catDogTwice.text)
  rw [hkept, mapM_readHit htext] at hhits
  have hfirst : catDogTwice.corpus.records[0]? =
      some { id := 0, tokens := .ofList ["cat", "dog"] } := by decide +kernel
  have hsecond : catDogTwice.corpus.records[1]? =
      some { id := 1, tokens := .ofList ["dog", "cat"] } := by decide +kernel
  have hperm : ["cat", "dog"].Perm ["dog", "cat"] := by decide +kernel
  rw [catDogTwice] at hfirst hsecond
  obtain ⟨hvector, htied⟩ := tied_of_sameBag _ _ _ (show 0 < 1 by decide) hfirst hsecond
    (Tokens.sameBag_ofList hperm)
  exact ⟨hvector, ⟨_, rfl, hhits⟩, htied "cat" (.count 1) _ hhits (List.cons_ne_nil _ _)
    (by decide +kernel)⟩

end Engine

end Retrieval
