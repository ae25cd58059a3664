import Retrieval.Proofs.Decimal.Numeral
import Retrieval.Proofs.Engine.Descending

set_option autoImplicit false

/-! # Written hits

The text of a hit is written between fixed parts that may occur in it, and nothing in it is marked.
The number comes last, though, and no numeral has an equals sign. So the last equals sign of a
written hit stands before the number, whatever the text holds, and text and numeral can be read back
(`Hit.ShownWith.eq_of_render_eq`). The numeral is that of the nearest multiple of the last place,
so the numbers do not rise along the hits of a search, as the similarities do not
(`render_unambiguous`). -/

namespace Retrieval

/-! ## Reading back -/

/-- There is one way only to cut a list at the last separator in it. -/
theorem append_cons_inj_of_notMem {α : Type} {separator : α} {xs xs' ys ys' : List α}
    (hys : separator ∉ ys) (hys' : separator ∉ ys')
    (h : xs ++ separator :: ys = xs' ++ separator :: ys') : xs = xs' ∧ ys = ys' := by
  rcases List.append_eq_append_iff.1 h with ⟨between, rfl, heq⟩ | ⟨between, rfl, heq⟩
  · cases between with
    | nil => simpa using heq
    | cons x rest =>
      cases heq
      simp at hys
  · cases between with
    | nil => simpa [eq_comm] using heq
    | cons x rest =>
      cases heq
      simp at hys'

theorem Numeral.equalsSign_notMem {places : Nat} (numeral : Numeral places) :
    '=' ∉ numeral.text.toList := by
  have hdigits : '=' ∉ numeral.whole ++ numeral.decimals :=
    fun hmem => Bool.false_ne_true (numeral.isDigit '=' hmem)
  have hsign : '=' ∉ (signText numeral.negative).toList := by
    cases numeral.negative <;> decide
  rw [toList_text]
  simp_all

namespace Hit

theorem render_eq (hit : Hit String) :
    hit.render = "SearchHit\x7btext='" ++ hit.text ++ "', similarity=" ++
      hit.similarity.toFixed 4 ++ "\x7d" := rfl

theorem toList_render (hit : Hit String) :
    hit.render.toList = "SearchHit\x7btext='".toList ++ hit.text.toList ++ "', similarity".toList ++
      '=' :: ((hit.similarity.toFixed 4).toList ++ "\x7d".toList) := by
  have hseparator : "', similarity=".toList = "', similarity".toList ++ ['='] := by decide
  simp only [render_eq, String.toList_append, hseparator, List.append_assoc,
    List.cons_append, List.nil_append]

/-- A hit is written as its text and this numeral between fixed parts, and the numeral is that of
the similarity. -/
structure ShownWith (hit : Hit String) (numeral : Numeral 4) : Prop
    extends hit.similarity.WrittenAs numeral where
  render_eq : hit.render =
    "SearchHit\x7btext='" ++ hit.text ++ "', similarity=" ++ numeral.text ++ "\x7d"

variable {hit other : Hit String} {n m : Numeral 4}

theorem exists_shownWith (h : hit.similarity.isFinite = true) :
    ∃ numeral, hit.ShownWith numeral := by
  have hplaces : 0 < 4 := by decide
  obtain ⟨numeral, hwritten⟩ := Binary64.exists_numeral hplaces h
  exact ⟨numeral, hwritten, by rw [render_eq, hwritten.toFixed_eq]⟩

theorem ShownWith.eq_of_render_eq (hn : hit.ShownWith n) (hm : other.ShownWith m)
    (h : hit.render = other.render) : hit.text = other.text ∧ n = m := by
  have hbrace : '=' ∉ "\x7d".toList := by decide
  have hlist := congrArg String.toList h
  rw [toList_render, toList_render, hn.toFixed_eq, hm.toFixed_eq] at hlist
  obtain ⟨hfront, hnumber⟩ := append_cons_inj_of_notMem
    (by simp [n.equalsSign_notMem]) (by simp [m.equalsSign_notMem]) hlist
  constructor
  · exact String.toList_inj.1 (List.append_cancel_left (List.append_cancel_right hfront))
  · exact Numeral.text_injective (String.toList_inj.1 (List.append_cancel_right hnumber))

end Hit

/-! ## Hits of a search -/

/-- Finite similarities do not rise along the hits of a search. -/
theorem Engine.pairwise_exact_search {engine : Engine String} {query : String} {limit : Limit}
    {hits : List (Hit String)} (h : (engine.search query limit).1 = .ok hits)
    (hfinite : ∀ hit ∈ hits, hit.similarity.isFinite = true) :
    hits.Pairwise fun hit next => next.similarity.exact ≤ hit.similarity.exact := by
  have hchain : (hits.map fun hit => hit.similarity.exact).IsChain (· ≥ ·) := by
    refine (List.isChain_map _).2 ((Engine.isChain_search h).imp_of_mem_imp ?_)
    intro hit next hhit hnext hnot
    exact Binary64.exact_le_of_not_lt (hfinite hit hhit) (hfinite next hnext) hnot
  exact List.pairwise_map.1 (List.isChain_iff_pairwise.1 hchain)

/-- A hit with a finite similarity is written with a numeral of the nearest multiple of the last
place. Hits that are written alike have the same text and the same numeral; of two hits, the more
similar one shows no smaller number; and along the hits of a search the numbers do not rise. -/
theorem render_unambiguous :
    (∀ hit : Hit String, hit.similarity.isFinite = true → ∃ numeral, hit.ShownWith numeral) ∧
    (∀ (hit other : Hit String) (n m : Numeral 4), hit.ShownWith n → other.ShownWith m →
      hit.render = other.render → hit.text = other.text ∧ n = m) ∧
    (∀ (hit other : Hit String) (n m : Numeral 4), hit.ShownWith n → other.ShownWith m →
      hit.similarity.le other.similarity = true → n.value ≤ m.value) ∧
    ∀ (engine : Engine String) (query : String) (limit : Limit) (hits : List (Hit String)),
      (engine.search query limit).1 = .ok hits →
      (∀ hit ∈ hits, hit.similarity.isFinite = true) →
      hits.Pairwise fun hit next => ∀ n m, hit.ShownWith n → next.ShownWith m →
        m.value ≤ n.value := by
  refine ⟨fun hit => Hit.exists_shownWith, fun hit other n m => Hit.ShownWith.eq_of_render_eq,
    fun hit other n m hn hm => hn.value_le hm.toWrittenAs, ?_⟩
  intro engine query limit hits h hfinite
  refine (Engine.pairwise_exact_search h hfinite).imp ?_
  intro hit next hle n m hn hm
  exact hm.value_le hn.toWrittenAs ((Binary64.le_iff_exact_le hm.isFinite hn.isFinite).2 hle)

/-- A text that reads as if a hit ended in it, with a similarity of 1/32, which lies halfway between
two multiples. -/
def endInText : Hit String :=
  { text := "cat', similarity=1.0000\x7d"
    similarity := .finite false (twoPow 1069) (by decide +kernel) }

theorem render_endInText :
    (∃ numeral, endInText.ShownWith numeral ∧ numeral.text = "0.0312") ∧
    ∀ hit : Hit String, hit.similarity.isFinite = true → hit.render = endInText.render →
      hit.text = endInText.text := by
  obtain ⟨hshown, hunique, -⟩ := render_unambiguous
  obtain ⟨numeral, hnumeral⟩ := hshown endInText rfl
  refine ⟨⟨numeral, hnumeral, hnumeral.toFixed_eq.symm.trans (by decide +kernel)⟩, ?_⟩
  intro hit hfinite hrender
  obtain ⟨other, hother⟩ := hshown hit hfinite
  exact (hunique hit endInText other numeral hother hnumeral hrender).1

end Retrieval
