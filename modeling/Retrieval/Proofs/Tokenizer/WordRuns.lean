import Retrieval.Tokenizer

set_option autoImplicit false

/-! # Maximal runs of word characters

A run is maximal if it cannot be made longer: it holds word characters only, with none directly
before it and none directly behind it (`IsMaximalRun`). One starts at every word character that does
not follow another, and goes on as long as there are word characters (`isMaximalRun_iff`). In the
order of their places, the maximal runs are what `wordRuns` puts together character by character
from the end of the text (`wordRuns_eq_map_wordStarts`). They are also what remains of the pieces
between separators if the empty ones are left out, which stand before a separator at the start,
behind one at the end and between two neighbours (`wordRuns_eq_filter_splitOnP`). -/

namespace Retrieval

open Unicode (isWordCharacter)

/-! ## Places of runs -/

/-- Whether a text ends with a word character. -/
def endsWord (cs : List Char) : Bool := cs.getLast?.any isWordCharacter

/-- Whether a word character stands at a position, and none directly before it. -/
def isWordStart (cs : List Char) (start : Nat) : Bool :=
  startsWord (cs.drop start) && !endsWord (cs.take start)

/-- The positions at which words start, in ascending order. -/
def wordStarts (cs : List Char) : List Nat := (List.range cs.length).filter (isWordStart cs)

/-- The word characters from a position on, up to the first other character. -/
def wordFrom (cs : List Char) (start : Nat) : List Char := (cs.drop start).takeWhile isWordCharacter

/-- The run stands at a position of the text and cannot be made longer on either side. -/
structure IsMaximalRun (cs : List Char) (start : Nat) (run : List Char) : Prop where
  ne_nil : run ≠ []
  word : ∀ c ∈ run, isWordCharacter c = true
  maximal : ∃ before after, cs = before ++ run ++ after ∧ before.length = start ∧
    endsWord before = false ∧ startsWord after = false

theorem lt_length_of_isWordStart {cs : List Char} {start : Nat}
    (h : isWordStart cs start = true) : start < cs.length := by
  refine Nat.lt_of_not_le fun hle => ?_
  simp [isWordStart, List.drop_eq_nil_of_le hle, startsWord] at h

theorem takeWhile_of_startsWord {cs : List Char} (h : startsWord cs = false) :
    cs.takeWhile isWordCharacter = [] := by
  cases cs with
  | nil => rfl
  | cons c rest => exact List.takeWhile_cons_of_neg (by simpa [startsWord] using h)

theorem startsWord_dropWhile (cs : List Char) :
    startsWord (cs.dropWhile isWordCharacter) = false := by
  induction cs with
  | nil => rfl
  | cons c rest ih =>
    by_cases hc : isWordCharacter c = true
    · rwa [List.dropWhile_cons_of_pos hc]
    · rw [List.dropWhile_cons_of_neg hc]
      simpa [startsWord] using hc

theorem mem_wordStarts {cs : List Char} {start : Nat} :
    start ∈ wordStarts cs ↔ isWordStart cs start = true := by
  rw [wordStarts, List.mem_filter, List.mem_range, and_iff_right_iff_imp]
  exact lt_length_of_isWordStart

/-- At each start of a word stands one maximal run, and there are no others. -/
theorem isMaximalRun_iff {cs : List Char} {start : Nat} {run : List Char} :
    IsMaximalRun cs start run ↔ isWordStart cs start = true ∧ wordFrom cs start = run := by
  constructor
  · rintro ⟨hne, hword, before, after, rfl, rfl, hbefore, hafter⟩
    have hdrop : (before ++ run ++ after).drop before.length = run ++ after := by
      rw [List.append_assoc, List.drop_left]
    have htake : (before ++ run ++ after).take before.length = before := by
      rw [List.append_assoc, List.take_left]
    constructor
    · obtain ⟨c, rest, rfl⟩ := List.exists_cons_of_ne_nil hne
      have hc := hword c List.mem_cons_self
      simp only [isWordStart, hdrop, htake, hbefore, List.cons_append, startsWord, hc]
      rfl
    · rw [wordFrom, hdrop, List.takeWhile_append_of_pos hword, takeWhile_of_startsWord hafter,
        List.append_nil]
  · rintro ⟨hstart, rfl⟩
    have hlt := lt_length_of_isWordStart hstart
    simp only [isWordStart, Bool.and_eq_true, Bool.not_eq_true'] at hstart
    obtain ⟨hstarts, hends⟩ := hstart
    refine ⟨?_, ?_, cs.take start, (cs.drop start).dropWhile isWordCharacter, ?_, ?_, hends,
      startsWord_dropWhile _⟩
    · cases hdrop : cs.drop start with
      | nil => simp [hdrop, startsWord] at hstarts
      | cons c rest =>
        have hc : isWordCharacter c = true := by rwa [hdrop] at hstarts
        rw [wordFrom, hdrop, List.takeWhile_cons_of_pos hc]
        exact List.cons_ne_nil c _
    · intro c hc
      exact List.all_eq_true.1 List.all_takeWhile c hc
    · rw [wordFrom, List.append_assoc, List.takeWhile_append_dropWhile, List.take_append_drop]
    · rw [List.length_take, Nat.min_eq_left (Nat.le_of_lt hlt)]

/-! ## Starts of words, one character at a time -/

@[simp]
theorem isWordStart_zero (cs : List Char) : isWordStart cs 0 = startsWord cs := by
  simp [isWordStart, endsWord]

theorem isWordStart_cons_succ (c : Char) (rest : List Char) (i : Nat) :
    isWordStart (c :: rest) (i + 1) = (isWordStart rest i && !(i == 0 && isWordCharacter c)) := by
  cases i with
  | zero => simp [isWordStart, endsWord]
  | succ i =>
    cases rest with
    | nil => simp [isWordStart, startsWord]
    | cons d rest => simp [isWordStart, endsWord, List.getLast?_cons_cons]

/-- A word character that comes before a text starts a word, and takes the start away from the word
that the text begins with. -/
theorem wordStarts_cons (c : Char) (rest : List Char) :
    wordStarts (c :: rest) =
      if isWordCharacter c then 0 :: ((wordStarts rest).filter fun i => !(i == 0)).map (· + 1)
      else (wordStarts rest).map (· + 1) := by
  have hshift : (isWordStart (c :: rest) ∘ fun i => i + 1) =
      fun i => !(i == 0 && isWordCharacter c) && isWordStart rest i := by
    funext i
    rw [Function.comp_apply, isWordStart_cons_succ, Bool.and_comm]
  rw [wordStarts, List.length_cons, List.range_succ_eq_map, List.filter_cons, List.filter_map,
    hshift, ← List.filter_filter, ← wordStarts, isWordStart_zero, startsWord]
  by_cases hc : isWordCharacter c = true
  · simp [hc]
  · have hkept : (wordStarts rest).filter (fun i => !(i == 0 && isWordCharacter c)) =
        wordStarts rest := List.filter_eq_self.2 (by simp [hc])
    rw [hkept, if_neg hc, if_neg hc]

/-- The runs in order are those at the starts of words, from the first to the last. -/
theorem wordRuns_eq_map_wordStarts (cs : List Char) :
    wordRuns cs = (wordStarts cs).map (wordFrom cs) := by
  induction cs with
  | nil => rfl
  | cons c rest ih =>
    have hshift : (wordFrom (c :: rest) ∘ fun i => i + 1) = wordFrom rest := rfl
    rw [wordRuns, wordStarts_cons]
    by_cases hc : isWordCharacter c = true
    · have hfirst : wordFrom (c :: rest) 0 = c :: wordFrom rest 0 := by simp [wordFrom, hc]
      rw [if_pos hc, if_pos hc, List.map_cons, List.map_map, hshift, hfirst]
      cases hstart : startsWord rest with
      | false =>
        -- the run is `c` alone, and the runs of the rest keep their starts
        have hkept : (wordStarts rest).filter (fun i => !(i == 0)) = wordStarts rest := by
          rw [List.filter_eq_self]
          intro i hi
          have hne : i ≠ 0 := by
            rintro rfl
            simp [mem_wordStarts, hstart] at hi
          simp [hne]
        have hempty : wordFrom rest 0 = [] := takeWhile_of_startsWord hstart
        rw [hkept, hempty, ih]
      | true =>
        -- the rest has a run at its beginning, and `c` joins that run
        obtain ⟨d, more, rfl⟩ : ∃ d more, rest = d :: more := by
          cases rest with
          | nil => cases hstart
          | cons d more => exact ⟨d, more, rfl⟩
        have hd : isWordCharacter d = true := hstart
        rw [ih, wordStarts_cons d more, if_pos hd]
        simp [List.filter_map, Function.comp_def]
    · rw [if_neg hc, if_neg hc, List.map_map, hshift, ih]

/-! ## Pieces between separators -/

theorem isEmpty_head_splitOnP (cs : List Char) :
    ∃ piece pieces, cs.splitOnP (fun c => !isWordCharacter c) = piece :: pieces ∧
      piece.isEmpty = !startsWord cs := by
  cases cs with
  | nil => exact ⟨[], [], rfl, rfl⟩
  | cons c rest =>
    rw [List.splitOnP_cons_eq_if_modifyHead]
    by_cases hc : isWordCharacter c = true
    · obtain ⟨piece, pieces, hsplit⟩ :=
        List.exists_cons_of_ne_nil (List.splitOnP_ne_nil (fun c => !isWordCharacter c) rest)
      exact ⟨c :: piece, pieces, by simp [hc, hsplit], by simp [startsWord, hc]⟩
    · exact ⟨[], rest.splitOnP fun c => !isWordCharacter c, by simp [hc],
        by simp [startsWord, hc]⟩

theorem wordRuns_eq_filter_splitOnP (cs : List Char) :
    wordRuns cs =
      (cs.splitOnP fun c => !isWordCharacter c).filter fun piece => !piece.isEmpty := by
  induction cs with
  | nil => rfl
  | cons c rest ih =>
    rw [wordRuns, ih, List.splitOnP_cons_eq_if_modifyHead]
    by_cases hc : isWordCharacter c = true
    · -- `c` goes to the front of the first piece, which is empty if the rest starts with none
      obtain ⟨piece, pieces, hsplit, hempty⟩ := isEmpty_head_splitOnP rest
      cases hstart : startsWord rest with
      | false =>
        have hnil : piece = [] := by simpa [hstart] using hempty
        simp [hc, hsplit, hnil]
      | true =>
        have hne : piece ≠ [] := by simpa [hstart] using hempty
        simp [hc, hsplit, hne]
    · simp [hc]

/-! ## Tokens -/

/-- The tokens of a text are those of the maximal runs of its lower case, in order, that are neither
too long nor stop words. The runs hold all word characters and each of them once, and there is one
run for each word character that does not follow another. -/
theorem split_maximal_runs (options : TokenizerOptions) (text : String) :
    ∃ placed : List (Nat × List Char),
      placed.Pairwise (fun a b => a.1 < b.1) ∧
      (∀ start run, (start, run) ∈ placed ↔
        IsMaximalRun (Unicode.lowercase text.toList) start run) ∧
      (∀ run ∈ placed.map Prod.snd, run ≠ [] ∧ ∀ c ∈ run, isWordCharacter c = true) ∧
      (placed.map Prod.snd).flatten = (Unicode.lowercase text.toList).filter isWordCharacter ∧
      placed.length = (List.range (Unicode.lowercase text.toList).length).countP
        (isWordStart (Unicode.lowercase text.toList)) ∧
      placed.map Prod.snd = ((Unicode.lowercase text.toList).splitOnP fun c =>
        !isWordCharacter c).filter (fun piece => !piece.isEmpty) ∧
      options.split text = ((placed.map Prod.snd).filter fun run =>
        (run.length : Int) ≤ options.maxLength ∧ String.ofList run ∉ options.stopWords).map
          String.ofList := by
  generalize hlower : Unicode.lowercase text.toList = lower
  have hruns : ((wordStarts lower).map fun start => (start, wordFrom lower start)).map Prod.snd =
      wordRuns lower := by
    rw [List.map_map, wordRuns_eq_map_wordStarts]
    rfl
  refine ⟨(wordStarts lower).map fun start => (start, wordFrom lower start), ?_, ?_, ?_, ?_, ?_, ?_,
    ?_⟩
  · rw [List.pairwise_map]
    exact List.pairwise_lt_range.filter _
  · intro start run
    simp only [isMaximalRun_iff, List.mem_map, mem_wordStarts, Prod.mk.injEq]
    constructor
    · rintro ⟨place, hplace, rfl, rfl⟩
      exact ⟨hplace, rfl⟩
    · rintro ⟨hplace, rfl⟩
      exact ⟨start, hplace, rfl, rfl⟩
  · rw [hruns]
    exact forall_mem_wordRuns lower
  · rw [hruns]
    exact flatten_wordRuns lower
  · rw [List.length_map, wordStarts, List.countP_eq_length_filter]
  · rw [hruns, wordRuns_eq_filter_splitOnP]
  · rw [hruns, TokenizerOptions.split, hlower]
    congr 1
    refine List.filter_congr fun run _ => ?_
    simp [TokenizerOptions.admits]

/-- A capital I with a dot becomes a letter and a dot, and the dot parts the word. -/
example :
    ({ stopWords := ["the"] } : TokenizerOptions).split "The İstanbul!" = ["i", "stanbul"] := by
  decide +kernel

end Retrieval
