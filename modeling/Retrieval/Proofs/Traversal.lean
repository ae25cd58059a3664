set_option autoImplicit false

/-! # Traversals that may fail

Vectors, scores and texts are made by going through a list with a function that may fail, and the
first failure is that of the whole. A traversal that succeeds gives the results in the order of the
list: `mapM_eq_ok_iff` says so by one equation between lists, from which the length, the members and
the single entries of the result can be read off. -/

namespace Retrieval

variable {ε α β γ δ : Type}

/-! ## Single calculations -/

@[simp]
theorem except_pure (a : α) : (pure a : Except ε α) = .ok a := rfl

@[simp]
theorem ok_bind (a : α) (f : α → Except ε β) : (Except.ok a >>= f) = f a := rfl

@[simp]
theorem error_bind (e : ε) (f : α → Except ε β) :
    ((Except.error e : Except ε α) >>= f) = .error e := rfl

@[simp]
theorem map_ok (f : α → β) (a : α) : (f <$> (Except.ok a : Except ε α)) = .ok (f a) := rfl

@[simp]
theorem map_error (f : α → β) (e : ε) : (f <$> (Except.error e : Except ε α)) = .error e := rfl

@[simp]
theorem mapError_ok {f : ε → γ} (a : α) : (Except.ok a : Except ε α).mapError f = .ok a := rfl

@[simp]
theorem mapError_error {f : ε → γ} (e : ε) :
    (Except.error e : Except ε α).mapError f = .error (f e) := rfl

theorem map_eq_ok_iff {f : α → β} {x : Except ε α} {b : β} :
    f <$> x = .ok b ↔ ∃ a, x = .ok a ∧ f a = b := by
  cases x <;> simp

theorem map_eq_error_iff {f : α → β} {x : Except ε α} {e : ε} :
    f <$> x = .error e ↔ x = .error e := by
  cases x <;> simp

theorem bind_eq_ok_iff {x : Except ε α} {f : α → Except ε β} {b : β} :
    x >>= f = .ok b ↔ ∃ a, x = .ok a ∧ f a = .ok b := by
  cases x <;> simp

theorem mapError_eq_ok_iff {f : ε → γ} {x : Except ε α} {a : α} :
    x.mapError f = .ok a ↔ x = .ok a := by
  cases x <;> simp

theorem mapError_eq_error_iff {f : ε → γ} {x : Except ε α} {e : γ} :
    x.mapError f = .error e ↔ ∃ cause, x = .error cause ∧ f cause = e := by
  cases x <;> simp

/-! ## Going through a list -/

theorem mapM_eq_ok_iff {f : α → Except ε β} {xs : List α} {ys : List β} :
    xs.mapM f = .ok ys ↔ xs.map f = ys.map .ok := by
  induction xs generalizing ys with
  | nil => cases ys <;> simp
  | cons x rest ih =>
    rw [List.mapM_cons, List.map_cons]
    cases hx : f x with
    | error e => cases ys <;> simp
    | ok y =>
      cases hr : rest.mapM f with
      | error e => cases ys <;> simp [← ih, hr]
      | ok rs => cases ys <;> simp [← ih, hr]

theorem length_of_mapM_eq_ok {f : α → Except ε β} {xs : List α} {ys : List β}
    (h : xs.mapM f = .ok ys) : ys.length = xs.length := by
  simpa using (congrArg List.length (mapM_eq_ok_iff.1 h)).symm

theorem getElem?_of_mapM_eq_ok {f : α → Except ε β} {xs : List α} {ys : List β}
    (h : xs.mapM f = .ok ys) (i : Nat) : (xs[i]?).map f = (ys[i]?).map .ok := by
  rw [← List.getElem?_map, ← List.getElem?_map, mapM_eq_ok_iff.1 h]

/-- What each result has in common with its element, the lists of both have in common. -/
theorem map_eq_map_of_mapM_eq_ok {ofResult : β → γ} {ofElement : α → γ} {f : α → Except ε β}
    {xs : List α} {ys : List β} (h : xs.mapM f = .ok ys)
    (hstep : ∀ x y, f x = .ok y → ofResult y = ofElement x) :
    ys.map ofResult = xs.map ofElement := by
  rw [mapM_eq_ok_iff] at h
  induction xs generalizing ys with
  | nil =>
    rw [List.map_nil, List.nil_eq, List.map_eq_nil_iff] at h
    rw [h, List.map_nil, List.map_nil]
  | cons x rest ih =>
    obtain ⟨y, others, rfl, hy, hrest⟩ := List.map_eq_cons_iff.1 h.symm
    rw [List.map_cons, List.map_cons, hstep x y hy.symm, ih hrest.symm]

/-- The keys of the entries that a traversal makes are those that it gives to the elements. -/
theorem map_fst_of_mapM_eq_ok {key : α → γ} {f : α → Except ε β} {xs : List α}
    {entries : List (γ × β)} (h : xs.mapM (fun x => do return (key x, ← f x)) = .ok entries) :
    entries.map Prod.fst = xs.map key := by
  refine map_eq_map_of_mapM_eq_ok h ?_
  intro x entry hentry
  obtain ⟨y, -, rfl⟩ := map_eq_ok_iff.1 hentry
  rfl

/-- Every result comes from an element of the list. -/
theorem exists_mem_of_mapM_eq_ok {f : α → Except ε β} {xs : List α} {ys : List β}
    (h : xs.mapM f = .ok ys) {y : β} (hy : y ∈ ys) : ∃ x ∈ xs, f x = .ok y := by
  have hmem : Except.ok y ∈ xs.map f := mapM_eq_ok_iff.1 h ▸ List.mem_map_of_mem hy
  exact List.mem_map.1 hmem

/-! ## The first failure -/

/-- What a calculation fails with on the first element of a list on which it fails. -/
def FirstFailure (f : α → Except ε β) (xs : List α) (e : ε) : Prop :=
  ∃ before x after, xs = before ++ x :: after ∧ (∀ y ∈ before, ∃ b, f y = .ok b) ∧ f x = .error e

theorem not_firstFailure_nil {f : α → Except ε β} {e : ε} : ¬ FirstFailure f [] e := by
  rintro ⟨before, x, after, hsplit, -⟩
  simp at hsplit

theorem firstFailure_cons_iff {f : α → Except ε β} {x : α} {rest : List α} {e : ε} :
    FirstFailure f (x :: rest) e ↔
      f x = .error e ∨ (∃ b, f x = .ok b) ∧ FirstFailure f rest e := by
  constructor
  · rintro ⟨before, y, after, hsplit, hbefore, hy⟩
    cases before with
    | nil =>
      cases hsplit
      exact Or.inl hy
    | cons z before =>
      cases hsplit
      obtain ⟨hx, hrest⟩ := List.forall_mem_cons.1 hbefore
      exact Or.inr ⟨hx, before, y, after, rfl, hrest, hy⟩
  · rintro (hx | ⟨hx, before, y, after, rfl, hbefore, hy⟩)
    · exact ⟨[], x, rest, rfl, by simp, hx⟩
    · exact ⟨x :: before, y, after, rfl, List.forall_mem_cons.2 ⟨hx, hbefore⟩, hy⟩

/-- A traversal fails with the first failure that it meets. -/
theorem mapM_eq_error_iff_firstFailure {f : α → Except ε β} {xs : List α} {e : ε} :
    xs.mapM f = .error e ↔ FirstFailure f xs e := by
  induction xs with
  | nil => simp [not_firstFailure_nil]
  | cons x rest ih =>
    rw [List.mapM_cons, firstFailure_cons_iff, ← ih]
    cases f x with
    | error e' => simp
    | ok b => cases rest.mapM f <;> simp

/-- The failure of a traversal is that of one of its steps. -/
theorem exists_mem_of_mapM_eq_error {f : α → Except ε β} {xs : List α} {e : ε}
    (h : xs.mapM f = .error e) : ∃ x ∈ xs, f x = .error e := by
  obtain ⟨before, x, after, rfl, -, hx⟩ := mapM_eq_error_iff_firstFailure.1 h
  exact ⟨x, List.mem_append_right _ List.mem_cons_self, hx⟩

/-- A traversal fails at a position if the step there does and all steps before it succeed. -/
theorem mapM_eq_error_iff {f : α → Except ε β} {xs : List α} {e : ε} :
    xs.mapM f = .error e ↔
      ∃ i : Nat, (xs[i]?).map f = some (.error e) ∧
        ∀ j < i, ∃ y, (xs[j]?).map f = some (.ok y) := by
  rw [mapM_eq_error_iff_firstFailure]
  constructor
  · rintro ⟨before, x, after, rfl, hbefore, hx⟩
    refine ⟨before.length, by simp [hx], ?_⟩
    intro j hj
    obtain ⟨y, hy⟩ := hbefore before[j] (List.getElem_mem hj)
    refine ⟨y, ?_⟩
    rw [List.getElem?_append_left hj, List.getElem?_eq_getElem hj, Option.map_some, hy]
  · rintro ⟨i, hi, hbefore⟩
    obtain ⟨x, hx, hfx⟩ := Option.map_eq_some_iff.1 hi
    obtain ⟨hlt, rfl⟩ := List.getElem?_eq_some_iff.1 hx
    refine ⟨xs.take i, xs[i], xs.drop (i + 1), by simp, ?_, hfx⟩
    intro z hz
    obtain ⟨j, hj, rfl⟩ := List.mem_take_iff_getElem.1 hz
    obtain ⟨y, hy⟩ := hbefore j (by omega)
    rw [List.getElem?_eq_getElem (by omega), Option.map_some] at hy
    exact ⟨y, Option.some.inj hy⟩

theorem firstFailure_append_iff {f : α → Except ε β} {xs ys : List α} {e : ε} :
    FirstFailure f (xs ++ ys) e ↔
      FirstFailure f xs e ∨ (∀ x ∈ xs, ∃ b, f x = .ok b) ∧ FirstFailure f ys e := by
  induction xs with
  | nil => simp [not_firstFailure_nil]
  | cons x rest ih =>
    rw [List.cons_append, firstFailure_cons_iff, firstFailure_cons_iff, ih, List.forall_mem_cons,
      and_or_left, ← or_assoc, and_assoc]

theorem firstFailure_map_iff {g : γ → α} {f : α → Except ε β} {xs : List γ} {e : ε} :
    FirstFailure f (xs.map g) e ↔ FirstFailure (fun x => f (g x)) xs e := by
  induction xs with
  | nil => simp [not_firstFailure_nil]
  | cons x rest ih => rw [List.map_cons, firstFailure_cons_iff, firstFailure_cons_iff, ih]

/-- What is made of the results has no influence on the first failure. -/
theorem firstFailure_fmap_iff {g : α → β → γ} {f : α → Except ε β} {xs : List α} {e : ε} :
    FirstFailure (fun x => g x <$> f x) xs e ↔ FirstFailure f xs e := by
  induction xs with
  | nil => simp [not_firstFailure_nil]
  | cons x rest ih =>
    rw [firstFailure_cons_iff, firstFailure_cons_iff, ih]
    cases f x <;> simp

/-- There is a first failure if there is any. -/
theorem exists_firstFailure_iff {f : α → Except ε β} {xs : List α} :
    (∃ e, FirstFailure f xs e) ↔ ∃ x ∈ xs, ∃ e, f x = .error e := by
  induction xs with
  | nil => simp [not_firstFailure_nil]
  | cons x rest ih =>
    simp only [firstFailure_cons_iff, List.mem_cons, exists_eq_or_imp, ← ih]
    cases f x <;> simp

theorem forall_ok_iff_forall_not_firstFailure {f : α → Except ε β} {xs : List α} :
    (∀ x ∈ xs, ∃ b, f x = .ok b) ↔ ∀ e, ¬ FirstFailure f xs e := by
  rw [← not_exists, exists_firstFailure_iff, not_exists]
  refine forall_congr' fun x => ?_
  cases f x <;> simp

/-- A traversal succeeds if each of its steps does. -/
theorem exists_mapM_eq_ok_iff {f : α → Except ε β} {xs : List α} :
    (∃ ys, xs.mapM f = .ok ys) ↔ ∀ x ∈ xs, ∃ y, f x = .ok y := by
  simp only [forall_ok_iff_forall_not_firstFailure, ← mapM_eq_error_iff_firstFailure]
  cases xs.mapM f <;> simp

/-- Where each calculation fails as a list of smaller ones does, the first failure of the whole is
the first of all the smaller ones. -/
theorem firstFailure_flatMap_iff {f : α → Except ε β} {whole : γ → Except ε δ}
    {parts : γ → List α} (h : ∀ x e, whole x = .error e ↔ FirstFailure f (parts x) e)
    {xs : List γ} {e : ε} : FirstFailure f (xs.flatMap parts) e ↔ FirstFailure whole xs e := by
  induction xs with
  | nil => simp [not_firstFailure_nil]
  | cons x rest ih =>
    have hok : (∀ part ∈ parts x, ∃ b, f part = .ok b) ↔ ∃ d, whole x = .ok d := by
      simp only [forall_ok_iff_forall_not_firstFailure, ← h]
      cases whole x <;> simp
    rw [List.flatMap_cons, firstFailure_append_iff, firstFailure_cons_iff, h, hok, ih]

theorem mapM_congr {f g : α → Except ε β} {xs : List α} (h : ∀ x ∈ xs, f x = g x) :
    xs.mapM f = xs.mapM g := by
  induction xs with
  | nil => rfl
  | cons x rest ih =>
    rw [List.mapM_cons, List.mapM_cons, h x List.mem_cons_self,
      ih fun z hz => h z (List.mem_cons_of_mem x hz)]

/-- Going through numbered elements with a function of the element alone is numbering the results
of going through the elements. -/
theorem mapM_mapIdx {κ : Type} (pair : Nat → α → γ) (f : α → Except ε β) (step : γ → Except ε κ)
    (number : Nat → β → κ) (h : ∀ i a, step (pair i a) = number i <$> f a) (xs : List α) :
    (xs.mapIdx pair).mapM step = (fun ys => ys.mapIdx number) <$> xs.mapM f := by
  induction xs generalizing pair number with
  | nil => rfl
  | cons x rest ih =>
    -- the rest is numbered from one on
    have hrest := ih (fun i => pair (i + 1)) (fun i => number (i + 1)) fun i a => h (i + 1) a
    rw [List.mapIdx_cons, List.mapM_cons, List.mapM_cons, h, hrest]
    cases f x with
    | error e => rfl
    | ok y => cases rest.mapM f <;> simp

end Retrieval
