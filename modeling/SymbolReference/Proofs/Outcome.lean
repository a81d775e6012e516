namespace SymbolReference

variable {ε α β : Type}

theorem bind_eq_ok_iff {x : Except ε α} {f : α → Except ε β} {b : β} :
    (x >>= f) = .ok b ↔ ∃ a, x = .ok a ∧ f a = .ok b := by
  cases x with
  | error e =>
      constructor
      · intro h
        cases h
      · rintro ⟨a, h, -⟩
        cases h
  | ok a =>
      constructor
      · intro h
        exact ⟨a, rfl, h⟩
      · rintro ⟨c, hc, h⟩
        cases hc
        exact h

theorem pure_eq_ok_iff {a b : α} : (pure a : Except ε α) = .ok b ↔ b = a :=
  ⟨fun h => (Except.ok.inj h).symm, fun h => h ▸ rfl⟩

theorem exists_eq_ok_iff_isOk {x : Except ε α} : (∃ a, x = .ok a) ↔ x.isOk = true := by
  cases x with
  | ok a => exact ⟨fun _ => rfl, fun _ => ⟨a, rfl⟩⟩
  | error e =>
      constructor
      · rintro ⟨a, h⟩
        cases h
      · intro h
        cases h

theorem toOption_eq_some_iff {x : Except ε α} {a : α} : x.toOption = some a ↔ x = .ok a := by
  cases x with
  | error e => simp [Except.toOption]
  | ok b => simp [Except.toOption]

/-- Working through a list, when `f` succeeds on the members that satisfy `p` and gives what `g`
says. -/
theorem mapM_eq_ok_iff {f : α → Except ε β} {p : α → Prop} {g : α → β} {xs : List α}
    (h : ∀ x ∈ xs, ∀ y, f x = .ok y ↔ p x ∧ y = g x) (ys : List β) :
    xs.mapM f = .ok ys ↔ (∀ x ∈ xs, p x) ∧ ys = xs.map g := by
  induction xs generalizing ys with
  | nil => simp [pure_eq_ok_iff]
  | cons x xs ih =>
      have hxs := ih fun z hz => h z (List.mem_cons_of_mem x hz)
      simp only [List.mapM_cons, bind_eq_ok_iff, pure_eq_ok_iff, h x (by simp), hxs]
      constructor
      · rintro ⟨y, ⟨hx, rfl⟩, rest, ⟨hrest, rfl⟩, rfl⟩
        exact ⟨by simpa using ⟨hx, hrest⟩, rfl⟩
      · rintro ⟨hall, rfl⟩
        have hx : p x := hall x (by simp)
        have hrest : ∀ z ∈ xs, p z := fun z hz => hall z (List.mem_cons_of_mem x hz)
        exact ⟨g x, ⟨hx, rfl⟩, xs.map g, ⟨hrest, rfl⟩, rfl⟩

/-- Changing what is made of each member changes what is made of the list member by member. -/
theorem mapM_map_eq {γ : Type} (f : α → Except ε β) (g : β → γ) (xs : List α) :
    xs.mapM (fun x => (f x).map g) = (xs.mapM f).map (List.map g) := by
  induction xs with
  | nil => rfl
  | cons x xs ih =>
      rw [List.mapM_cons, List.mapM_cons, ih]
      cases f x with
      | error e => rfl
      | ok y =>
          cases xs.mapM f with
          | error e => rfl
          | ok ys => rfl

/-- Working through a list, when `f` succeeds on its members and `p` holds of the results. -/
theorem exists_mapM_eq_ok {f : α → Except ε β} {p : β → Prop} {xs : List α}
    (h : ∀ x ∈ xs, ∃ y, f x = .ok y ∧ p y) : ∃ ys, xs.mapM f = .ok ys ∧ ∀ y ∈ ys, p y := by
  induction xs with
  | nil => exact ⟨[], rfl, by simp⟩
  | cons x xs ih =>
      rw [List.forall_mem_cons] at h
      obtain ⟨y, hy, hp⟩ := h.1
      obtain ⟨ys, hys, hall⟩ := ih h.2
      refine ⟨y :: ys, ?_, List.forall_mem_cons.mpr ⟨hp, hall⟩⟩
      rw [List.mapM_cons, hy, hys]
      rfl

end SymbolReference
