import Mathlib.Data.List.Forall2

/-! # Outcomes of a list, one after another

Going through a list with steps that may fail either gives the values of all steps, in the order of
the list (`Outcome.mapM_eq_ok_iff`), or the fault of the first step that fails, whatever stands
behind it (`Outcome.mapM_eq_error_iff`). -/

namespace Entitlement

namespace Outcome

variable {ε α β : Type} {f : α → Except ε β}

theorem mapM_cons_ok {a : α} {b : β} (h : f a = .ok b) (items : List α) :
    (a :: items).mapM f = (items.mapM f).map (b :: ·) := by
  rw [List.mapM_cons, h]
  cases items.mapM f <;> rfl

theorem mapM_cons_error {a : α} {fault : ε} (h : f a = .error fault) (items : List α) :
    (a :: items).mapM f = .error fault := by
  rw [List.mapM_cons, h]
  rfl

theorem map_eq_ok_iff {γ : Type} {g : β → γ} {e : Except ε β} {c : γ} :
    e.map g = .ok c ↔ ∃ b, e = .ok b ∧ g b = c := by
  cases e with
  | error fault => simp [Except.map]
  | ok b => simp [Except.map]

theorem map_eq_error_iff {γ : Type} {g : β → γ} {e : Except ε β} {fault : ε} :
    e.map g = .error fault ↔ e = .error fault := by
  cases e <;> simp [Except.map]

theorem eq_ok_of_toOption {e : Except ε α} {a : α} (h : e.toOption = some a) : e = .ok a := by
  cases e with
  | error fault => cases h
  | ok b => exact congrArg Except.ok (Option.some.inj h)

theorem bind_eq_ok_iff {γ : Type} {e : Except ε β} {next : β → Except ε γ} {c : γ} :
    e >>= next = .ok c ↔ ∃ b, e = .ok b ∧ next b = .ok c := by
  cases e with
  | error fault => simp [bind, Except.bind]
  | ok b => simp [bind, Except.bind]

theorem bind_eq_error_iff {γ : Type} {e : Except ε β} {next : β → Except ε γ} {fault : ε} :
    e >>= next = .error fault ↔ e = .error fault ∨ ∃ b, e = .ok b ∧ next b = .error fault := by
  cases e with
  | error first => simp [bind, Except.bind]
  | ok b => simp [bind, Except.bind]

/-- **All steps give a value**, each the one at its place. -/
theorem mapM_eq_ok_iff {items : List α} {results : List β} :
    items.mapM f = .ok results ↔ List.Forall₂ (fun a b => f a = .ok b) items results := by
  induction items generalizing results with
  | nil => cases results <;> simp [pure, Except.pure]
  | cons a items ih =>
    cases hf : f a with
    | error fault =>
      rw [mapM_cons_error hf]
      refine ⟨nofun, fun h => ?_⟩
      cases h with
      | cons hb _ =>
        rw [hf] at hb
        cases hb
    | ok b =>
      rw [mapM_cons_ok hf, map_eq_ok_iff]
      constructor
      · rintro ⟨rest, hrest, rfl⟩
        exact .cons hf (ih.mp hrest)
      · intro h
        cases h with
        | @cons _ b' _ rest hb hrest =>
          have hbb : b = b' := Except.ok.inj (hf.symm.trans hb)
          exact ⟨rest, ih.mpr hrest, by rw [hbb]⟩

/-- **The first step that fails gives the fault.** -/
theorem mapM_eq_error_iff {items : List α} {fault : ε} :
    items.mapM f = .error fault ↔ ∃ earlier a later, items = earlier ++ a :: later ∧
      (∀ x ∈ earlier, ∃ b, f x = .ok b) ∧ f a = .error fault := by
  induction items with
  | nil =>
    refine ⟨nofun, ?_⟩
    rintro ⟨earlier, a, later, h, -, -⟩
    cases earlier <;> cases h
  | cons a items ih =>
    cases hf : f a with
    | error first =>
      rw [mapM_cons_error hf]
      constructor
      · intro h
        exact ⟨[], a, items, rfl, nofun, hf.trans (by rw [Except.error.inj h])⟩
      · rintro ⟨earlier, a', later, hsplit, hgood, ha'⟩
        cases earlier with
        | nil =>
          obtain ⟨rfl, -⟩ := List.cons.inj hsplit
          rw [hf] at ha'
          rw [Except.error.inj ha']
        | cons b earlier =>
          obtain ⟨rfl, -⟩ := List.cons.inj hsplit
          obtain ⟨value, hvalue⟩ := hgood a (List.mem_cons_self ..)
          rw [hf] at hvalue
          cases hvalue
    | ok b =>
      rw [mapM_cons_ok hf, map_eq_error_iff, ih]
      constructor
      · rintro ⟨earlier, a', later, rfl, hgood, ha'⟩
        refine ⟨a :: earlier, a', later, rfl, ?_, ha'⟩
        intro x hx
        rcases List.mem_cons.mp hx with rfl | hx
        · exact ⟨b, hf⟩
        · exact hgood x hx
      · rintro ⟨earlier, a', later, hsplit, hgood, ha'⟩
        cases earlier with
        | nil =>
          obtain ⟨rfl, -⟩ := List.cons.inj hsplit
          rw [hf] at ha'
          cases ha'
        | cons c earlier =>
          obtain ⟨rfl, hrest⟩ := List.cons.inj hsplit
          exact ⟨earlier, a', later, hrest, fun x hx => hgood x (List.mem_cons_of_mem _ hx), ha'⟩

theorem exists_of_mem {R : α → β → Prop} {items : List α} {results : List β}
    (h : List.Forall₂ R items results) {a : α} (ha : a ∈ items) : ∃ b ∈ results, R a b := by
  induction h with
  | nil => cases ha
  | @cons a' b items results hab _ ih =>
    rcases List.mem_cons.mp ha with rfl | ha
    · exact ⟨b, by simp, hab⟩
    · obtain ⟨b', hb', hR⟩ := ih ha
      exact ⟨b', by simp [hb'], hR⟩

theorem exists_of_mem_results {R : α → β → Prop} {items : List α} {results : List β}
    (h : List.Forall₂ R items results) {b : β} (hb : b ∈ results) : ∃ a ∈ items, R a b :=
  exists_of_mem h.flip hb

theorem mapM_fails_iff {items : List α} :
    (∃ fault, items.mapM f = .error fault) ↔ ∃ a ∈ items, ∃ fault, f a = .error fault := by
  constructor
  · rintro ⟨fault, h⟩
    obtain ⟨earlier, a, later, rfl, -, ha⟩ := mapM_eq_error_iff.mp h
    exact ⟨a, by simp, fault, ha⟩
  · rintro ⟨a, ha, fault, hf⟩
    cases h : items.mapM f with
    | error first => exact ⟨first, rfl⟩
    | ok results =>
      obtain ⟨b, -, hb⟩ := exists_of_mem (mapM_eq_ok_iff.mp h) ha
      rw [hf] at hb
      cases hb

end Outcome

end Entitlement
