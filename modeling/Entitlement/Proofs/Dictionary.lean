import Entitlement.Dictionary

/-! # Entries of a dictionary under texts

A text is the name of itself only, while a number can be named in several ways
(`Name.proper_eq_text`). So what stands under a text is found, set and dropped as among the members
of an object: setting a value puts it between the same entries, whatever the value is
(`Dictionary.exists_insert`), and changes what is found under that text only
(`Dictionary.get?_insert`). -/

namespace Entitlement

namespace Dictionary

theorem Name.proper_eq_text {n : Name} {t : Text} : n.proper = .text t ↔ n = .text t := by
  cases n with
  | text s => rfl
  | null => simp [proper]
  | bool b => simp [proper]
  | int i => simp [proper]
  | float x =>
    unfold proper
    dsimp only
    split <;> simp

variable {d : Dictionary} {name : Text} {value : Json}

theorem get?_cons (n : Name) (v : Json) (d : Dictionary) (name : Text) :
    get? ((n, v) :: d) name = if n = .text name then some v else get? d name := by
  unfold get?
  rw [List.lookup_cons]
  by_cases h : n = .text name
  · rw [if_pos h, h, beq_self_eq_true]
  · rw [if_neg h, beq_eq_false_iff_ne.mpr (Ne.symm h)]

theorem insert_cons (n : Name) (v : Json) (d : Dictionary) (name : Text) (value : Json) :
    insert ((n, v) :: d) (.text name) value =
      if n = .text name then (n, value) :: d else (n, v) :: d.insert (.text name) value := by
  have hproper : n.proper = (Name.text name).proper ↔ n = .text name := Name.proper_eq_text
  by_cases h : n = .text name
  · rw [insert, if_pos (hproper.mpr h), if_pos h]
  · rw [insert, if_neg (mt hproper.mp h), if_neg h]

/-- **Setting a value under a text** puts it between the same entries, whatever the value is. -/
theorem exists_insert (d : Dictionary) (name : Text) : ∃ before behind : Dictionary,
    (∀ e ∈ before, e.1 ≠ .text name) ∧
      ∀ value, d.insert (.text name) value = before ++ (.text name, value) :: behind := by
  induction d with
  | nil => exact ⟨[], [], fun e he => absurd he List.not_mem_nil, fun value => rfl⟩
  | cons e d ih =>
    obtain ⟨n, v⟩ := e
    by_cases hn : n = .text name
    · refine ⟨[], d, fun e he => absurd he List.not_mem_nil, fun value => ?_⟩
      rw [insert_cons, if_pos hn, hn]
      rfl
    · obtain ⟨before, behind, hbefore, hinsert⟩ := ih
      refine ⟨(n, v) :: before, behind, ?_, fun value => ?_⟩
      · intro e he
        rcases List.mem_cons.mp he with rfl | he
        · exact hn
        · exact hbefore e he
      · rw [insert_cons, if_neg hn, hinsert value]
        rfl

theorem get?_insert (d : Dictionary) (name other : Text) (value : Json) :
    get? (d.insert (.text name) value) other =
      if name = other then some value else d.get? other := by
  induction d with
  | nil => simp [insert, get?_cons]
  | cons e d ih =>
    obtain ⟨n, v⟩ := e
    rw [insert_cons]
    by_cases hn : n = .text name
    · rw [if_pos hn, get?_cons, get?_cons, hn]
      by_cases h : name = other <;> simp [h]
    · rw [if_neg hn, get?_cons, get?_cons, ih]
      by_cases h : name = other
      · rw [if_pos h, if_pos h, if_neg (h ▸ hn)]
      · rw [if_neg h, if_neg h]

theorem get?_erase (d : Dictionary) (name other : Text) :
    get? (d.erase name) other = if name = other then none else d.get? other := by
  induction d with
  | nil => exact (ite_self none).symm
  | cons e d ih =>
    obtain ⟨n, v⟩ := e
    unfold erase at ih ⊢
    rw [List.filter_cons]
    by_cases hn : n = .text name
    · rw [if_neg (by simp [hn]), ih, get?_cons, hn]
      by_cases h : name = other <;> simp [h]
    · rw [if_pos (by simp [hn]), get?_cons, get?_cons, ih]
      by_cases h : name = other
      · rw [if_pos h, if_pos h, if_neg (h ▸ hn)]
      · rw [if_neg h, if_neg h]

theorem erase_eq_self (h : d.get? name = none) : d.erase name = d := by
  refine List.filter_eq_self.mpr fun e he => decide_eq_true fun hname => ?_
  have hne := List.lookup_eq_none_iff.mp h e he
  rw [hname] at hne
  exact absurd hne (by simp)

theorem insert_eq_self (h : d.get? name = some value) : d.insert (.text name) value = d := by
  induction d with
  | nil => cases h
  | cons e d ih =>
    obtain ⟨n, v⟩ := e
    rw [get?_cons] at h
    rw [insert_cons]
    by_cases hn : n = .text name
    · rw [if_pos hn] at h
      rw [if_pos hn, Option.some.inj h]
    · rw [if_neg hn] at h
      rw [if_neg hn, ih h]

theorem get?_members (d : Dictionary) (name : Text) :
    Members.get? d.members name = d.get? name := by
  induction d with
  | nil => rfl
  | cons e d ih =>
    obtain ⟨n, v⟩ := e
    rw [get?_cons, ← ih]
    cases n with
    | text t =>
      change Members.get? ((t, v) :: members d) name = _
      unfold Members.get?
      rw [List.lookup_cons]
      by_cases h : t = name
      · rw [if_pos (congrArg Name.text h), h, beq_self_eq_true]
      · rw [if_neg (by simpa using h), beq_eq_false_iff_ne.mpr (Ne.symm h)]
    | _ => exact (if_neg (by simp)).symm

end Dictionary

end Entitlement
