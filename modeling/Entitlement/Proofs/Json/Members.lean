import Entitlement.Json.Basic
import Mathlib.Data.List.Nodup

/-! # Members of objects

What is found under a name after a member was put in front, set or dropped. Setting and dropping
members keep their names distinct. -/

namespace Entitlement

namespace Members

theorem get?_cons (name other : Text) (value : Json) (members : Members) :
    get? ((name, value) :: members) other =
      if name = other then some value else get? members other := by
  unfold get?
  rw [List.lookup_cons]
  by_cases h : name = other
  · rw [if_pos h, h, beq_self_eq_true]
  · rw [if_neg h, beq_eq_false_iff_ne.mpr (Ne.symm h)]

theorem mem_of_get? {members : Members} {name : Text} {value : Json}
    (h : get? members name = some value) : (name, value) ∈ members := by
  induction members with
  | nil => cases h
  | cons m members ih =>
    obtain ⟨n, v⟩ := m
    rw [get?_cons] at h
    split at h
    · next hn =>
      cases h
      simp [hn]
    · exact List.mem_cons_of_mem _ (ih h)

theorem get?_insert (members : Members) (name other : Text) (value : Json) :
    get? (insert members name value) other =
      if name = other then some value else get? members other := by
  induction members with
  | nil => exact get?_cons name other value []
  | cons m members ih =>
    obtain ⟨n, v⟩ := m
    unfold insert
    by_cases hn : n = name
    · rw [if_pos hn, get?_cons, get?_cons, hn]
      split <;> rfl
    · rw [if_neg hn, get?_cons, get?_cons, ih]
      by_cases h : name = other
      · rw [if_pos h, if_neg (h ▸ hn)]
        rw [if_pos h]
      · rw [if_neg h, if_neg h]

theorem mem_insert {members : Members} {name : Text} {value : Json} {m : Text × Json}
    (h : m ∈ insert members name value) : m = (name, value) ∨ m ∈ members := by
  induction members with
  | nil => exact .inl (by simpa [insert] using h)
  | cons other members ih =>
    unfold insert at h
    split at h
    · rcases List.mem_cons.mp h with h | h
      · exact .inl h
      · exact .inr (by simp [h])
    · rcases List.mem_cons.mp h with h | h
      · exact .inr (by simp [h])
      · exact (ih h).imp_right fun h => by simp [h]

/-- Members of other names in front are passed over. -/
theorem insert_append {before : Members} {name : Text} (h : name ∉ before.map Prod.fst)
    (members : Members) (v : Json) :
    insert (before ++ members) name v = before ++ insert members name v := by
  induction before with
  | nil => rfl
  | cons m before ih =>
    obtain ⟨n, w⟩ := m
    rw [List.map_cons, List.mem_cons, not_or] at h
    rw [List.cons_append, insert, if_neg (Ne.symm h.1), ih h.2]
    rfl

theorem insert_of_notMem {members : Members} {name : Text} (h : name ∉ members.map Prod.fst)
    (v : Json) : insert members name v = members ++ [(name, v)] := by
  have happend := insert_append h [] v
  rw [List.append_nil] at happend
  exact happend

/-- No name occurs twice. -/
def Distinct (members : Members) : Prop := (members.map Prod.fst).Nodup

instance (members : Members) : Decidable (Distinct members) :=
  inferInstanceAs (Decidable (List.Nodup _))

theorem Distinct.nil : Distinct [] := List.nodup_nil

theorem Distinct.insert {members : Members} (h : Distinct members) (name : Text) (value : Json) :
    Distinct (Members.insert members name value) := by
  unfold Distinct at *
  induction members with
  | nil => simp [Members.insert]
  | cons m members ih =>
    obtain ⟨n, v⟩ := m
    rw [List.map_cons, List.nodup_cons] at h
    unfold Members.insert
    split
    · next hn =>
      subst hn
      exact List.nodup_cons.mpr h
    · next hn =>
      rw [List.map_cons, List.nodup_cons]
      refine ⟨fun hmem => ?_, ih h.2⟩
      obtain ⟨m, hm, he⟩ := List.mem_map.mp hmem
      rcases mem_insert hm with rfl | hm
      · exact hn he.symm
      · exact h.1 (he ▸ List.mem_map_of_mem hm)

theorem Distinct.erase {members : Members} (h : Distinct members) (name : Text) :
    Distinct (Members.erase members name) :=
  h.sublist (List.filter_sublist.map _)

theorem get?_filter (keep : Text → Bool) (members : Members) (name : Text) :
    get? (members.filter fun m => keep m.1) name = if keep name then get? members name else none := by
  induction members with
  | nil => exact (ite_self none).symm
  | cons m members ih =>
    obtain ⟨n, v⟩ := m
    rw [List.filter_cons]
    by_cases hn : n = name
    · subst hn
      cases hk : keep n with
      | false => rw [if_neg Bool.false_ne_true, ih, hk]; rfl
      | true => rw [if_pos rfl, get?_cons, if_pos rfl, get?_cons, if_pos rfl, if_pos rfl]
    · split <;> simp only [get?_cons, if_neg hn, ih]

theorem get?_eq_none_iff {members : Members} {name : Text} :
    get? members name = none ↔ name ∉ members.map Prod.fst := by
  induction members with
  | nil => exact iff_of_true rfl List.not_mem_nil
  | cons m members ih =>
    obtain ⟨n, v⟩ := m
    rw [get?_cons, List.map_cons, List.mem_cons, not_or, ← ih]
    by_cases hn : n = name
    · simp [hn]
    · simp [hn, Ne.symm hn]

theorem get?_erase (members : Members) (name other : Text) :
    get? (erase members name) other = if name = other then none else get? members other := by
  refine (get?_filter (fun n => n ≠ name) members other).trans ?_
  by_cases h : name = other
  · simp [h]
  · simp [h, Ne.symm h]

theorem erase_cons (n name : Text) (v : Json) (members : Members) : erase ((n, v) :: members) name =
    if n = name then erase members name else (n, v) :: erase members name := by
  unfold erase
  rw [List.filter_cons]
  by_cases h : n = name <;> simp [h]

theorem erase_insert (members : Members) {name other : Text} (h : name ≠ other) (value : Json) :
    erase (insert members name value) other = insert (erase members other) name value := by
  induction members with
  | nil => exact (erase_cons name other value []).trans (if_neg h)
  | cons m members ih =>
    obtain ⟨n, v⟩ := m
    by_cases hn : n = name
    · rw [insert, if_pos hn, erase_cons, if_neg h, hn, erase_cons, if_neg h, insert, if_pos rfl]
    · rw [insert, if_neg hn, erase_cons, erase_cons, ih]
      by_cases ho : n = other
      · rw [if_pos ho, if_pos ho]
      · rw [if_neg ho, if_neg ho, insert, if_neg hn]

theorem Distinct.insertAll {members : Members} (h : Distinct members) (more : Members) :
    Distinct (Members.insertAll members more) := by
  induction more generalizing members with
  | nil => exact h
  | cons m more ih => exact ih (h.insert m.1 m.2)

theorem mem_insertAll {members more : Members} {m : Text × Json}
    (h : m ∈ insertAll members more) : m ∈ members ∨ m ∈ more := by
  induction more generalizing members with
  | nil => exact .inl h
  | cons other more ih =>
    rcases ih h with h | h
    · rcases mem_insert h with rfl | h
      · exact .inr List.mem_cons_self
      · exact .inl h
    · exact .inr (List.mem_cons_of_mem _ h)

theorem get?_append (members more : Members) (name : Text) :
    get? (members ++ more) name = (get? members name).or (get? more name) := List.lookup_append

/-- The member in front stays there, with the last value that is set. -/
theorem insertAll_cons (name : Text) (value : Json) (members more : Members) :
    insertAll ((name, value) :: members) more =
      (name, (get? more.reverse name).getD value) :: insertAll members (erase more name) := by
  induction more generalizing value members with
  | nil => rfl
  | cons m more ih =>
    obtain ⟨n, v⟩ := m
    rw [List.reverse_cons, get?_append, get?_cons, erase_cons]
    by_cases h : n = name
    · subst h
      have hset : insert ((n, value) :: members) n v = (n, v) :: members := if_pos rfl
      have hlast : ((get? more.reverse n).or (some v)).getD value =
          (get? more.reverse n).getD v := by
        cases get? more.reverse n <;> rfl
      rw [if_pos rfl, if_pos rfl, hlast, ← ih, ← hset]
      rfl
    · have hset : insert ((name, value) :: members) n v = (name, value) :: insert members n v :=
        if_neg (Ne.symm h)
      have hlast : (get? more.reverse name).or (get? [] name) = get? more.reverse name :=
        Option.or_none
      rw [if_neg h, if_neg h, hlast]
      change insertAll (insert ((name, value) :: members) n v) more = _
      rw [hset, ih]
      rfl

end Members

end Entitlement
