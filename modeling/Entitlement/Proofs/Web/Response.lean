import Entitlement.Proofs.Json.Strict
import Entitlement.Proofs.License.Stored
import Entitlement.Web.Http

/-! # What a response carries

A JSON body is written if the value is strict, and the response fails otherwise
(`HttpResponse.json_cases`). The members that a response keeps back are dropped at every level of a
value (`encodableMembers_eq`); what is left is nested no deeper (`fits_encodable`) and its integers
can still be written (`isWritable_encodable`). -/

namespace Entitlement

namespace Web

open Json

/-! ### Members that are kept back -/

/-- The name would name the inner state of a record. -/
def isInner (name : Text) : Bool := (Text.dropPrefix? "_sa" name).isSome

theorem encodableItems_eq (items : List Json) : encodableItems items = items.map encodable := by
  induction items with
  | nil => rfl
  | cons x items ih => rw [encodableItems, ih, List.map_cons]

theorem encodableMembers_eq (members : Members) : encodableMembers members =
    (members.filter fun m => !isInner m.1).map fun m => (m.1, encodable m.2) := by
  induction members with
  | nil => rfl
  | cons m members ih =>
    obtain ⟨name, x⟩ := m
    rw [encodableMembers, ih, List.filter_cons]
    unfold isInner
    cases (Text.dropPrefix? "_sa" name).isSome <;> rfl

theorem mem_encodableMembers {members : Members} {m : Text × Json}
    (h : m ∈ encodableMembers members) : ∃ x, (m.1, x) ∈ members ∧ m.2 = encodable x := by
  rw [encodableMembers_eq] at h
  obtain ⟨n, hn, rfl⟩ := List.mem_map.mp h
  exact ⟨n.2, List.mem_of_mem_filter hn, rfl⟩

theorem fits_encodable {depth : Nat} {v : Json} (h : v.Fits depth) : (encodable v).Fits depth := by
  induction h with
  | @scalar depth v hv =>
    cases v with
    | array items => cases hv
    | object members => cases hv
    | _ => exact .scalar hv
  | @array depth items _ ih =>
    rw [encodable, encodableItems_eq]
    refine .array fun y hy => ?_
    obtain ⟨x, hx, rfl⟩ := List.mem_map.mp hy
    exact ih x hx
  | @object depth members distinct _ ih =>
    rw [encodable]
    refine .object ?_ fun m hm => ?_
    · rw [encodableMembers_eq, Members.Distinct, List.map_map]
      exact distinct.sublist (List.filter_sublist.map _)
    · obtain ⟨x, hx, he⟩ := mem_encodableMembers hm
      rw [he]
      exact ih _ hx

theorem isWritable_encodable {depth : Nat} {v : Json} (fits : v.Fits depth)
    (h : v.isWritable = true) : (encodable v).isWritable = true := by
  induction fits with
  | @scalar depth v hv =>
    cases v with
    | array items => cases hv
    | object members => cases hv
    | _ => exact h
  | @array depth items _ ih =>
    rw [encodable, encodableItems_eq, isWritable, itemsWritable_iff]
    intro y hy
    obtain ⟨x, hx, rfl⟩ := List.mem_map.mp hy
    exact ih x hx (itemsWritable_iff.mp h x hx)
  | @object depth members _ _ ih =>
    rw [encodable, isWritable, membersWritable_iff]
    intro m hm
    obtain ⟨x, hx, he⟩ := mem_encodableMembers hm
    rw [he]
    exact ih _ hx (membersWritable_iff.mp h _ hx)

/-! ### Responses -/

/-- The name of every member stands in the text of an object. -/
theorem name_infix_writeMembers (style : Style) {m : Text × Json} {members : Members}
    (h : m ∈ members) (separator : Text) :
    style.string m.1 <:+: writeMembers style separator members := by
  induction members generalizing separator with
  | nil => cases h
  | cons first rest ih =>
    obtain ⟨name, x⟩ := first
    rw [writeMembers]
    rcases List.mem_cons.mp h with rfl | h
    · exact ⟨separator, _, List.append_assoc ..⟩
    · have hrest := ih h style.itemSeparator
      rw [← List.append_assoc, ← List.append_assoc, ← List.append_assoc]
      exact hrest.trans (List.suffix_append _ _).isInfix

namespace HttpResponse

/-- **A JSON body is written** if the value is strict, and the response fails otherwise. -/
theorem json_cases (status : Int) (v : Json) :
    (v.isStrict = true ∧
      HttpResponse.json status v = .ok ⟨status, some jsonType, v.write .response⟩) ∨
    (v.isStrict = false ∧ ∃ kind message,
      HttpResponse.json status v = .error (.failure kind message)) := by
  unfold HttpResponse.json render
  dsimp only
  cases hfinite : v.isFinite with
  | false =>
    refine .inr ⟨?_, _, _, rfl⟩
    rw [Bool.eq_false_iff, ne_eq, isStrict_iff, hfinite]
    exact fun h => absurd h.1 Bool.false_ne_true
  | true =>
    rw [if_neg (by simp)]
    cases hobstacle : (v.write .response).utf8Obstacle? with
    | none =>
      exact .inl ⟨(isStrict_iff v).mpr ⟨hfinite, Text.utf8Obstacle?_eq_none_iff.mp hobstacle⟩, rfl⟩
    | some message =>
      refine .inr ⟨?_, _, _, rfl⟩
      rw [Bool.eq_false_iff, ne_eq, isStrict_iff, ← Text.utf8Obstacle?_eq_none_iff, hobstacle]
      exact fun h => nomatch h.2

theorem dictionary_ofMembers (status : Int) (members : Members) :
    HttpResponse.dictionary status (.ofMembers members) =
      HttpResponse.json status (encodable (.object members)) := by
  have hnames : (Dictionary.ofMembers members).all (fun e => e.1.isFinite) = true := by
    rw [List.all_eq_true]
    intro e he
    obtain ⟨m, -, rfl⟩ := List.mem_map.mp he
    rfl
  unfold HttpResponse.dictionary
  rw [if_pos hnames, Dictionary.json_ofMembers]

end HttpResponse

end Web

end Entitlement
