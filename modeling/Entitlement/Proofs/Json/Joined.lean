import Entitlement.Proofs.Json.Depth
import Mathlib.Data.List.Chain

/-! # Values that are read back as they are

A text is *joined* if no high surrogate stands right before a low one, and a value is joined if all
its strings and names are. Joining the pairs of a text gives a joined text
(`Text.joined_joinPairs`), and leaves a joined one as it is (`Text.joinPairs_of_joined`). So what is
read back is joined, whatever was written (`Json.isJoined_reread`), and a joined value whose objects
have distinct names is read back as it is (`Json.reread_of_joined`): the values that survive the
store are the joined ones. A response leaves code points as they are, so it is read as the very
value that it carries (`Json.decode_response`). -/

namespace Entitlement

open CodePoint

/-! ### Texts -/

namespace Text

/-- No high surrogate stands right before a low one. -/
def Joined (t : Text) : Prop :=
  t.IsChain fun c d => ¬ (c.isHighSurrogate = true ∧ d.isLowSurrogate = true)

instance : DecidablePred Joined := fun t => inferInstanceAs (Decidable (t.IsChain _))

theorem joined_cons_cons {c d : CodePoint} {t : Text} :
    Joined (c :: d :: t) ↔
      ¬ (c.isHighSurrogate = true ∧ d.isLowSurrogate = true) ∧ Joined (d :: t) :=
  List.isChain_cons_cons

theorem joinPairs_of_joined {t : Text} (h : Joined t) : joinPairs t = t := by
  induction t using List.twoStepInduction with
  | nil => rfl
  | singleton c => rfl
  | cons_cons c d t _ ih =>
    obtain ⟨hpair, ht⟩ := joined_cons_cons.mp h
    have hno : (c.isHighSurrogate && d.isLowSurrogate) = false := by
      rw [Bool.eq_false_iff]
      intro hand
      exact hpair (Bool.and_eq_true_iff.mp hand)
    rw [joinPairs, if_neg (by rw [hno]; exact Bool.false_ne_true), ih d ht]

theorem ofPair_noHalf {high low : CodePoint} :
    (ofPair high low).isLowSurrogate = false ∧ (ofPair high low).isHighSurrogate = false := by
  refine Json.Reader.noHalf_of_noSurrogate (.inr ?_)
  rw [ofPair, val_ofNat (by omega)]
  omega

/-- The first point of a text is a low surrogate after joining only if it was one before. -/
theorem head_joinPairs (d : CodePoint) (t : Text) :
    ∃ c rest, joinPairs (d :: t) = c :: rest ∧
      (c.isLowSurrogate = true → d.isLowSurrogate = true) := by
  cases t with
  | nil => exact ⟨d, [], rfl, id⟩
  | cons e t =>
    rw [joinPairs]
    split
    · refine ⟨_, _, rfl, fun h => ?_⟩
      rw [ofPair_noHalf.1] at h
      cases h
    · exact ⟨_, _, rfl, id⟩

theorem joined_cons {c : CodePoint} (h : c.isHighSurrogate = false) {t : Text} (ht : Joined t) :
    Joined (c :: t) := by
  cases t with
  | nil => exact .singleton c
  | cons d t =>
    refine joined_cons_cons.mpr ⟨?_, ht⟩
    rintro ⟨hc, -⟩
    rw [h] at hc
    cases hc

theorem joined_joinPairs (t : Text) : Joined (joinPairs t) := by
  induction t using List.twoStepInduction with
  | nil => exact .nil
  | singleton c => exact .singleton c
  | cons_cons c d t iht ih =>
    rw [joinPairs]
    split
    · exact joined_cons ofPair_noHalf.2 iht
    · next hpair =>
      obtain ⟨e, rest, he, hlow⟩ := head_joinPairs d t
      have hjoined := ih d
      rw [he] at hjoined ⊢
      refine joined_cons_cons.mpr ⟨?_, hjoined⟩
      rintro ⟨hc, hel⟩
      exact hpair (Bool.and_eq_true_iff.mpr ⟨hc, hlow hel⟩)

end Text

/-! ### Values -/

namespace Json

mutual

/-- Whether all strings and names in the value are joined. -/
def isJoined : Json → Bool
  | .string s => s.Joined
  | .array items => itemsJoined items
  | .object members => membersJoined members
  | _ => true

def itemsJoined : List Json → Bool
  | [] => true
  | x :: rest => isJoined x && itemsJoined rest

def membersJoined : List (Text × Json) → Bool
  | [] => true
  | (name, x) :: rest => Text.Joined name && isJoined x && membersJoined rest

end

theorem itemsJoined_iff {items : List Json} :
    itemsJoined items = true ↔ ∀ x ∈ items, x.isJoined = true := by
  induction items with
  | nil => simp [itemsJoined]
  | cons x items ih => simp [itemsJoined, ih]

theorem membersJoined_iff {members : Members} :
    membersJoined members = true ↔ ∀ m ∈ members, m.1.Joined ∧ m.2.isJoined = true := by
  induction members with
  | nil => simp [membersJoined]
  | cons m members ih => simp [membersJoined, ih, and_assoc]

theorem membersJoined_insert {members : Members} (h : membersJoined members = true) {name : Text}
    (hname : name.Joined) {v : Json} (hv : v.isJoined = true) :
    membersJoined (Members.insert members name v) = true := by
  rw [membersJoined_iff] at h ⊢
  intro m hm
  rcases Members.mem_insert hm with rfl | hm
  · exact ⟨hname, hv⟩
  · exact h m hm

mutual

/-- **What is read back is joined.** -/
theorem isJoined_reread (v : Json) : (v.reread .stored).isJoined = true := by
  cases v with
  | string s => exact decide_eq_true (Text.joined_joinPairs s)
  | array items => exact itemsJoined_reread items
  | object members => exact membersJoined_reread members rfl
  | _ => rfl

theorem itemsJoined_reread (items : List Json) :
    itemsJoined (rereadItems .stored items) = true := by
  cases items with
  | nil => rfl
  | cons x items =>
    rw [rereadItems, itemsJoined, isJoined_reread x, itemsJoined_reread items]
    rfl

theorem membersJoined_reread (members : Members) {read : Members}
    (h : membersJoined read = true) : membersJoined (rereadMembers .stored read members) = true := by
  match members with
  | [] => exact h
  | (name, x) :: rest =>
    rw [rereadMembers]
    exact membersJoined_reread rest
      (membersJoined_insert h (Text.joined_joinPairs name) (isJoined_reread x))

end

theorem Style.reread_eq_self {style : Style} {s : Text} (h : style.asciiOnly = true → s.Joined) :
    style.reread s = s := by
  unfold Style.reread
  split
  · next ha => exact Text.joinPairs_of_joined (h ha)
  · rfl

theorem rereadMembers_of_names {style : Style} {members read : Members}
    (distinct : Members.Distinct (read ++ members))
    (h : style.asciiOnly = true → ∀ m ∈ members, m.1.Joined) :
    rereadMembers style read members = read ++ members.map fun m => (m.1, m.2.reread style) := by
  induction members generalizing read with
  | nil => exact (List.append_nil read).symm
  | cons m members ih =>
    obtain ⟨name, x⟩ := m
    have hname : style.reread name = name :=
      Style.reread_eq_self fun ha => h ha _ (List.mem_cons_self ..)
    have hfresh : name ∉ read.map Prod.fst := by
      intro hmem
      unfold Members.Distinct at distinct
      rw [List.map_append, List.nodup_append] at distinct
      exact distinct.2.2 name hmem name (by simp) rfl
    have distinct' : Members.Distinct ((read ++ [(name, x.reread style)]) ++ members) := by
      unfold Members.Distinct at distinct ⊢
      simpa using distinct
    rw [rereadMembers, hname, Members.insert_of_notMem hfresh,
      ih distinct' fun ha m hm => h ha m (List.mem_cons_of_mem _ hm)]
    simp

theorem rereadItems_eq_map (style : Style) (items : List Json) :
    rereadItems style items = items.map (reread style) := by
  induction items with
  | nil => rfl
  | cons x items ih => rw [rereadItems, ih, List.map_cons]

/-- **A value is read back as it is**, if it is joined wherever all but ASCII is escaped. -/
theorem reread_eq_self {style : Style} {depth : Nat} {v : Json} (fits : v.Fits depth)
    (h : style.asciiOnly = true → v.isJoined = true) : v.reread style = v := by
  induction fits with
  | @scalar _ v hv =>
    cases v with
    | string s => exact congrArg string (Style.reread_eq_self fun ha => of_decide_eq_true (h ha))
    | array items => cases hv
    | object members => cases hv
    | _ => rfl
  | @array _ items _ ih =>
    rw [reread, rereadItems_eq_map]
    congr 1
    exact (List.map_congr_left fun x hx => ih x hx fun ha => itemsJoined_iff.mp (h ha) x hx).trans
      (List.map_id items)
  | @object _ members distinct _ ih =>
    have hread : rereadMembers style [] members = _ :=
      rereadMembers_of_names distinct fun ha m hm => (membersJoined_iff.mp (h ha) m hm).1
    rw [reread, hread, List.nil_append]
    congr 1
    refine (List.map_congr_left fun m hm => ?_).trans (List.map_id members)
    rw [ih m hm fun ha => (membersJoined_iff.mp (h ha) m hm).2]
    rfl

theorem reread_of_joined {depth : Nat} {v : Json} (fits : v.Fits depth)
    (h : v.isJoined = true) : v.reread .stored = v := reread_eq_self fits fun _ => h

/-- **The text of a response is decoded to the value that it carries.** -/
theorem decode_response {v : Json} (fits : v.Fits Reader.depthLimit) (hw : v.isWritable = true) :
    decode (v.write .response) = .ok v := by
  have hplain : Style.response.asciiOnly = true → v.isJoined = true := fun ha => by cases ha
  unfold decode
  rw [read_write Style.response_readable fits.nesting_le hw, reread_eq_self fits hplain]
  rfl

end Json

end Entitlement
