import Entitlement.Proofs.Json.Scalar
import Entitlement.Proofs.Outcome

/-! # Entries of arrays and objects

The loops over items and over members are one loop over entries (`Reader.entries`), which differ in
how an entry is read and in the mark that closes (`Reader.array_eq`, `Reader.object_eq`). What the
loop reads is listed as the grammar says if every entry is (`Reader.enclosed_sound`); what is listed
is read, unless an entry is nested too deeply (`Reader.enclosed_complete`); and only an entry makes
it give up because of the nesting (`Reader.enclosed_deep`). -/

namespace Entitlement

namespace Json

/-! ### Blanks -/

namespace Grammar

theorem isBlank_iff {c : CodePoint} :
    Reader.isBlank c = true ↔ c = ' ' ∨ c = '\t' ∨ c = '\n' ∨ c = '\r' := by
  unfold Reader.isBlank
  simp only [Bool.or_eq_true, decide_eq_true_eq, or_assoc, Fin.ext_iff]
  exact Iff.rfl

theorem Blanks.append {s t : Text} (hs : Blanks s) (ht : Blanks t) : Blanks (s ++ t) := by
  intro c hc
  rcases List.mem_append.mp hc with hc | hc
  · exact hs c hc
  · exact ht c hc

variable {α : Type} {close : CodePoint} {Core : Text → α → Prop}

theorem Padded.core {t : Text} {x : α} (h : Core t x) : Padded Core t x := by
  have hpadded : Padded Core ([] ++ (t ++ [])) x := .intro nofun h nofun
  rwa [List.nil_append, List.append_nil] at hpadded

theorem Padded.behind_blanks {b t : Text} {x : α} (hb : Blanks b) (h : Padded Core t x) :
    Padded Core (b ++ t) x := by
  cases h with
  | intro hbefore hcore hbehind =>
    rw [← List.append_assoc]
    exact .intro (hb.append hbefore) hcore hbehind

theorem Listed.behind_blanks {b t : Text} {xs : List α} (hb : Blanks b)
    (h : Listed close Core t xs) : Listed close Core (b ++ t) xs := by
  cases h with
  | last h =>
    rw [← List.append_assoc]
    exact .last (h.behind_blanks hb)
  | cons first h =>
    rw [← List.append_assoc]
    exact .cons (first.behind_blanks hb) h

end Grammar

namespace Reader

open Grammar

theorem skipBlank_cons {c : CodePoint} (h : isBlank c = false) (t : Text) :
    skipBlank (c :: t) = c :: t := by
  simp [skipBlank, h]

theorem skipBlank_blanks {b : Text} (hb : Blanks b) (rest : Text) :
    skipBlank (b ++ rest) = skipBlank rest :=
  List.dropWhile_append_of_pos fun c hc => isBlank_iff.mpr (hb c hc)

theorem exists_blanks (text : Text) : ∃ b, Blanks b ∧ text = b ++ skipBlank text := by
  refine ⟨text.takeWhile isBlank, ?_, List.takeWhile_append_dropWhile.symm⟩
  intro c hc
  exact isBlank_iff.mp (List.mem_takeWhile_imp hc)

theorem skipBlank_suffix (text : Text) : skipBlank text <:+ text := List.dropWhile_suffix isBlank

/-! ### One loop for items and members -/

variable {α : Type}

/-- The entries up to and with a closing mark, behind the opening one or a comma and blanks. -/
def entries (entry : Text → Except Fault (α × Text)) (close : CodePoint) (inObject : Bool) :
    (bound : Nat) → Text → Except Fault (List α × Text)
  | 0, text => .error ⟨.deepNesting inObject, text⟩
  | bound + 1, text =>
    match entry text with
    | .error f => .error f
    | .ok (x, rest) =>
      match skipBlank rest with
      | [] => .error ⟨.expectingComma, []⟩
      | c :: rest =>
        if c = close then .ok ([x], rest)
        else if c = ',' then
          (entries entry close inObject bound (skipBlank rest)).map fun r => (x :: r.1, r.2)
        else .error ⟨.expectingComma, c :: rest⟩

/-- The entries behind an opening mark, if there are any. -/
def enclosed (entry : Text → Except Fault (α × Text)) (close : CodePoint) (inObject : Bool)
    (bound : Nat) (text : Text) : Except Fault (List α × Text) :=
  match skipBlank text with
  | [] => entries entry close inObject bound []
  | c :: rest =>
    if c = close then .ok ([], rest) else entries entry close inObject bound (c :: rest)

theorem enclosed_cases (entry : Text → Except Fault (α × Text)) (close : CodePoint)
    (inObject : Bool) (bound : Nat) (text : Text) :
    (∃ rest, skipBlank text = close :: rest ∧
      enclosed entry close inObject bound text = .ok ([], rest)) ∨
    (skipBlank text).head? ≠ some close ∧ enclosed entry close inObject bound text =
      entries entry close inObject bound (skipBlank text) := by
  unfold enclosed
  cases skipBlank text with
  | nil => exact .inr ⟨nofun, rfl⟩
  | cons c rest =>
    dsimp only
    by_cases hclose : c = close
    · rw [if_pos hclose, hclose]
      exact .inl ⟨rest, rfl, rfl⟩
    · rw [if_neg hclose]
      exact .inr ⟨fun h => hclose (Option.some.inj h), rfl⟩

/-- A member: its name and its value. -/
def member (item : Text → Except Fault (Json × Text)) (text : Text) :
    Except Fault ((Text × Json) × Text) :=
  match memberName text with
  | .error f => .error f
  | .ok (name, rest) => (item rest).map fun r => ((name, r.1), r.2)

theorem items_eq (item : Text → Except Fault (Json × Text)) (bound : Nat) (read : List Json)
    (text : Text) : items item bound read text =
      (entries item ']' false bound text).map fun r => (.array (read.reverse ++ r.1), r.2) := by
  induction bound generalizing read text with
  | zero => rfl
  | succ bound ih =>
    unfold items entries
    cases item text with
    | error f => rfl
    | ok r =>
      obtain ⟨x, rest⟩ := r
      dsimp only
      cases skipBlank rest with
      | nil => rfl
      | cons c rest =>
        dsimp only
        by_cases hclose : c = ']'
        · rw [if_pos hclose, if_pos hclose, List.reverse_cons]
          rfl
        by_cases hcomma : c = ','
        · rw [if_neg hclose, if_neg hclose, if_pos hcomma, if_pos hcomma, ih, List.reverse_cons]
          cases entries item ']' false bound (skipBlank rest) <;> simp [Except.map]
        · rw [if_neg hclose, if_neg hclose, if_neg hcomma, if_neg hcomma]
          rfl

theorem members_eq (item : Text → Except Fault (Json × Text)) (bound : Nat) (read : Members)
    (text : Text) : members item bound read text =
      (entries (member item) '\x7d' true bound text).map fun r =>
        (.object (Members.insertAll read r.1), r.2) := by
  induction bound generalizing read text with
  | zero => rfl
  | succ bound ih =>
    unfold members entries
    cases hname : memberName text with
    | error f =>
      have hmember : member item text = .error f := by rw [member, hname]
      rw [hmember]
      rfl
    | ok named =>
      obtain ⟨name, behind⟩ := named
      have hmember : member item text = (item behind).map fun r => ((name, r.1), r.2) := by
        rw [member, hname]
      rw [hmember]
      dsimp only
      cases item behind with
      | error f => rfl
      | ok r =>
        obtain ⟨x, rest⟩ := r
        dsimp only [Except.map]
        cases skipBlank rest with
        | nil => rfl
        | cons c rest =>
          dsimp only
          by_cases hclose : c = '\x7d'
          · rw [if_pos hclose, if_pos hclose]
            rfl
          by_cases hcomma : c = ','
          · rw [if_neg hclose, if_neg hclose, if_pos hcomma, if_pos hcomma, ih]
            cases entries (member item) '\x7d' true bound (skipBlank rest) <;> rfl
          · rw [if_neg hclose, if_neg hclose, if_neg hcomma, if_neg hcomma]

theorem array_eq (item : Text → Except Fault (Json × Text)) (bound : Nat) (text : Text) :
    array item bound text =
      (enclosed item ']' false bound text).map fun r => (.array r.1, r.2) := by
  unfold array enclosed
  cases skipBlank text with
  | nil => exact items_eq item bound [] []
  | cons c rest =>
    dsimp only
    split
    · rfl
    · exact items_eq item bound [] (c :: rest)

theorem object_eq (item : Text → Except Fault (Json × Text)) (bound : Nat) (text : Text) :
    object item bound text = (enclosed (member item) '\x7d' true bound text).map fun r =>
      (.object (Members.ofList r.1), r.2) := by
  unfold object enclosed
  cases skipBlank text with
  | nil => exact members_eq item bound [] []
  | cons c rest =>
    dsimp only
    split
    · rfl
    · exact members_eq item bound [] (c :: rest)

/-! ### What is read -/

variable {entry : Text → Except Fault (α × Text)} {Core : Text → α → Prop} {close : CodePoint}
  {inObject : Bool} {bound : Nat} {text rest : Text}

theorem entries_sound (sound : Sound entry Core) :
    Sound (entries entry close inObject bound) (Listed close Core) := by
  intro text rest xs h
  induction bound generalizing text rest xs with
  | zero => cases h
  | succ bound ih =>
    unfold entries at h
    split at h
    · cases h
    next x behind hentry =>
    obtain ⟨core, rfl, hcore⟩ := sound hentry
    obtain ⟨blanks, hblanks, hbehind⟩ := exists_blanks behind
    have first : Padded Core ([] ++ (core ++ blanks)) x := .intro nofun hcore hblanks
    split at h
    · cases h
    next c next hskip =>
    rw [hskip] at hbehind
    split at h
    · next hclose =>
      obtain ⟨rfl, rfl⟩ := Prod.mk.inj (Except.ok.inj h)
      refine ⟨core ++ blanks ++ [close], ?_, .last first⟩
      simp [hbehind, hclose]
    split at h
    · next hcomma =>
      obtain ⟨⟨ys, rest'⟩, hrest, hr⟩ := Outcome.map_eq_ok_iff.mp h
      obtain ⟨rfl, rfl⟩ := Prod.mk.inj hr
      obtain ⟨listed, hlisted, hys⟩ := ih hrest
      obtain ⟨gap, hgap, hnext⟩ := exists_blanks next
      rw [hlisted] at hnext
      refine ⟨core ++ blanks ++ (',' : CodePoint) :: (gap ++ listed), ?_,
        .cons first (hys.behind_blanks hgap)⟩
      simp [hbehind, hcomma, hnext]
    · cases h

theorem enclosed_sound (sound : Sound entry Core) :
    Sound (enclosed entry close inObject bound) (Enclosed close Core) := by
  intro text rest xs h
  obtain ⟨blanks, hblanks, htext⟩ := exists_blanks text
  rcases enclosed_cases entry close inObject bound text with
    ⟨behind, hskip, hempty⟩ | ⟨-, hentries⟩
  · obtain ⟨rfl, rfl⟩ := Prod.mk.inj (Except.ok.inj (hempty.symm.trans h))
    refine ⟨blanks ++ [close], ?_, .empty hblanks⟩
    rw [List.append_assoc, List.singleton_append, ← hskip]
    exact htext
  · rw [hentries] at h
    obtain ⟨listed, hlisted, hxs⟩ := entries_sound sound h
    refine ⟨blanks ++ listed, ?_, .listed (hxs.behind_blanks hblanks)⟩
    rw [List.append_assoc, ← hlisted]
    exact htext

/-! ### What is listed is read -/

/-- Reading gave up because of the nesting. -/
def Deep {β : Type} (r : Except Fault β) : Prop :=
  ∃ f, r = .error f ∧ f.cause.isDeepNesting = true

theorem Deep.of_map {β γ : Type} {r : Except Fault β} {f : β → γ} (h : Deep (r.map f)) :
    Deep r := by
  obtain ⟨fault, hfault, hdeep⟩ := h
  exact ⟨fault, Outcome.map_eq_error_iff.mp hfault, hdeep⟩

/-- Whether reading gives up does not depend on what is made of the value that is read. -/
theorem read_or_deep_map {β γ : Type} {r : Except Fault β} {x : β} {reason : Prop}
    (h : r = .ok x ∨ reason ∧ Deep r) (f : β → γ) :
    r.map f = .ok (f x) ∨ reason ∧ Deep (r.map f) := by
  rcases h with rfl | ⟨hreason, fault, rfl, hdeep⟩
  · exact .inl rfl
  · exact .inr ⟨hreason, fault, rfl, hdeep⟩

/-- A text of the grammar that has less than `limit` code points with what follows is read up to its
end, unless it is nested too deeply, for which there is a reason. -/
def Complete (entry : Text → Except Fault (α × Text)) (Core : Text → α → Prop) (limit : Nat)
    (reason : Prop) : Prop :=
  ∀ ⦃core rest : Text⦄ ⦃x : α⦄, Core core x → Stops rest → (core ++ rest).length < limit →
    entry (core ++ rest) = .ok (x, rest) ∨ reason ∧ Deep (entry (core ++ rest))

/-- An entry starts with no blank and no closing mark. -/
def Starts (Core : Text → α → Prop) (close : CodePoint) : Prop :=
  ∀ ⦃core : Text⦄ ⦃x : α⦄, Core core x → ∃ c t, core = c :: t ∧ isBlank c = false ∧ c ≠ close

theorem stops_cons {c : CodePoint} (h : isBlank c = true ∨ c = ',' ∨ c = ']' ∨ c = '\x7d')
    (t : Text) : Stops (c :: t) := by
  intro d hd
  obtain rfl : c = d := Option.some.inj hd
  rcases h with h | rfl | rfl | rfl
  · rcases isBlank_iff.mp h with rfl | rfl | rfl | rfl <;> decide
  all_goals decide

theorem stops_blanks {blanks : Text} (hb : Blanks blanks) {c : CodePoint}
    (hc : c = ',' ∨ c = ']' ∨ c = '\x7d') (t : Text) : Stops (blanks ++ c :: t) := by
  cases blanks with
  | nil => exact stops_cons (.inr hc) t
  | cons b blanks => exact stops_cons (.inl (isBlank_iff.mpr (hb b List.mem_cons_self))) _

/-- Behind its blanks an entry starts with no closing mark. -/
theorem skipBlank_padded (starts : Starts Core close) {t : Text} {x : α} (h : Padded Core t x)
    (rest : Text) : ∃ c t', skipBlank (t ++ rest) = c :: t' ∧ c ≠ close := by
  cases h with
  | @intro before core behind _ hbefore hcore hbehind =>
    obtain ⟨c, t', rfl, hblank, hclose⟩ := starts hcore
    rw [List.append_assoc, skipBlank_blanks hbefore]
    exact ⟨c, t' ++ behind ++ rest, skipBlank_cons hblank _, hclose⟩

variable {limit : Nat} {reason : Prop}

theorem entry_padded (starts : Starts Core close) (complete : Complete entry Core limit reason)
    {t : Text} {x : α} (h : Padded Core t x) {c : CodePoint} (hc : c = ',' ∨ c = ']' ∨ c = '\x7d')
    {rest : Text} (hlimit : (t ++ c :: rest).length < limit) :
    (∃ behind, entry (skipBlank (t ++ c :: rest)) = .ok (x, behind) ∧
      skipBlank behind = c :: rest) ∨
    reason ∧ Deep (entry (skipBlank (t ++ c :: rest))) := by
  cases h with
  | @intro before core behind _ hbefore hcore hbehind =>
    have hlength : (core ++ (behind ++ c :: rest)).length < limit := by
      simp only [List.length_append] at hlimit ⊢
      omega
    have hread := complete hcore (stops_blanks hbehind hc rest) hlength
    have hskip : skipBlank (before ++ (core ++ behind) ++ c :: rest) =
        core ++ (behind ++ c :: rest) := by
      obtain ⟨d, t', rfl, hblank, -⟩ := starts hcore
      rw [List.append_assoc, skipBlank_blanks hbefore, List.append_assoc]
      exact skipBlank_cons hblank _
    have hmark : isBlank c = false := by
      rcases hc with rfl | rfl | rfl <;> rfl
    rw [hskip]
    refine hread.imp_left fun hread => ⟨_, hread, ?_⟩
    exact (skipBlank_blanks hbehind _).trans (skipBlank_cons hmark rest)

variable (inObject) in
theorem entries_complete (hclose : close = ']' ∨ close = '\x7d') (starts : Starts Core close)
    (complete : Complete entry Core limit reason) {body rest : Text} {xs : List α}
    (h : Listed close Core body xs) (hlimit : (body ++ rest).length < limit)
    (hbound : (body ++ rest).length < bound) :
    entries entry close inObject bound (skipBlank (body ++ rest)) = .ok (xs, rest) ∨
      reason ∧ Deep (entries entry close inObject bound (skipBlank (body ++ rest))) := by
  induction h generalizing bound with
  | @last t x first =>
    obtain ⟨bound, rfl⟩ : ∃ b, bound = b + 1 := ⟨bound - 1, by omega⟩
    rw [List.append_assoc, List.singleton_append] at hlimit ⊢
    rw [entries]
    rcases entry_padded starts complete first (.inr hclose) hlimit with
      ⟨behind, hread, hskip⟩ | ⟨hreason, f, hread, hdeep⟩
    · left
      rw [hread]
      dsimp only
      rw [hskip]
      exact if_pos rfl
    · right
      rw [hread]
      exact ⟨hreason, f, rfl, hdeep⟩
  | @cons t listed x xs first hlisted ih =>
    obtain ⟨bound, rfl⟩ : ∃ b, bound = b + 1 := ⟨bound - 1, by omega⟩
    rw [List.append_assoc, List.cons_append] at hlimit hbound ⊢
    rw [entries]
    rcases entry_padded starts complete first (.inl rfl) hlimit with
      ⟨behind, hread, hskip⟩ | ⟨hreason, f, hread, hdeep⟩
    · have hcomma : (',' : CodePoint) ≠ close := by
        rcases hclose with rfl | rfl <;> decide
      rw [List.length_append, List.length_cons] at hlimit hbound
      rw [hread]
      dsimp only
      rw [hskip]
      dsimp only
      rw [if_neg hcomma, if_pos rfl]
      have hrest : (listed ++ rest).length < bound := by omega
      exact read_or_deep_map (ih (by omega) hrest) _
    · right
      rw [hread]
      exact ⟨hreason, f, rfl, hdeep⟩

variable (inObject) in
theorem enclosed_complete (hclose : close = ']' ∨ close = '\x7d') (starts : Starts Core close)
    (complete : Complete entry Core bound reason) {body rest : Text} {xs : List α}
    (h : Enclosed close Core body xs) (hbound : (body ++ rest).length < bound) :
    enclosed entry close inObject bound (body ++ rest) = .ok (xs, rest) ∨
      reason ∧ Deep (enclosed entry close inObject bound (body ++ rest)) := by
  cases h with
  | @empty blanks hblanks =>
    have hmark : isBlank close = false := by
      rcases hclose with rfl | rfl <;> rfl
    left
    rw [enclosed, List.append_assoc, skipBlank_blanks hblanks, List.singleton_append,
      skipBlank_cons hmark]
    exact if_pos rfl
  | listed hlisted =>
    have hfirst : ∃ c t, skipBlank (body ++ rest) = c :: t ∧ c ≠ close := by
      cases hlisted with
      | last first | cons first =>
        rw [List.append_assoc]
        exact skipBlank_padded starts first _
    obtain ⟨c, t, hfirst, hc⟩ := hfirst
    rcases enclosed_cases entry close inObject bound (body ++ rest) with
      ⟨behind, hskip, -⟩ | ⟨-, hentries⟩
    · rw [hfirst] at hskip
      exact absurd (List.cons.inj hskip).1 hc
    · rw [hentries]
      exact entries_complete inObject hclose starts complete hlisted hbound hbound

/-! ### What makes the loop give up -/

/-- **The loop gives up because of the nesting only where an entry does**, when the bound is more
than the text is long. -/
theorem entries_deep (sound : Sound entry Core) (hbound : text.length < bound)
    (h : Deep (entries entry close inObject bound text)) : ∃ t, t <:+ text ∧ Deep (entry t) := by
  induction bound generalizing text with
  | zero => omega
  | succ bound ih =>
    obtain ⟨f, hf, hdeep⟩ := h
    unfold entries at hf
    split at hf
    · next fault hentry =>
      obtain rfl : fault = f := Except.error.inj hf
      exact ⟨text, List.suffix_rfl, fault, hentry, hdeep⟩
    next x behind hentry =>
    obtain ⟨core, rfl, -⟩ := sound hentry
    split at hf
    · rw [← Except.error.inj hf] at hdeep
      cases hdeep
    next c next hskip =>
    have hnext : next <:+ behind :=
      (List.suffix_cons c next).trans (hskip ▸ skipBlank_suffix behind)
    have hlength : next.length < behind.length := by
      have hle := (skipBlank_suffix behind).length_le
      rw [hskip, List.length_cons] at hle
      omega
    split at hf
    · cases hf
    split at hf
    · have hrest : (skipBlank next).length < bound := by
        have hle := (skipBlank_suffix next).length_le
        rw [List.length_append] at hbound
        omega
      obtain ⟨t, ht, hdeep⟩ := ih hrest ⟨f, Outcome.map_eq_error_iff.mp hf, hdeep⟩
      have hsuffix : t <:+ behind := (ht.trans (skipBlank_suffix next)).trans hnext
      exact ⟨t, hsuffix.trans (List.suffix_append core behind), hdeep⟩
    · rw [← Except.error.inj hf] at hdeep
      cases hdeep

theorem enclosed_deep (sound : Sound entry Core) (hbound : text.length < bound)
    (h : Deep (enclosed entry close inObject bound text)) : ∃ t, t <:+ text ∧ Deep (entry t) := by
  rcases enclosed_cases entry close inObject bound text with ⟨rest, -, hempty⟩ | ⟨-, hentries⟩
  · obtain ⟨f, hf, -⟩ := h
    rw [hempty] at hf
    cases hf
  · have hsuffix := skipBlank_suffix text
    have hlength : (skipBlank text).length < bound := Nat.lt_of_le_of_lt hsuffix.length_le hbound
    rw [hentries] at h
    obtain ⟨t, ht, hdeep⟩ := entries_deep sound hlength h
    exact ⟨t, ht.trans hsuffix, hdeep⟩

/-! ### Members -/

variable {name : Text} {item : Text → Except Fault (Json × Text)} {Value : Text → Json → Prop}

theorem memberName_sound (h : memberName text = .ok (name, rest)) :
    ∃ body ps before behind, text = ('"' : CodePoint) :: (body ++ (before ++ (':' : CodePoint) ::
      (behind ++ rest))) ∧ Quoted body ps ∧ name = resolve ps ∧ Blanks before ∧ Blanks behind := by
  unfold memberName at h
  split at h
  · cases h
  next c tail =>
  split at h
  · next hquote =>
    split at h
    · cases h
    next s colon hstring =>
    obtain ⟨body, ps, rfl, hquoted⟩ := quoted_of_string hstring
    have hread := string_quoted (c :: (body ++ colon)) hquoted colon
    obtain ⟨rfl, -⟩ := Prod.mk.inj (Except.ok.inj (hstring.symm.trans hread))
    obtain ⟨before, hbefore, hcolon⟩ := exists_blanks colon
    split at h
    · cases h
    next d next hskip =>
    split at h
    · next hmark =>
      obtain ⟨rfl, rfl⟩ := Prod.mk.inj (Except.ok.inj h)
      obtain ⟨behind, hbehind, hnext⟩ := exists_blanks next
      refine ⟨body, ps, before, behind, ?_, hquoted, rfl, hbefore, hbehind⟩
      rw [← hnext, hquote, ← hmark, ← hskip, ← hcolon]
    · cases h
  · cases h

theorem memberName_complete {body before behind core : Text} {ps : List Piece}
    (hquoted : Quoted body ps) (hbefore : Blanks before) (hbehind : Blanks behind)
    (hcore : ∀ c ∈ core.head?, isBlank c = false) :
    memberName (('"' : CodePoint) :: (body ++ (before ++ (':' : CodePoint) :: (behind ++ core)))) =
      .ok (resolve ps, core) := by
  have hskip : skipBlank core = core := by
    cases core with
    | nil => rfl
    | cons c t => exact skipBlank_cons (hcore c rfl) t
  unfold memberName
  dsimp only
  rw [if_pos rfl, string_quoted _ hquoted]
  dsimp only
  rw [skipBlank_blanks hbefore, skipBlank_cons rfl]
  dsimp only
  rw [if_pos rfl, skipBlank_blanks hbehind, hskip]

theorem memberName_shallow {f : Fault} (h : memberName text = .error f) :
    f.cause.isDeepNesting = false := by
  unfold memberName at h
  split at h
  · rw [← Except.error.inj h]
    rfl
  split at h
  · split at h
    · next fault hstring =>
      rw [← Except.error.inj h]
      exact string_shallow hstring
    split at h
    · rw [← Except.error.inj h]
      rfl
    split at h
    · cases h
    · rw [← Except.error.inj h]
      rfl
  · rw [← Except.error.inj h]
    rfl

theorem member_sound (sound : Sound item Value) : Sound (member item) (IsMember Value) := by
  intro text rest m h
  unfold member at h
  split at h
  · cases h
  next name next hname =>
  obtain ⟨⟨v, rest'⟩, hitem, hr⟩ := Outcome.map_eq_ok_iff.mp h
  obtain ⟨rfl, rfl⟩ := Prod.mk.inj hr
  obtain ⟨body, ps, before, behind, rfl, hquoted, rfl, hbefore, hbehind⟩ := memberName_sound hname
  obtain ⟨core, rfl, hcore⟩ := sound hitem
  refine ⟨_, ?_, .intro hquoted hbefore hbehind hcore⟩
  simp

theorem member_complete (starts : Starts Value close)
    (complete : Complete item Value limit reason) :
    Complete (member item) (IsMember Value) limit reason := by
  intro text rest m h stops hlimit
  cases h with
  | @intro body before behind core ps v hquoted hbefore hbehind hcore =>
    have hhead : ∀ c ∈ (core ++ rest).head?, isBlank c = false := by
      obtain ⟨c, t, rfl, hblank, -⟩ := starts hcore
      intro d hd
      rwa [← Option.some.inj hd]
    have hname := memberName_complete hquoted hbefore hbehind hhead
    have hmember : member item (('"' : CodePoint) :: (body ++ (before ++ (':' : CodePoint) ::
        (behind ++ (core ++ rest))))) =
          (item (core ++ rest)).map fun r => ((resolve ps, r.1), r.2) := by
      rw [member, hname]
    have hlength : (core ++ rest).length < limit := by
      simp only [List.length_append, List.length_cons] at hlimit ⊢
      omega
    simp only [List.cons_append, List.append_assoc]
    rw [hmember]
    exact read_or_deep_map (complete hcore stops hlength) _

theorem member_deep (h : Deep (member item text)) : ∃ t, t <:+ text ∧ Deep (item t) := by
  unfold member at h
  split at h
  · next f hname =>
    obtain ⟨f', hf, hdeep⟩ := h
    rw [← Except.error.inj hf, memberName_shallow hname] at hdeep
    cases hdeep
  · next name next hname =>
    obtain ⟨body, ps, before, behind, rfl, -⟩ := memberName_sound hname
    refine ⟨next, ⟨('"' : CodePoint) :: (body ++ (before ++ (':' : CodePoint) :: behind)), ?_⟩,
      h.of_map⟩
    simp

theorem isMember_starts (Value : Text → Json → Prop) : Starts (IsMember Value) '\x7d' := by
  intro text m h
  cases h with
  | intro => exact ⟨_, _, rfl, rfl, by decide⟩

end Reader

end Json

end Entitlement
