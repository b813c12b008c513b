import Entitlement.Proofs.Json.Entries

/-! # What is accepted as JSON

The reader without the extra constants reads JSON texts and nothing else, each as the value that it
denotes (`read_sound`, `read_complete`). Where it gives up because of the nesting, the text has more
brackets and braces that open than the reader goes deep (`read_deep`), and a JSON text is really
nested that deeply. -/

namespace Entitlement

namespace Json

/-! ### Values -/

namespace Reader

open Grammar

variable {options : Options} {Leaf : Text → Json → Prop} {bound depth : Nat}

/-- A value starts with an ASCII code point that is no blank and closes no array. -/
theorem head_denotes (leaves : Leaves options Leaf) {t : Text} {v : Json}
    (h : Denotes Leaf depth t v) :
    ∃ c rest, t = c :: rest ∧ c.isAscii = true ∧ isBlank c = false ∧ c ≠ ']' := by
  have leaf : Leaf t v →
      ∃ c rest, t = c :: rest ∧ c.isAscii = true ∧ isBlank c = false ∧ c ≠ ']' := by
    intro hleaf
    obtain ⟨c, rest, ht, hascii, hblank, hclose, -⟩ := leaves.head hleaf
    exact ⟨c, rest, ht, hascii, hblank, hclose⟩
  cases depth with
  | zero => exact leaf h
  | succ depth =>
    rcases h with hleaf | ⟨body, items, ht, -⟩ | ⟨body, mentions, ht, -⟩
    · exact leaf hleaf
    · exact ⟨_, _, ht, rfl, rfl, by decide⟩
    · exact ⟨_, _, ht, rfl, rfl, by decide⟩

theorem value_bracket (options : Options) (bound depth : Nat) (rest : Text) :
    value options bound (depth + 1) (('[' : CodePoint) :: rest) =
      (enclosed (value options bound depth) ']' false bound rest).map fun r =>
        (.array r.1, r.2) := array_eq _ bound rest

theorem value_brace (options : Options) (bound depth : Nat) (rest : Text) :
    value options bound (depth + 1) (('\x7b' : CodePoint) :: rest) =
      (enclosed (member (value options bound depth)) '\x7d' true bound rest).map fun r =>
        (.object (settle r.1), r.2) := by
  have hobject : value options bound (depth + 1) (('\x7b' : CodePoint) :: rest) = _ :=
    object_eq (value options bound depth) bound rest
  simp only [ofList_eq_settle] at hobject
  exact hobject

theorem value_zero_deep (options : Options) (bound : Nat) {c : CodePoint}
    (h : c = '[' ∨ c = '\x7b') (rest : Text) : Deep (value options bound 0 (c :: rest)) := by
  unfold value
  exact ⟨_, if_pos h, rfl⟩

theorem value_cases (options : Options) (bound depth : Nat) (text : Text) :
    value options bound depth text = scalar options text ∨
    ∃ c rest, text = c :: rest ∧ (c = '[' ∨ c = '\x7b') := by
  cases text with
  | nil => exact .inl (by cases depth <;> rfl)
  | cons c rest =>
    by_cases h : c = '[' ∨ c = '\x7b'
    · exact .inr ⟨c, rest, rfl, h⟩
    · left
      cases depth with
      | zero => exact if_neg h
      | succ depth =>
        obtain ⟨h1, h2⟩ := not_or.mp h
        exact (if_neg h1).trans (if_neg h2)

/-- **What is read is denoted**, if the leaves are. -/
theorem value_sound (sound : Sound (scalar options) Leaf) (bound depth : Nat) :
    Sound (value options bound depth) (Denotes Leaf depth) := by
  induction depth with
  | zero =>
    intro text rest v h
    rcases value_cases options bound 0 text with hscalar | ⟨c, tail, rfl, hc⟩
    · rw [hscalar] at h
      exact sound h
    · obtain ⟨f, hf, -⟩ := value_zero_deep options bound hc tail
      rw [hf] at h
      cases h
  | succ depth ih =>
    intro text rest v h
    rcases value_cases options bound (depth + 1) text with hscalar | ⟨c, tail, rfl, rfl | rfl⟩
    · rw [hscalar] at h
      obtain ⟨t, ht, hv⟩ := sound h
      exact ⟨t, ht, .inl hv⟩
    · rw [value_bracket] at h
      obtain ⟨⟨items, rest'⟩, hread, hr⟩ := Outcome.map_eq_ok_iff.mp h
      obtain ⟨rfl, rfl⟩ := Prod.mk.inj hr
      obtain ⟨body, rfl, henclosed⟩ := enclosed_sound ih hread
      exact ⟨('[' : CodePoint) :: body, rfl, .inr (.inl ⟨body, items, rfl, henclosed, rfl⟩)⟩
    · rw [value_brace] at h
      obtain ⟨⟨mentions, rest'⟩, hread, hr⟩ := Outcome.map_eq_ok_iff.mp h
      obtain ⟨rfl, rfl⟩ := Prod.mk.inj hr
      obtain ⟨body, rfl, henclosed⟩ := enclosed_sound (member_sound ih) hread
      exact ⟨('\x7b' : CodePoint) :: body, rfl,
        .inr (.inr ⟨body, mentions, rfl, henclosed, rfl⟩)⟩

theorem denotes_starts (leaves : Leaves options Leaf) (depth : Nat) :
    Starts (Denotes Leaf depth) ']' := by
  intro t v h
  obtain ⟨c, rest, ht, -, hblank, hclose⟩ := head_denotes leaves h
  exact ⟨c, rest, ht, hblank, hclose⟩

/-- **What is denoted is read**, and only for a value that is nested more deeply than the reader
goes can it give up. -/
theorem value_complete (leaves : Leaves options Leaf) (bound nested depth : Nat) :
    Complete (value options bound depth) (Denotes Leaf nested) bound (depth < nested) := by
  have leaf_read : ∀ {t rest : Text} {v : Json} (depth : Nat), Leaf t v → Stops rest →
      value options bound depth (t ++ rest) = .ok (v, rest) := by
    intro t rest v depth hleaf stops
    have hread := leaves.read hleaf stops
    obtain ⟨c, tail, rfl, -, -, -, hbracket, hbrace⟩ := leaves.head hleaf
    rcases value_cases options bound depth (c :: tail ++ rest) with hscalar | ⟨d, _, ht, hd⟩
    · exact hscalar.trans hread
    · obtain rfl : c = d := (List.cons.inj ht).1
      exact absurd hd (not_or.mpr ⟨hbracket, hbrace⟩)
  induction nested generalizing depth with
  | zero =>
    intro t rest v h stops _
    exact .inl (leaf_read depth h stops)
  | succ nested ih =>
    intro t rest v h stops hlimit
    rcases h with hleaf | ⟨body, items, rfl, henclosed, rfl⟩ |
      ⟨body, mentions, rfl, henclosed, rfl⟩
    · exact .inl (leaf_read depth hleaf stops)
    · cases depth with
      | zero => exact .inr ⟨Nat.succ_pos nested, value_zero_deep options bound (.inl rfl) _⟩
      | succ depth =>
        have hbound : (body ++ rest).length < bound := Nat.lt_of_succ_lt hlimit
        rw [List.cons_append, value_bracket]
        have starts := denotes_starts leaves nested
        have hread := enclosed_complete false (.inl rfl) starts (ih depth) henclosed hbound
        exact (read_or_deep_map hread _).imp_right (And.imp_left Nat.succ_lt_succ)
    · cases depth with
      | zero => exact .inr ⟨Nat.succ_pos nested, value_zero_deep options bound (.inr rfl) _⟩
      | succ depth =>
        have hbound : (body ++ rest).length < bound := Nat.lt_of_succ_lt hlimit
        have hmember := member_complete (denotes_starts leaves nested) (ih depth)
        have hread := enclosed_complete true (.inr rfl) (isMember_starts _) hmember henclosed hbound
        rw [List.cons_append, value_brace]
        exact (read_or_deep_map hread _).imp_right (And.imp_left Nat.succ_lt_succ)

theorem scalar_not_deep (options : Options) (text : Text) : ¬ Deep (scalar options text) := by
  rintro ⟨f, hf, hdeep⟩
  rw [scalar_shallow hf] at hdeep
  cases hdeep

theorem openings_suffix {t text : Text} (h : t <:+ text) : openings t ≤ openings text :=
  h.sublist.countP_le

/-- **Reading gives up only behind more openings than it goes deep.** -/
theorem value_deep {text : Text} (hbound : text.length < bound)
    (h : Deep (value options bound depth text)) : depth < openings text := by
  induction depth generalizing text with
  | zero =>
    rcases value_cases options bound 0 text with hscalar | ⟨c, rest, rfl, hc⟩
    · rw [hscalar] at h
      exact absurd h (scalar_not_deep options text)
    · exact List.countP_pos_iff.mpr ⟨c, List.mem_cons_self, decide_eq_true hc⟩
  | succ depth ih =>
    rcases value_cases options bound (depth + 1) text with hscalar | ⟨c, rest, rfl, hc⟩
    · rw [hscalar] at h
      exact absurd h (scalar_not_deep options text)
    have hcount : openings (c :: rest) = openings rest + 1 :=
      List.countP_cons_of_pos (decide_eq_true hc)
    have hrest : rest.length < bound := Nat.lt_of_succ_lt hbound
    have sound := value_sound (extended_sound options) bound depth
    -- the value inside at which the reader gives up
    have hinner : ∃ t, t <:+ rest ∧ Deep (value options bound depth t) := by
      rcases hc with rfl | rfl
      · rw [value_bracket] at h
        exact enclosed_deep sound hrest h.of_map
      · rw [value_brace] at h
        obtain ⟨t, ht, hdeep⟩ := enclosed_deep (member_sound sound) hrest h.of_map
        obtain ⟨t', ht', hdeep⟩ := member_deep hdeep
        exact ⟨t', ht'.trans ht, hdeep⟩
    obtain ⟨t, ht, hdeep⟩ := hinner
    have hopen := ih (Nat.lt_of_le_of_lt ht.length_le hrest) hdeep
    have hle := openings_suffix ht
    omega

end Reader

/-! ### Texts -/

open Reader Grammar

variable {options : Options} {Leaf : Text → Json → Prop} {text : Text} {v : Json}

theorem readBody_sound (sound : Sound (scalar options) Leaf) (h : readBody options text = .ok v) :
    Padded (Denotes Leaf depthLimit) text v := by
  unfold readBody at h
  split at h
  · cases h
  next v' rest hvalue =>
  split at h
  · next hskip =>
    obtain rfl : v' = v := Except.ok.inj h
    obtain ⟨before, hbefore, htext⟩ := exists_blanks text
    obtain ⟨core, hcore, hdenotes⟩ := value_sound sound _ depthLimit hvalue
    obtain ⟨behind, hbehind, hrest⟩ := exists_blanks rest
    rw [hskip, List.append_nil] at hrest
    rw [htext, hcore, hrest]
    exact .intro hbefore hdenotes hbehind
  · cases h

theorem read_sound (sound : Sound (scalar options) Leaf) (h : read options text = .ok v) :
    Padded (Denotes Leaf depthLimit) text v := by
  unfold read at h
  split at h
  · cases h
  · exact readBody_sound sound h

theorem value_padded (leaves : Leaves options Leaf) {nested : Nat}
    (h : Padded (Denotes Leaf nested) text v) (depth : Nat) :
    (∃ rest, value options (text.length + 1) depth (skipBlank text) = .ok (v, rest) ∧
      skipBlank rest = []) ∨
    depth < nested ∧ Deep (value options (text.length + 1) depth (skipBlank text)) := by
  cases h with
  | @intro before core behind _ hbefore hcore hbehind =>
    have hskip : skipBlank (before ++ (core ++ behind)) = core ++ behind := by
      obtain ⟨c, t, rfl, -, hblank, -⟩ := head_denotes leaves hcore
      rw [skipBlank_blanks hbefore]
      exact skipBlank_cons hblank _
    have hstops : Stops behind := by
      cases behind with
      | nil => exact nofun
      | cons b behind => exact stops_cons (.inl (isBlank_iff.mpr (hbehind b List.mem_cons_self))) _
    have hend : skipBlank behind = [] := by
      have hblanks := skipBlank_blanks hbehind []
      rw [List.append_nil] at hblanks
      exact hblanks
    have hlength : (core ++ behind).length < (before ++ (core ++ behind)).length + 1 := by
      simp only [List.length_append]
      omega
    rw [hskip]
    have hread := value_complete leaves _ nested depth hcore hstops hlength
    exact hread.imp_left fun hread => ⟨behind, hread, hend⟩

theorem head_ne_mark (leaves : Leaves options Leaf) {nested : Nat}
    (h : Padded (Denotes Leaf nested) text v) : text.head? ≠ some 0xFEFF := by
  have hascii : ∃ c t, text = c :: t ∧ c.isAscii = true := by
    cases h with
    | @intro before core behind _ hbefore hcore _ =>
      cases before with
      | nil =>
        obtain ⟨c, t, rfl, hc, -⟩ := head_denotes leaves hcore
        exact ⟨c, _, rfl, hc⟩
      | cons b before =>
        refine ⟨b, _, rfl, ?_⟩
        rcases hbefore b List.mem_cons_self with rfl | rfl | rfl | rfl <;> rfl
  obtain ⟨c, t, rfl, hc⟩ := hascii
  intro hmark
  rw [Option.some.inj hmark] at hc
  cases hc

/-- **A text is read as the value that it denotes**, unless it is nested more deeply than the reader
goes. -/
theorem read_complete (leaves : Leaves options Leaf) {nested : Nat}
    (h : Padded (Denotes Leaf nested) text v) :
    read options text = .ok v ∨ depthLimit < nested ∧ Deep (read options text) := by
  unfold read readBody
  rw [if_neg (head_ne_mark leaves h)]
  rcases value_padded leaves h depthLimit with ⟨rest, hread, hend⟩ | ⟨hdepth, f, hread, hdeep⟩
  · left
    rw [hread]
    dsimp only
    rw [hend]
  · right
    rw [hread]
    exact ⟨hdepth, f, rfl, hdeep⟩

theorem read_deep (h : Deep (read options text)) : depthLimit < openings text := by
  obtain ⟨f, hf, hdeep⟩ := h
  have hcause : ∀ {g : Reader.Fault}, (.error g : Except Reader.Fault Json) = .error f →
      g.cause.isDeepNesting = true := by
    intro g hg
    rw [Except.error.inj hg]
    exact hdeep
  unfold read at hf
  split at hf
  · cases hcause hf
  unfold readBody at hf
  split at hf
  · next fault hvalue =>
    have hsuffix := skipBlank_suffix text
    have hlength : (skipBlank text).length < text.length + 1 :=
      Nat.lt_succ_of_le hsuffix.length_le
    have hopen := value_deep hlength ⟨fault, hvalue, hcause hf⟩
    exact Nat.lt_of_lt_of_le hopen (openings_suffix hsuffix)
  · split at hf
    · cases hf
    · cases hcause hf

end Json

end Entitlement
