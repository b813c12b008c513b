import Entitlement.Text.Unencodable
import Mathlib.Data.List.TakeDrop
import Mathlib.Data.List.TakeWhile

/-! # Texts cut and joined

What a cut takes and what it leaves: a run of a class of code points (`Text.span_run`), a prefix
(`Text.dropPrefix?_eq_some`), what lies at both ends (`Text.exists_strip`, `Text.strip_append`), and
the pieces between separators, which give the text again when they are joined
(`Text.joinWith_splitOn`). A text has a form in an encoding where no run of it is without one
(`Text.utf8Obstacle?_eq_none_iff`, `Text.asciiObstacle?_eq_none_iff`). -/

namespace Entitlement

namespace Text

/-! ### Runs and prefixes -/

/-- A run is taken as a whole where it does not go on. -/
theorem span_run {p : CodePoint → Bool} {run rest : Text} (hrun : ∀ c ∈ run, p c = true)
    (hrest : ∀ c ∈ rest.head?, p c = false) : (run ++ rest).span p = (run, rest) := by
  rw [List.span_eq_takeWhile_dropWhile, List.takeWhile_append_of_pos hrun,
    List.dropWhile_append_of_pos hrun]
  cases rest with
  | nil => simp
  | cons c rest =>
    have hc := hrest c (by simp)
    simp [hc]

theorem run_of_span {p : CodePoint → Bool} {text run rest : Text}
    (h : text.span p = (run, rest)) : text = run ++ rest ∧ ∀ c ∈ run, p c = true := by
  rw [List.span_eq_takeWhile_dropWhile] at h
  obtain ⟨rfl, rfl⟩ := Prod.mk.inj h
  exact ⟨List.takeWhile_append_dropWhile.symm, fun c hc => List.mem_takeWhile_imp hc⟩

theorem dropPrefix?_eq_some {head t rest : Text} :
    dropPrefix? head t = some rest ↔ t = head ++ rest := by
  induction head generalizing t with
  | nil => exact Option.some_inj
  | cons a head ih =>
    cases t with
    | nil => simp [dropPrefix?]
    | cons b t =>
      unfold dropPrefix?
      by_cases h : a = b
      · rw [if_pos h, ih, h, List.cons_append, List.cons_inj_right]
      · rw [if_neg h]
        simp [Ne.symm h]

theorem dropEvery_of_notMem {word t : Text} {c : CodePoint} (hword : c ∈ word) (ht : c ∉ t) :
    dropEvery word t = t := by
  have hfrom : ∀ s : Text, c ∉ s → dropEveryFrom word 0 s = s := by
    intro s hs
    induction s with
    | nil => rfl
    | cons d s ih =>
      have hno : ¬ word.isPrefixOf (d :: s) = true := fun h =>
        hs ((List.isPrefixOf_iff_prefix.mp h).subset hword)
      rw [dropEveryFrom, if_neg hno, ih fun h => hs (List.mem_cons_of_mem d h)]
  unfold dropEvery
  split
  · rfl
  · exact hfrom t ht

/-! ### Ends -/

theorem exists_stripEnd (p : CodePoint → Bool) (t : Text) :
    ∃ after, t = stripEnd p t ++ after ∧ ∀ c ∈ after, p c = true := by
  refine ⟨(t.reverse.takeWhile p).reverse, ?_, fun c hc => ?_⟩
  · unfold stripEnd
    rw [← List.reverse_append, List.takeWhile_append_dropWhile, List.reverse_reverse]
  · exact List.mem_takeWhile_imp (List.mem_reverse.mp hc)

theorem exists_strip (p : CodePoint → Bool) (t : Text) : ∃ before after,
    t = before ++ strip p t ++ after ∧ (∀ c ∈ before, p c = true) ∧ ∀ c ∈ after, p c = true := by
  obtain ⟨after, hafter, hp⟩ := exists_stripEnd p (stripStart p t)
  refine ⟨t.takeWhile p, after, ?_, fun c hc => List.mem_takeWhile_imp hc, hp⟩
  rw [List.append_assoc, strip, ← hafter]
  exact List.takeWhile_append_dropWhile.symm

theorem stripStart_append {p : CodePoint → Bool} {before t : Text}
    (hbefore : ∀ c ∈ before, p c = true) (ht : ∀ c ∈ t.head?, p c = false) :
    stripStart p (before ++ t) = t := by
  unfold stripStart
  rw [List.dropWhile_append_of_pos hbefore]
  cases t with
  | nil => rfl
  | cons c t => exact List.dropWhile_cons_of_neg (by simp [ht c (by simp)])

theorem strip_append {p : CodePoint → Bool} {before t after : Text}
    (hbefore : ∀ c ∈ before, p c = true) (hafter : ∀ c ∈ after, p c = true)
    (ht : ∀ c ∈ t, p c = false) : strip p (before ++ t ++ after) = t := by
  have hend : stripEnd p (t ++ after) = t := by
    have hrev : stripStart p (after.reverse ++ t.reverse) = t.reverse :=
      stripStart_append (fun c hc => hafter c (List.mem_reverse.mp hc))
        fun c hc => ht c (List.mem_reverse.mp (List.mem_of_mem_head? hc))
    rw [stripEnd, List.reverse_append]
    exact (congrArg List.reverse hrev).trans (List.reverse_reverse t)
  rw [strip, List.append_assoc]
  cases t with
  | nil =>
    have hall : stripStart p (before ++ after) = [] :=
      List.dropWhile_eq_nil_iff.mpr fun c hc =>
        (List.mem_append.mp hc).elim (hbefore c) (hafter c)
    rw [List.nil_append, hall]
    rfl
  | cons c t =>
    rw [stripStart_append hbefore fun d hd => ?_, hend]
    exact ht d (List.mem_of_mem_head? (by simpa using hd))

/-! ### Texts without a form -/

theorem run?_eq_none_iff {p : CodePoint → Bool} {t : Text} :
    run? p t = none ↔ ∀ c ∈ t, p c = false := by
  unfold run?
  rw [List.span_eq_takeWhile_dropWhile]
  have hdrop : t.dropWhile (fun c => !p c) = [] ↔ ∀ c ∈ t, p c = false := by
    simp [List.dropWhile_eq_nil_iff]
  rw [← hdrop]
  cases t.dropWhile (fun c => !p c) <;> simp

theorem utf8Obstacle?_eq_none_iff {t : Text} : t.utf8Obstacle? = none ↔ t.isScalar = true := by
  unfold utf8Obstacle? isScalar
  rw [Option.map_eq_none_iff, run?_eq_none_iff, List.all_eq_true]
  simp only [Bool.not_eq_true']

theorem asciiObstacle?_eq_none_iff {t : Text} :
    t.asciiObstacle? = none ↔ ∀ c ∈ t, c.isAscii = true := by
  unfold asciiObstacle?
  rw [Option.map_eq_none_iff, run?_eq_none_iff]
  simp only [Bool.not_eq_false']

/-! ### Pieces -/

theorem splitAt_of_notMem {c : CodePoint} {t : Text} (h : c ∉ t) : splitAt c t = (t, none) := by
  have hrun : ∀ d ∈ t, (d != c) = true := fun d hd => bne_iff_ne.mpr fun he => h (he ▸ hd)
  have hspan : (t ++ []).span (· != c) = (t, []) := span_run hrun nofun
  rw [List.append_nil] at hspan
  rw [splitAt, hspan]

theorem splitOn_ne_nil (c : CodePoint) (t : Text) : splitOn c t ≠ [] := by
  cases t with
  | nil => exact List.cons_ne_nil _ _
  | cons d t =>
    rw [splitOn]
    split
    · exact List.cons_ne_nil _ _
    · split <;> exact List.cons_ne_nil _ _

theorem splitOn_cons_of_ne {c d : CodePoint} (h : d ≠ c) {t piece : Text} {pieces : List Text}
    (ht : splitOn c t = piece :: pieces) : splitOn c (d :: t) = (d :: piece) :: pieces := by
  rw [splitOn, if_neg h, ht]

theorem splitOn_of_notMem {c : CodePoint} {t : Text} (h : c ∉ t) : splitOn c t = [t] := by
  induction t with
  | nil => rfl
  | cons d t ih =>
    obtain ⟨hne, ht⟩ := not_or.mp (mt List.mem_cons.mpr h)
    exact splitOn_cons_of_ne (Ne.symm hne) (ih ht)

theorem splitOn_append (c : CodePoint) (s t : Text) :
    splitOn c (s ++ c :: t) = splitOn c s ++ splitOn c t := by
  induction s with
  | nil =>
    have hcons : splitOn c (c :: t) = [] :: splitOn c t := by rw [splitOn, if_pos rfl]
    exact hcons
  | cons d s ih =>
    rw [List.cons_append, splitOn, splitOn, ih]
    split
    · rfl
    · rcases hs : splitOn c s with _ | ⟨piece, pieces⟩
      · exact absurd hs (splitOn_ne_nil c s)
      · rfl

theorem joinWith_cons (separator t : Text) {ts : List Text} (h : ts ≠ []) :
    joinWith separator (t :: ts) = t ++ separator ++ joinWith separator ts := by
  cases ts with
  | nil => exact absurd rfl h
  | cons t' ts => rfl

theorem filter_joinWith (c : CodePoint) (ts : List Text) :
    (joinWith [c] ts).filter (· ≠ c) = (ts.map (List.filter (· ≠ c))).flatten := by
  induction ts with
  | nil => rfl
  | cons t ts ih =>
    by_cases hts : ts = []
    · subst hts
      exact (List.append_nil _).symm
    · rw [joinWith_cons _ _ hts, List.filter_append, List.filter_append, ih]
      simp

theorem joinWith_append (separator : Text) {ss ts : List Text} (hs : ss ≠ []) (ht : ts ≠ []) :
    joinWith separator (ss ++ ts) =
      joinWith separator ss ++ separator ++ joinWith separator ts := by
  induction ss with
  | nil => exact absurd rfl hs
  | cons s ss ih =>
    rw [List.cons_append, joinWith_cons separator s (List.append_ne_nil_of_right_ne_nil ss ht)]
    cases ss with
    | nil => rfl
    | cons s' ss =>
      have hne : s' :: ss ≠ [] := List.cons_ne_nil _ _
      rw [ih hne, joinWith_cons separator s hne]
      simp only [List.append_assoc]

theorem joinWith_splitOn (c : CodePoint) (t : Text) : joinWith [c] (splitOn c t) = t := by
  induction t with
  | nil => rfl
  | cons d t ih =>
    rw [splitOn]
    split
    · next h =>
      rw [joinWith_cons _ _ (splitOn_ne_nil c t), ih, h]
      rfl
    · rcases hs : splitOn c t with _ | ⟨piece, pieces⟩
      · exact absurd hs (splitOn_ne_nil c t)
      · rw [hs] at ih
        cases pieces <;> exact congrArg (d :: ·) ih

theorem exists_mem_splitOn {c d : CodePoint} {t : Text} (hd : d ∈ t) (hne : d ≠ c) :
    ∃ piece ∈ splitOn c t, d ∈ piece := by
  have hfilter : d ∈ (joinWith [c] (splitOn c t)).filter (· ≠ c) := by
    rw [joinWith_splitOn]
    exact List.mem_filter.mpr ⟨hd, decide_eq_true hne⟩
  rw [filter_joinWith] at hfilter
  obtain ⟨kept, hkept, hmem⟩ := List.mem_flatten.mp hfilter
  obtain ⟨piece, hpiece, rfl⟩ := List.mem_map.mp hkept
  exact ⟨piece, hpiece, (List.mem_filter.mp hmem).1⟩

end Text

end Entitlement
