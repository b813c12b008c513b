import Entitlement.Proofs.Outcome
import Entitlement.Proofs.Text.Cutting
import Entitlement.Url.Basic
import Mathlib.Data.List.Basic

/-! # The path at the end of an address

An address is put together of a base and a path. It is read with the path at its end: scheme and
authority are taken from the base, dot segments of the base do not reach into the path, and no code
point of the path is escaped (`Url.read_path`). Where the base names no host, the slash between both
can be lost with a dot segment of the base; the local part of the address has it again
(`Url.localPart_path`). -/

namespace Entitlement

namespace Url

/-- The path behind its first slash: nothing in it is escaped or dropped. -/
structure Fixed (rest : Text) : Prop where
  start : ∀ c ∈ rest.head?, c ≠ '/'
  nonempty : rest ≠ []
  held : ∀ c ∈ rest, inPath c = true
  segments : ∀ segment ∈ Text.splitOn '/' rest,
    segment ≠ Text.ofString "." ∧ segment ≠ Text.ofString ".."

/-- The base of an address: it has neither query nor fragment, and no slash at its end. -/
structure Stem (base : Text) : Prop where
  marks : ∀ c ∈ base, c ≠ '?' ∧ c ≠ '#'
  ending : base.getLast? ≠ some ('/' : CodePoint)

theorem Stem.suffix {base b : Text} (h : Stem base) (hb : b <:+ base) : Stem b := by
  obtain ⟨a, rfl⟩ := hb
  refine ⟨fun c hc => h.marks c (List.mem_append_right a hc), fun hlast => h.ending ?_⟩
  rw [List.getLast?_append, hlast]
  rfl

variable {base rest : Text}

theorem Fixed.noMark (h : Fixed rest) {c : CodePoint} (hc : inPath c = false) : c ∉ rest :=
  fun hmem => by
    rw [h.held c hmem] at hc
    cases hc

/-! ### Taking the address apart -/

theorem span_base (p : CodePoint → Bool) (hslash : p '/' = false) (base rest : Text) :
    ∃ a b, base = a ++ b ∧ (∀ c ∈ b.head?, p c = false) ∧
      (base ++ ('/' : CodePoint) :: rest).span p = (a, b ++ ('/' : CodePoint) :: rest) := by
  have hbase : base.takeWhile p ++ base.dropWhile p = base := List.takeWhile_append_dropWhile
  refine ⟨base.takeWhile p, base.dropWhile p, hbase.symm, fun c hc => ?_, ?_⟩
  · have hhead := List.head?_dropWhile_not p base
    rw [hc] at hhead
    simpa using hhead
  · conv_lhs => rw [← hbase, List.append_assoc]
    refine Text.span_run (fun c hc => List.mem_takeWhile_imp hc) fun c hc => ?_
    rcases hdrop : base.dropWhile p with _ | ⟨d, b⟩
    · rw [hdrop] at hc
      obtain rfl : ('/' : CodePoint) = c := Option.some.inj hc
      exact hslash
    · have hhead := List.head?_dropWhile_not p base
      rw [hdrop] at hc hhead
      obtain rfl : d = c := Option.some.inj hc
      simpa using hhead

theorem splitScheme_base (base rest : Text) :
    ∃ scheme b, b <:+ base ∧ splitScheme (base ++ ('/' : CodePoint) :: rest) =
      (scheme, b ++ ('/' : CodePoint) :: rest) := by
  obtain ⟨a, b, rfl, -, hspan⟩ := span_base inScheme rfl base rest
  unfold splitScheme
  rw [hspan]
  cases b with
  | nil => exact ⟨[], _, List.suffix_refl _, rfl⟩
  | cons c b =>
    rw [List.cons_append]
    dsimp only
    split
    · exact ⟨a, b, (List.suffix_cons c b).trans (List.suffix_append _ _), rfl⟩
    · exact ⟨[], _, List.suffix_refl _, by rw [List.append_assoc, List.cons_append]⟩

theorem splitAuthority_base (stem : Stem base) (fixed : Fixed rest) :
    ∃ authority b, b <:+ base ∧ (authority = [] ∨ ∀ c ∈ b.head?, c = '/') ∧
      splitAuthority (base ++ ('/' : CodePoint) :: rest) =
        (authority, b ++ ('/' : CodePoint) :: rest) := by
  unfold splitAuthority
  rcases hprefix : Text.dropPrefix? "//" (base ++ ('/' : CodePoint) :: rest) with _ | behind
  · exact ⟨[], base, List.suffix_refl base, .inl rfl, rfl⟩
  · -- The two slashes stand in the base, since the path has only one and the base ends in none.
    obtain ⟨base', rfl, rfl⟩ : ∃ base', base = ('/' : CodePoint) :: ('/' : CodePoint) :: base' ∧
        behind = base' ++ ('/' : CodePoint) :: rest := by
      have htext := Text.dropPrefix?_eq_some.mp hprefix
      rcases base with _ | ⟨c, _ | ⟨d, base'⟩⟩
      · obtain ⟨-, hrest⟩ := List.cons.inj htext
        exact absurd rfl (fixed.start '/' (by rw [hrest]; rfl))
      · obtain ⟨hc, -⟩ := List.cons.inj htext
        exact absurd (congrArg some hc) stem.ending
      · obtain ⟨hc, htext⟩ := List.cons.inj htext
        obtain ⟨hd, htext⟩ := List.cons.inj htext
        exact ⟨base', by rw [hc, hd]; rfl, htext.symm⟩
    have stem' : Stem base' := stem.suffix ((List.suffix_cons _ _).trans (List.suffix_cons _ _))
    obtain ⟨a, b, rfl, hhead, hspan⟩ :=
      span_base (fun c : CodePoint => !(c = '/' || c = '?' || c = '#')) rfl base' rest
    refine ⟨a, b, ?_, .inr fun c hc => ?_, hspan⟩
    · exact (List.suffix_append a b).trans ((List.suffix_cons _ _).trans (List.suffix_cons _ _))
    · have hmarks := stem'.marks c (List.mem_append_right a (List.mem_of_mem_head? hc))
      have hstop := hhead c hc
      simpa [hmarks.1, hmarks.2] using hstop

theorem ofText_base (stem : Stem base) (fixed : Fixed rest) :
    ∃ scheme authority b, b <:+ base ∧ (authority = [] ∨ ∀ c ∈ b.head?, c = '/') ∧
      Parts.ofText (base ++ ('/' : CodePoint) :: rest) =
        ⟨scheme, authority, b ++ ('/' : CodePoint) :: rest, none, none⟩ := by
  obtain ⟨scheme, b₁, hb₁, hscheme⟩ := splitScheme_base base rest
  obtain ⟨authority, b, hb, hhead, hauthority⟩ := splitAuthority_base (stem.suffix hb₁) fixed
  have hbase : b <:+ base := hb.trans hb₁
  have hnot : ∀ mark : CodePoint, mark ∉ b → inPath mark = false → mark ≠ '/' →
      mark ∉ b ++ ('/' : CodePoint) :: rest := by
    intro mark hmem hheld hslash
    rw [List.mem_append, List.mem_cons, not_or, not_or]
    exact ⟨hmem, hslash, fixed.noMark hheld⟩
  have hhash := hnot '#' (fun h => (stem.marks _ (hbase.subset h)).2 rfl) (by decide) (by decide)
  have hquery := hnot '?' (fun h => (stem.marks _ (hbase.subset h)).1 rfl) (by decide) (by decide)
  refine ⟨scheme, authority, b, hbase, hhead, ?_⟩
  unfold Parts.ofText
  simp only [hscheme, hauthority, Text.splitAt_of_notMem hhash, Text.splitAt_of_notMem hquery]

/-! ### Dot segments -/

theorem withoutDots_append (kept ss ts : List Text) :
    withoutDots kept (ss ++ ts) = withoutDots (withoutDots kept ss).reverse ts := by
  induction ss generalizing kept with
  | nil => rw [List.nil_append, withoutDots, List.reverse_reverse]
  | cons s ss ih =>
    rw [List.cons_append, withoutDots, withoutDots]
    split
    · exact ih kept
    · split
      · exact ih _
      · exact ih _

theorem withoutDots_of_noDots {ts : List Text}
    (h : ∀ t ∈ ts, t ≠ Text.ofString "." ∧ t ≠ Text.ofString "..") (kept : List Text) :
    withoutDots kept ts = kept.reverse ++ ts := by
  induction ts generalizing kept with
  | nil => rw [withoutDots, List.append_nil]
  | cons t ts ih =>
    obtain ⟨hdot, hdots⟩ := h t (.head ts)
    rw [withoutDots, if_neg hdot, if_neg hdots, ih fun t ht => h t (.tail _ ht)]
    simp

/-- The empty segment in front is never dropped. -/
theorem withoutDots_keeps {kept : List Text} (h : kept.getLast? = some []) (ss : List Text) :
    withoutDots kept ss ≠ [] := by
  induction ss generalizing kept with
  | nil =>
    rw [withoutDots]
    intro hnil
    rw [List.reverse_eq_nil_iff.mp hnil] at h
    cases h
  | cons s ss ih =>
    rw [withoutDots]
    split
    · exact ih h
    · split
      · refine ih ?_
        split
        · exact h
        · next hkept =>
          rcases kept with _ | ⟨k, _ | ⟨k', kept⟩⟩
          · cases h
          · exact absurd (congrArg (fun t => [t]) (Option.some.inj h)) hkept
          · exact h
      · refine ih ?_
        rcases kept with _ | ⟨k, kept⟩
        · cases h
        · exact h

/-- A regular path ends in the fixed path, and the slash before it is lost only where the base has
another start. -/
theorem regularPath_base (fixed : Fixed rest) (b : Text) :
    ('/' : CodePoint) :: rest <:+ regularPath (b ++ ('/' : CodePoint) :: rest) ∨
      (¬ ∀ c ∈ b.head?, c = '/') ∧ regularPath (b ++ ('/' : CodePoint) :: rest) = rest := by
  unfold regularPath
  have hjoin : Text.joinWith "/" (Text.splitOn '/' rest) = rest := Text.joinWith_splitOn '/' rest
  rw [Text.splitOn_append, withoutDots_append, withoutDots_of_noDots fixed.segments,
    List.reverse_reverse]
  by_cases hkept : withoutDots [] (Text.splitOn '/' b) = []
  · refine .inr ⟨fun hhead => ?_, by rw [hkept, List.nil_append, hjoin]⟩
    obtain ⟨segments, hsegments⟩ : ∃ segments, Text.splitOn '/' b = [] :: segments := by
      cases b with
      | nil => exact ⟨[], rfl⟩
      | cons c b => exact ⟨Text.splitOn '/' b, by rw [Text.splitOn, if_pos (hhead c rfl)]⟩
    rw [hsegments] at hkept
    exact @withoutDots_keeps [[]] rfl segments hkept
  · left
    rw [Text.joinWith_append _ hkept (Text.splitOn_ne_nil _ _), hjoin, List.append_assoc]
    exact List.suffix_append _ _

/-! ### Escapes -/

theorem escaped_eq_ok {holds : CodePoint → Bool} {t e : Text} (h : escaped holds t = .ok e) :
    e = t.flatMap fun c => if holds c then [c] else escape c := by
  unfold escaped at h
  split at h
  · cases h
  · exact (Except.ok.inj h).symm

theorem flatMap_held {holds : CodePoint → Bool} {t : Text} (held : ∀ c ∈ t, holds c = true) :
    (t.flatMap fun c => if holds c then [c] else escape c) = t := by
  rw [List.flatMap_congr fun c hc => if_pos (held c hc), List.flatMap_singleton']

theorem mark_notMem_escape (c : CodePoint) : ('?' : CodePoint) ∉ escape c := by
  have hdigit : ∀ n < 16, (CodePoint.hexDigit n).upperAscii ≠ ('?' : CodePoint) := by decide
  intro hmem
  obtain ⟨byte, -, hbyte⟩ := List.mem_flatMap.mp hmem
  rcases List.mem_append.mp hbyte with hpercent | hhex
  · exact absurd (List.mem_singleton.mp hpercent) (by decide)
  · obtain ⟨d, hd, hupper⟩ := List.mem_map.mp hhex
    have htwo : Text.hex 2 byte.toNat =
        [CodePoint.hexDigit (byte.toNat / 16 % 16), CodePoint.hexDigit (byte.toNat % 16)] := rfl
    rw [htwo, List.mem_cons, List.mem_singleton] at hd
    rcases hd with rfl | rfl
    · exact hdigit _ (Nat.mod_lt _ (by decide)) hupper
    · exact hdigit _ (Nat.mod_lt _ (by decide)) hupper

theorem mark_notMem_escaped {t e : Text} (h : escaped inPath t = .ok e) :
    ('?' : CodePoint) ∉ e := by
  rw [escaped_eq_ok h]
  intro hmem
  obtain ⟨c, -, hc⟩ := List.mem_flatMap.mp hmem
  split at hc
  · next hheld =>
    rw [← List.mem_singleton.mp hc] at hheld
    exact absurd hheld (by decide)
  · exact mark_notMem_escape c hc

/-! ### Reading -/

/-- What is read of an address without query and fragment: the path is that of the text, or its
regular form. -/
theorem ofParts_eq_ok {scheme authority path : Text} {u : Url}
    (h : ofParts ⟨scheme, authority, path, none, none⟩ = .ok u) :
    (escaped inPath path = .ok u.path ∨ escaped inPath (regularPath path) = .ok u.path) ∧
      u.query = none ∧ u.fragment = none ∧ (authority = [] → u.host = []) := by
  obtain ⟨userinfo, -, h⟩ := Outcome.bind_eq_ok_iff.mp h
  obtain ⟨host, hhost, h⟩ := Outcome.bind_eq_ok_iff.mp h
  obtain ⟨port, -, h⟩ := Outcome.bind_eq_ok_iff.mp h
  have hempty : authority = [] → host = [] := fun hauthority => by
    rw [hauthority] at hhost
    exact (Except.ok.inj hhost).symm
  dsimp only at h
  generalize (decide (scheme = []) && decide (userinfo = []) && decide (host = []) &&
    port.isNone) = isLocal at h
  have hrest : ∃ path', escaped inPath (if isLocal then path else regularPath path) = .ok path' ∧
      u = ⟨scheme.lowerAscii, userinfo, host, port, path', none, none⟩ := by
    cases isLocal with
    | false =>
      obtain ⟨path', hpath, h⟩ := Outcome.bind_eq_ok_iff.mp h
      exact ⟨path', hpath, (Except.ok.inj h).symm⟩
    | true =>
      obtain ⟨-, -, h⟩ := Outcome.bind_eq_ok_iff.mp h
      obtain ⟨path', hpath, h⟩ := Outcome.bind_eq_ok_iff.mp h
      exact ⟨path', hpath, (Except.ok.inj h).symm⟩
  obtain ⟨path', hpath, rfl⟩ := hrest
  refine ⟨?_, rfl, rfl, hempty⟩
  cases isLocal with
  | false => exact .inr hpath
  | true => exact .inl hpath

/-- An address without query and fragment whose path holds no mark of a query. -/
structure Bare (u : Url) : Prop where
  query : u.query = none
  fragment : u.fragment = none
  unmarked : ('?' : CodePoint) ∉ u.path

/-- **An address ends in its path.** Only where it names no host, the slash in front can be lost. -/
theorem read_path (stem : Stem base) (fixed : Fixed rest) {u : Url}
    (h : read (base ++ ('/' : CodePoint) :: rest) = .ok u) :
    u.Bare ∧ (('/' : CodePoint) :: rest <:+ u.path ∨ u.host = [] ∧ u.path = rest) := by
  have hparts : ofParts (.ofText (base ++ ('/' : CodePoint) :: rest)) = .ok u := by
    unfold read at h
    split at h
    · cases h
    · exact (Outcome.bind_eq_ok_iff.mp h).choose_spec.2
  obtain ⟨scheme, authority, b, -, hhead, htext⟩ := ofText_base stem fixed
  rw [htext] at hparts
  obtain ⟨hpath, hquery, hfragment, hhost⟩ := ofParts_eq_ok hparts
  have hslash : ∀ c ∈ ('/' : CodePoint) :: rest, inPath c = true :=
    List.forall_mem_cons.mpr ⟨by decide, fixed.held⟩
  -- What ends in the fixed path before the escapes ends in it behind them.
  have hends : ∀ {path : Text}, ('/' : CodePoint) :: rest <:+ path →
      escaped inPath path = .ok u.path → ('/' : CodePoint) :: rest <:+ u.path := by
    rintro _ ⟨front, rfl⟩ hescaped
    rw [escaped_eq_ok hescaped, List.flatMap_append, flatMap_held hslash]
    exact List.suffix_append _ _
  refine ⟨⟨hquery, hfragment, hpath.elim mark_notMem_escaped mark_notMem_escaped⟩, ?_⟩
  rcases hpath with hpath | hpath
  · exact .inl (hends (List.suffix_append _ _) hpath)
  · rcases regularPath_base fixed b with hregular | ⟨hstart, hregular⟩
    · exact .inl (hends hregular hpath)
    · rw [hregular] at hpath
      exact .inr ⟨hhost (hhead.resolve_right hstart),
        (escaped_eq_ok hpath).trans (flatMap_held fixed.held)⟩

theorem stripStart_rest (fixed : Fixed rest) :
    Text.stripStart (fun c : CodePoint => c = '/') rest = rest := by
  obtain ⟨c, more, rfl⟩ := List.exists_cons_of_ne_nil fixed.nonempty
  exact List.dropWhile_cons_of_neg (by simpa using fixed.start c rfl)

theorem stripStart_path (fixed : Fixed rest) (front : Text) :
    ('/' : CodePoint) :: rest <:+ ('/' : CodePoint) ::
      Text.stripStart (fun c : CodePoint => c = '/') (front ++ ('/' : CodePoint) :: rest) := by
  induction front with
  | nil =>
    have hdrop : Text.stripStart (fun c : CodePoint => c = '/') (('/' : CodePoint) :: rest) =
        Text.stripStart (fun c : CodePoint => c = '/') rest :=
      List.dropWhile_cons_of_pos (by simp)
    exact ⟨[], by rw [List.nil_append, hdrop, stripStart_rest fixed]⟩
  | cons c front ih =>
    rw [List.cons_append, Text.stripStart, List.dropWhile_cons]
    split
    · exact ih
    · exact (List.suffix_append (_ :: c :: front) _)

/-- **The local part ends in the path**, and has the slash in front. -/
theorem localPart_path (fixed : Fixed rest) {u : Url} (bare : u.Bare)
    (h : ('/' : CodePoint) :: rest <:+ u.path ∨ u.path = rest) :
    ('/' : CodePoint) :: rest <:+ u.localPart.path ∧ u.localPart.query = none := by
  have hne : u.path ≠ [] := by
    rcases h with ⟨front, hfront⟩ | h
    · rw [← hfront]
      exact List.append_ne_nil_of_right_ne_nil _ (List.cons_ne_nil _ _)
    · rw [h]
      exact fixed.nonempty
  have htarget : u.target = u.path := by
    unfold target queryText
    rw [if_neg hne, bare.query]
    exact List.append_nil _
  have hunmarked : ('?' : CodePoint) ∉
      Text.ofString "/" ++ Text.stripStart (fun c : CodePoint => c = '/') u.path := by
    rw [List.mem_append, not_or]
    exact ⟨by decide, fun hmem => bare.unmarked ((List.dropWhile_sublist _).subset hmem)⟩
  have hlocal : u.localPart = ⟨[], [], [], none,
      Text.ofString "/" ++ Text.stripStart (fun c : CodePoint => c = '/') u.path, none, none⟩ := by
    unfold localPart
    rw [htarget, Text.splitAt_of_notMem hunmarked]
  rw [hlocal]
  refine ⟨?_, rfl⟩
  rcases h with ⟨front, hfront⟩ | h
  · rw [← hfront]
    exact stripStart_path fixed front
  · rw [h, stripStart_rest fixed]
    exact List.suffix_refl _

end Url

end Entitlement
