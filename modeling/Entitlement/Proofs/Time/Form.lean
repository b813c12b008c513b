import Entitlement.Proofs.Text.Cutting
import Entitlement.Proofs.Text.Decimal
import Entitlement.Time.Rfc3339

/-! # The form of a date-time

A text is taken apart into the form whose text it is, and into no other (`Form.form_of_read?`,
`Form.read?_text`). Each field ends where its digits are as many as it has, and a fraction ends
where the offset begins (`Zone.text_stops`), so nothing is lost between them. The digits of a form
may be of any script; those of an ASCII text are the ten digits (`isDigit_of_isDecimal`). -/

namespace Entitlement

namespace Rfc3339

/-- Decimal digits of any script, as many as a field has. -/
structure IsField (length : Nat) (digits : Text) : Prop where
  length_eq : digits.length = length
  decimal : ∀ c ∈ digits, c.isDecimal = true

namespace Zone

def text : Zone → Text
  | .utc => [('Z' : CodePoint)]
  | .offset negative hours minutes =>
    (if negative then ('-' : CodePoint) else ('+' : CodePoint)) ::
      (hours ++ (':' : CodePoint) :: minutes)

/-- Hours and minutes are two digits each. -/
def HasForm : Zone → Prop
  | .utc => True
  | .offset _ hours minutes => IsField 2 hours ∧ IsField 2 minutes

end Zone

namespace Form

def fractionText (fraction : Text) : Text :=
  if fraction = [] then [] else ('.' : CodePoint) :: fraction

/-- The text of the form. -/
def text (f : Form) : Text :=
  f.year ++ ('-' : CodePoint) :: (f.month ++ ('-' : CodePoint) :: (f.day ++ ('T' : CodePoint) ::
    (f.hour ++ (':' : CodePoint) :: (f.minute ++ (':' : CodePoint) :: (f.second ++
      (fractionText f.fraction ++ (f.zone.text ++
        if f.lineFeed then [('\n' : CodePoint)] else [])))))))

/-- Each part is digits, as many as it has. -/
structure HasForm (f : Form) : Prop where
  year : IsField 4 f.year
  month : IsField 2 f.month
  day : IsField 2 f.day
  hour : IsField 2 f.hour
  minute : IsField 2 f.minute
  second : IsField 2 f.second
  fraction : ∀ c ∈ f.fraction, c.isDecimal = true
  zone : f.zone.HasForm

end Form

theorem digits?_eq_some_iff {n : Nat} {text digits rest : Text} :
    digits? n text = some (digits, rest) ↔ text = digits ++ rest ∧ IsField n digits := by
  induction n generalizing text digits with
  | zero =>
    constructor
    · intro h
      obtain ⟨rfl, rfl⟩ := Prod.mk.inj (Option.some.inj h)
      exact ⟨rfl, rfl, nofun⟩
    · rintro ⟨rfl, hlength, -⟩
      rw [List.length_eq_zero_iff.mp hlength]
      rfl
  | succ n ih =>
    cases text with
    | nil =>
      refine ⟨nofun, ?_⟩
      rintro ⟨htext, hlength, -⟩
      rw [(List.append_eq_nil_iff.mp htext.symm).1] at hlength
      cases hlength
    | cons c text =>
      unfold digits?
      constructor
      · intro h
        split at h
        · next hc =>
          obtain ⟨⟨tail, rest⟩, htail, h⟩ := Option.map_eq_some_iff.mp h
          obtain ⟨rfl, rfl⟩ := Prod.mk.inj h
          obtain ⟨rfl, hlength, hdecimal⟩ := ih.mp htail
          exact ⟨rfl, congrArg (· + 1) hlength, List.forall_mem_cons.mpr ⟨hc, hdecimal⟩⟩
        · cases h
      · rintro ⟨htext, hlength, hdecimal⟩
        obtain ⟨d, tail, rfl⟩ := List.exists_cons_of_length_eq_add_one hlength
        rw [List.cons_append] at htext
        obtain ⟨rfl, rfl⟩ := List.cons.inj htext
        obtain ⟨hc, htail⟩ := List.forall_mem_cons.mp hdecimal
        rw [if_pos hc, ih.mpr ⟨rfl, Nat.succ.inj hlength, htail⟩]
        rfl

theorem after?_eq_some_iff {mark : CodePoint} {text rest : Text} :
    after? mark text = some rest ↔ text = mark :: rest := by
  cases text with
  | nil => simp [after?]
  | cons c text =>
    have hstep : after? mark (c :: text) = if c = mark then some text else none := rfl
    by_cases h : c = mark
    · rw [hstep, if_pos h, h, Option.some_inj, List.cons_inj_right]
    · rw [hstep, if_neg h]
      simp [h]

theorem bind_digits? {α : Type} {n : Nat} {text : Text} {next : Text × Text → Option α} {a : α} :
    (digits? n text).bind next = some a ↔
      ∃ digits rest, text = digits ++ rest ∧ IsField n digits ∧ next (digits, rest) = some a := by
  simp only [Option.bind_eq_some_iff, Prod.exists, digits?_eq_some_iff, and_assoc]

theorem bind_after? {α : Type} {mark : CodePoint} {text : Text} {next : Text → Option α} {a : α} :
    (after? mark text).bind next = some a ↔ ∃ rest, text = mark :: rest ∧ next rest = some a := by
  simp only [Option.bind_eq_some_iff, after?_eq_some_iff]

/-- Nothing comes next that a fraction could begin or go on with. -/
def Stops (rest : Text) : Prop := ∀ c ∈ rest.head?, c ≠ '.' ∧ c.isDecimal = false

theorem fraction_of_fraction? {text fraction rest : Text}
    (h : fraction? text = some (fraction, rest)) :
    text = Form.fractionText fraction ++ rest ∧ ∀ c ∈ fraction, c.isDecimal = true := by
  unfold fraction? at h
  split at h
  · obtain ⟨rfl, rfl⟩ := Prod.mk.inj (Option.some.inj h)
    exact ⟨rfl, nofun⟩
  · next behind hbehind =>
    obtain rfl := after?_eq_some_iff.mp hbehind
    split at h
    · cases h
    · next digits rest' hne hspan =>
      obtain ⟨rfl, rfl⟩ := Prod.mk.inj (Option.some.inj h)
      obtain ⟨rfl, hdecimal⟩ := Text.run_of_span hspan
      refine ⟨?_, hdecimal⟩
      rw [Form.fractionText, if_neg hne]
      rfl

theorem fraction?_text {fraction rest : Text} (hdecimal : ∀ c ∈ fraction, c.isDecimal = true)
    (stops : Stops rest) :
    fraction? (Form.fractionText fraction ++ rest) = some (fraction, rest) := by
  cases fraction with
  | nil =>
    have hnone : after? '.' rest = none := by
      rw [Option.eq_none_iff_forall_ne_some]
      rintro behind hbehind
      obtain rfl := after?_eq_some_iff.mp hbehind
      exact (stops '.' rfl).1 rfl
    unfold fraction? Form.fractionText
    rw [if_pos rfl, List.nil_append, hnone]
  | cons c fraction =>
    have hsome : after? '.' (Form.fractionText (c :: fraction) ++ rest) =
        some (c :: fraction ++ rest) := after?_eq_some_iff.mpr rfl
    unfold fraction?
    rw [hsome]
    dsimp only
    rw [Text.span_run hdecimal fun d hd => (stops d hd).2]

theorem zone_of_zone? {text rest : Text} {zone : Zone} (h : zone? text = some (zone, rest)) :
    text = zone.text ++ rest ∧ zone.HasForm := by
  cases text with
  | nil => cases h
  | cons c text =>
    unfold zone? at h
    dsimp only at h
    split at h
    · next hc =>
      obtain ⟨rfl, rfl⟩ := Prod.mk.inj (Option.some.inj h)
      exact ⟨by rw [hc]; rfl, trivial⟩
    split at h
    · next hsign =>
      obtain ⟨hours, _, rfl, fieldHours, h⟩ := bind_digits?.mp h
      obtain ⟨_, rfl, h⟩ := bind_after?.mp h
      obtain ⟨minutes, _, rfl, fieldMinutes, h⟩ := bind_digits?.mp h
      obtain ⟨rfl, rfl⟩ := Prod.mk.inj (Option.some.inj h)
      refine ⟨?_, fieldHours, fieldMinutes⟩
      have hc : (if decide (c = '-') then ('-' : CodePoint) else ('+' : CodePoint)) = c := by
        rcases hsign with rfl | rfl <;> rfl
      rw [Zone.text, hc, List.cons_append, List.append_assoc, List.cons_append]
    · cases h

theorem zone?_text {zone : Zone} (h : zone.HasForm) (rest : Text) :
    zone? (zone.text ++ rest) = some (zone, rest) := by
  cases zone with
  | utc => rfl
  | offset negative hours minutes =>
    obtain ⟨fieldHours, fieldMinutes⟩ := h
    rw [Zone.text, List.cons_append, List.append_assoc, List.cons_append]
    cases negative
    all_goals
      unfold zone?
      dsimp only
      rw [if_neg (by decide), if_pos (by decide)]
      refine bind_digits?.mpr ⟨_, _, rfl, fieldHours, ?_⟩
      refine bind_after?.mpr ⟨_, rfl, ?_⟩
      exact bind_digits?.mpr ⟨_, _, rfl, fieldMinutes, rfl⟩

theorem Zone.text_stops (zone : Zone) (rest : Text) : Stops (zone.text ++ rest) := by
  intro c hc
  cases zone with
  | utc =>
    obtain rfl : ('Z' : CodePoint) = c := Option.some.inj hc
    decide
  | offset negative hours minutes =>
    have hsign : (if negative then ('-' : CodePoint) else ('+' : CodePoint)) = c :=
      Option.some.inj hc
    cases negative <;> subst hsign <;> decide

namespace Form

theorem form_of_read? {text : Text} {f : Form} (h : Form.read? text = some f) :
    text = f.text ∧ f.HasForm := by
  obtain ⟨year, _, rfl, hyear, h⟩ := bind_digits?.mp h
  obtain ⟨_, rfl, h⟩ := bind_after?.mp h
  obtain ⟨month, _, rfl, hmonth, h⟩ := bind_digits?.mp h
  obtain ⟨_, rfl, h⟩ := bind_after?.mp h
  obtain ⟨day, _, rfl, hday, h⟩ := bind_digits?.mp h
  obtain ⟨_, rfl, h⟩ := bind_after?.mp h
  obtain ⟨hour, _, rfl, hhour, h⟩ := bind_digits?.mp h
  obtain ⟨_, rfl, h⟩ := bind_after?.mp h
  obtain ⟨minute, _, rfl, hminute, h⟩ := bind_digits?.mp h
  obtain ⟨_, rfl, h⟩ := bind_after?.mp h
  obtain ⟨second, _, rfl, hsecond, h⟩ := bind_digits?.mp h
  obtain ⟨⟨fraction, behind⟩, hread, hbehind⟩ := Option.bind_eq_some_iff.mp h
  obtain ⟨⟨zone, rest⟩, hread', hend⟩ := Option.bind_eq_some_iff.mp hbehind
  obtain ⟨rfl, hfraction⟩ := fraction_of_fraction? hread
  obtain ⟨rfl, hzone⟩ := zone_of_zone? hread'
  have hrest : ∃ lineFeed : Bool, rest = (if lineFeed then [('\n' : CodePoint)] else []) ∧
      f = ⟨year, month, day, hour, minute, second, fraction, zone, lineFeed⟩ := by
    dsimp only at hend
    split at hend
    · exact ⟨false, rfl, (Option.some.inj hend).symm⟩
    · split at hend
      · next hc => exact ⟨true, by rw [hc]; rfl, (Option.some.inj hend).symm⟩
      · cases hend
    · cases hend
  obtain ⟨lineFeed, rfl, rfl⟩ := hrest
  exact ⟨rfl, hyear, hmonth, hday, hhour, hminute, hsecond, hfraction, hzone⟩

theorem read?_text {f : Form} (h : f.HasForm) : Form.read? f.text = some f := by
  have hfraction := fraction?_text h.fraction
    (f.zone.text_stops (if f.lineFeed then [('\n' : CodePoint)] else []))
  refine bind_digits?.mpr ⟨_, _, rfl, h.year, ?_⟩
  refine bind_after?.mpr ⟨_, rfl, ?_⟩
  refine bind_digits?.mpr ⟨_, _, rfl, h.month, ?_⟩
  refine bind_after?.mpr ⟨_, rfl, ?_⟩
  refine bind_digits?.mpr ⟨_, _, rfl, h.day, ?_⟩
  refine bind_after?.mpr ⟨_, rfl, ?_⟩
  refine bind_digits?.mpr ⟨_, _, rfl, h.hour, ?_⟩
  refine bind_after?.mpr ⟨_, rfl, ?_⟩
  refine bind_digits?.mpr ⟨_, _, rfl, h.minute, ?_⟩
  refine bind_after?.mpr ⟨_, rfl, ?_⟩
  refine bind_digits?.mpr ⟨_, _, rfl, h.second, ?_⟩
  refine Option.bind_eq_some_iff.mpr ⟨_, hfraction, ?_⟩
  refine Option.bind_eq_some_iff.mpr ⟨_, zone?_text h.zone _, ?_⟩
  obtain ⟨year, month, day, hour, minute, second, fraction, zone, lineFeed⟩ := f
  cases lineFeed <;> rfl

end Form

theorem isDigit_of_isDecimal {c : CodePoint} (ascii : c.isAscii = true) (h : c.isDecimal = true) :
    c.isDigit = true := by
  have hfew : ∀ n : Fin 128, (CodePoint.ofNat n.val).isDecimal = true →
      (CodePoint.ofNat n.val).isDigit = true := by decide +kernel
  have hlt : c.val < 128 := of_decide_eq_true ascii
  have hc := hfew ⟨c.val, hlt⟩
  rw [CodePoint.ofNat_val] at hc
  exact hc h

theorem isDecimal_of_isDigit {c : CodePoint} (h : c.isDigit = true) : c.isDecimal = true := by
  have hfirst : (0x30 ≤ c.val && c.val < 0x30 + 10) = true := by
    have := CodePoint.isDigit_iff.mp h
    simp
    omega
  rw [CodePoint.isDecimal, CodePoint.digitValue?, Option.isSome_map, List.find?_isSome]
  exact ⟨0x30, List.mem_cons_self, hfirst⟩

end Rfc3339

end Entitlement
