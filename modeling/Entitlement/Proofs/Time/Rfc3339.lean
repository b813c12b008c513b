import Entitlement.Proofs.Time.Form

/-! # Texts of RFC 3339

What it means that a text spells a date-time is said without the reader (`Spells`): fields of ASCII
digits between their marks, a fraction that is cut to microseconds (`SpellsFraction`), and an offset
(`SpellsOffset`). A text that spells a real moment is read as that moment (`read_of_spells`), and an
ASCII text is read in no other case (`read_eq_ok_iff`). A moment is written as a text that spells
it, where its offset is whole minutes (`spells_text`). -/

namespace Entitlement

namespace Rfc3339

/-! ### What a text spells -/

/-- ASCII digits, as many as a field has, and the number that they stand for. -/
structure SpellsNumber (length : Nat) (text : Text) (n : Nat) : Prop where
  length_eq : text.length = length
  digits : ∀ c ∈ text, c.isDigit = true
  value : text.digitsValue = n

/-- A point and at least one digit, or nothing, and the microseconds that the fraction is cut to. -/
inductive SpellsFraction : Text → (microsecond : Nat) → Prop
  | none : SpellsFraction [] 0
  | some {digits : Text} (hne : digits ≠ []) (hdigits : ∀ c ∈ digits, c.isDigit = true) :
    SpellsFraction (('.' : CodePoint) :: digits)
      (Text.digitsValue digits * DateTime.secondLength / 10 ^ digits.length)

/-- The microseconds of hours and minutes. -/
def span (hours minutes : Nat) : Int :=
  ((hours * 3600 + minutes * 60) * DateTime.secondLength : Nat)

/-- `Z`, or a sign with hours and minutes, and the microseconds of the offset. -/
inductive SpellsOffset : Text → (offset : Int) → Prop
  | utc : SpellsOffset [('Z' : CodePoint)] 0
  | ahead {hours minutes : Text} {h m : Nat} (hhours : SpellsNumber 2 hours h)
    (hminutes : SpellsNumber 2 minutes m) :
    SpellsOffset (('+' : CodePoint) :: (hours ++ (':' : CodePoint) :: minutes)) (span h m)
  | behind {hours minutes : Text} {h m : Nat} (hhours : SpellsNumber 2 hours h)
    (hminutes : SpellsNumber 2 minutes m) :
    SpellsOffset (('-' : CodePoint) :: (hours ++ (':' : CodePoint) :: minutes)) (-span h m)

/-- **The text spells the fields of a date-time**: `YYYY-MM-DDTHH:MM:SS`, a fraction that may be
left out, and an offset, with nothing before and behind. -/
inductive Spells : Text → DateTime → Prop
  | intro {year month day hour minute second fraction zone : Text} {t : DateTime} {offset : Int}
    (hyear : SpellsNumber 4 year t.date.year) (hmonth : SpellsNumber 2 month t.date.month)
    (hday : SpellsNumber 2 day t.date.day) (hhour : SpellsNumber 2 hour t.hour)
    (hminute : SpellsNumber 2 minute t.minute) (hsecond : SpellsNumber 2 second t.second)
    (hfraction : SpellsFraction fraction t.microsecond) (hzone : SpellsOffset zone offset)
    (hoffset : t.offset = some offset) :
    Spells (year ++ ('-' : CodePoint) :: (month ++ ('-' : CodePoint) :: (day ++ ('T' : CodePoint) ::
      (hour ++ (':' : CodePoint) :: (minute ++ (':' : CodePoint) :: (second ++
        (fraction ++ zone))))))) t

/-! ### The numbers of a form -/

theorem number?_eq_some_iff {digits : Text} {n : Nat} : Form.number? digits = some n ↔
    (∀ c ∈ digits, c.isDigit = true) ∧ Text.digitsValue digits = n := by
  unfold Form.number?
  rw [← List.all_eq_true]
  split
  · next h => simp [h]
  · next h => simp [h]

theorem spellsNumber_iff {length : Nat} {digits : Text} {n : Nat} :
    SpellsNumber length digits n ↔ IsField length digits ∧ Form.number? digits = some n := by
  rw [number?_eq_some_iff]
  constructor
  · rintro ⟨hlength, hdigits, hvalue⟩
    exact ⟨⟨hlength, fun c hc => isDecimal_of_isDigit (hdigits c hc)⟩, hdigits, hvalue⟩
  · rintro ⟨⟨hlength, -⟩, hdigits, hvalue⟩
    exact ⟨hlength, hdigits, hvalue⟩

theorem secondLength_eq : DateTime.secondLength = 10 ^ 6 := by
  norm_num [DateTime.secondLength]

/-- The first six digits, filled up with zeros, are the fraction cut to microseconds. -/
theorem microseconds?_digits {digits : Text} (h : ∀ c ∈ digits, c.isDigit = true) :
    Form.microseconds? digits =
      some (Text.digitsValue digits * DateTime.secondLength / 10 ^ digits.length) := by
  have hcounted : ∀ c ∈ digits.take 6, c.isDigit = true := fun c hc => h c (List.mem_of_mem_take hc)
  have hnumber : Form.number? (digits.take 6) = some (Text.digitsValue (digits.take 6)) :=
    number?_eq_some_iff.mpr ⟨hcounted, rfl⟩
  unfold Form.microseconds?
  dsimp only
  rw [hnumber, Option.map_some, Option.some_inj, List.length_take]
  have hten : ∀ {k : Nat}, 0 < 10 ^ k := Nat.pow_pos (by decide)
  rw [secondLength_eq, Nat.pow_eq]
  by_cases hfew : digits.length ≤ 6
  · rw [List.take_of_length_le hfew, min_eq_right hfew]
    refine (Nat.div_eq_of_eq_mul_left hten ?_).symm
    rw [Nat.mul_assoc, ← pow_add, Nat.sub_add_cancel hfew]
  · have hsix : 6 ≤ digits.length := by omega
    have hrest : Text.digitsValue (digits.drop 6) < 10 ^ (digits.length - 6) := by
      rw [← List.length_drop]
      exact Text.digitsValue_lt fun c hc => h c (List.mem_of_mem_drop hc)
    have hvalue : Text.digitsValue digits =
        Text.digitsValue (digits.take 6) * 10 ^ (digits.length - 6) +
          Text.digitsValue (digits.drop 6) := by
      conv_lhs => rw [← List.take_append_drop 6 digits]
      rw [Text.digitsValue_append, List.length_drop]
    have hpow : (10 : Nat) ^ digits.length = 10 ^ (digits.length - 6) * 10 ^ 6 := by
      rw [← pow_add, Nat.sub_add_cancel hsix]
    rw [min_eq_left hsix, Nat.sub_self, pow_zero, Nat.mul_one, hpow,
      Nat.mul_div_mul_right _ _ hten, hvalue, Nat.add_comm,
      Nat.add_mul_div_right _ _ hten, Nat.div_eq_of_lt hrest, Nat.zero_add]

theorem value?_eq_some_iff {f : Form} {t : DateTime} : f.value? = some t ↔
    f.lineFeed = false ∧ Form.number? f.year = some t.date.year ∧
      Form.number? f.month = some t.date.month ∧ Form.number? f.day = some t.date.day ∧
      Form.number? f.hour = some t.hour ∧ Form.number? f.minute = some t.minute ∧
      Form.number? f.second = some t.second ∧ Form.microseconds? f.fraction = some t.microsecond ∧
      (∃ offset, Form.offset? f.zone = some offset ∧ t.offset = some offset) ∧ t.Valid := by
  constructor
  · intro h
    unfold Form.value? at h
    split at h
    · cases h
    · next hfeed =>
      obtain ⟨year, hyear, h⟩ := Option.bind_eq_some_iff.mp h
      obtain ⟨month, hmonth, h⟩ := Option.bind_eq_some_iff.mp h
      obtain ⟨day, hday, h⟩ := Option.bind_eq_some_iff.mp h
      obtain ⟨hour, hhour, h⟩ := Option.bind_eq_some_iff.mp h
      obtain ⟨minute, hminute, h⟩ := Option.bind_eq_some_iff.mp h
      obtain ⟨second, hsecond, h⟩ := Option.bind_eq_some_iff.mp h
      obtain ⟨microsecond, hmicrosecond, h⟩ := Option.bind_eq_some_iff.mp h
      obtain ⟨offset, hoffset, h⟩ := Option.bind_eq_some_iff.mp h
      dsimp only at h
      split at h
      · next hvalid =>
        obtain rfl := Option.some.inj h
        exact ⟨by simpa using hfeed, hyear, hmonth, hday, hhour, hminute, hsecond, hmicrosecond,
          ⟨offset, hoffset, rfl⟩, hvalid⟩
      · cases h
  · obtain ⟨⟨year, month, day⟩, hour, minute, second, microsecond, offset?⟩ := t
    rintro ⟨hfeed, hyear, hmonth, hday, hhour, hminute, hsecond, hmicrosecond,
      ⟨offset, hoffset, rfl⟩, hvalid⟩
    unfold Form.value?
    rw [hfeed, hyear, hmonth, hday, hhour, hminute, hsecond, hmicrosecond, hoffset]
    exact if_pos hvalid

/-! ### A text that spells a date-time is the text of a form -/

theorem spellsFraction_iff {text : Text} {microsecond : Nat} :
    SpellsFraction text microsecond ↔ ∃ digits, text = Form.fractionText digits ∧
      (∀ c ∈ digits, c.isDigit = true) ∧ Form.microseconds? digits = some microsecond := by
  constructor
  · intro h
    cases h with
    | none => exact ⟨[], rfl, nofun, rfl⟩
    | @some digits hne hdigits =>
      exact ⟨digits, (if_neg hne).symm, hdigits, microseconds?_digits hdigits⟩
  · rintro ⟨digits, rfl, hdigits, hmicrosecond⟩
    rw [microseconds?_digits hdigits] at hmicrosecond
    obtain rfl := Option.some.inj hmicrosecond
    unfold Form.fractionText
    split
    · next hnil =>
      rw [hnil]
      exact .none
    · next hne => exact .some hne hdigits

theorem offset?_eq_some_iff {negative : Bool} {hours minutes : Text} {offset : Int} :
    Form.offset? (.offset negative hours minutes) = some offset ↔
      ∃ h m, Form.number? hours = some h ∧ Form.number? minutes = some m ∧
        offset = if negative then -span h m else span h m := by
  unfold span
  constructor
  · intro h
    obtain ⟨hour, hhour, h⟩ := Option.bind_eq_some_iff.mp h
    obtain ⟨minute, hminute, h⟩ := Option.bind_eq_some_iff.mp h
    exact ⟨hour, minute, hhour, hminute, (Option.some.inj h).symm⟩
  · rintro ⟨hour, minute, hhour, hminute, rfl⟩
    unfold Form.offset?
    dsimp only
    rw [hhour, hminute]
    rfl

theorem spellsOffset_iff {text : Text} {offset : Int} :
    SpellsOffset text offset ↔
      ∃ zone : Zone, text = zone.text ∧ zone.HasForm ∧ Form.offset? zone = some offset := by
  constructor
  · intro h
    cases h with
    | utc => exact ⟨.utc, rfl, trivial, rfl⟩
    | @ahead hours minutes h m hhours hminutes =>
      rw [spellsNumber_iff] at hhours hminutes
      exact ⟨.offset false hours minutes, rfl, ⟨hhours.1, hminutes.1⟩,
        offset?_eq_some_iff.mpr ⟨h, m, hhours.2, hminutes.2, (if_neg Bool.false_ne_true).symm⟩⟩
    | @behind hours minutes h m hhours hminutes =>
      rw [spellsNumber_iff] at hhours hminutes
      exact ⟨.offset true hours minutes, rfl, ⟨hhours.1, hminutes.1⟩,
        offset?_eq_some_iff.mpr ⟨h, m, hhours.2, hminutes.2, (if_pos rfl).symm⟩⟩
  · rintro ⟨zone, rfl, hform, hoffset⟩
    cases zone with
    | utc =>
      obtain rfl : 0 = offset := Option.some.inj hoffset
      exact .utc
    | offset negative hours minutes =>
      obtain ⟨h, m, hhours, hminutes, rfl⟩ := offset?_eq_some_iff.mp hoffset
      have spellsHours := spellsNumber_iff.mpr ⟨hform.1, hhours⟩
      have spellsMinutes := spellsNumber_iff.mpr ⟨hform.2, hminutes⟩
      cases negative with
      | false =>
        rw [if_neg Bool.false_ne_true]
        exact .ahead spellsHours spellsMinutes
      | true =>
        rw [if_pos rfl]
        exact .behind spellsHours spellsMinutes

/-- **What is spelled is what a form of ASCII digits names.** -/
theorem spells_valid_iff {text : Text} {t : DateTime} :
    Spells text t ∧ t.Valid ↔ ∃ f : Form, text = f.text ∧ f.HasForm ∧
      (∀ c ∈ f.fraction, c.isDigit = true) ∧ f.value? = some t := by
  simp only [value?_eq_some_iff]
  constructor
  · rintro ⟨spells, hvalid⟩
    cases spells with
    | @intro year month day hour minute second fraction zone _ offset hyear hmonth hday hhour
        hminute hsecond hfraction hzone hoffset =>
      rw [spellsNumber_iff] at hyear hmonth hday hhour hminute hsecond
      obtain ⟨fraction, rfl, hdigits, hmicrosecond⟩ := spellsFraction_iff.mp hfraction
      obtain ⟨zone, rfl, formZone, hnumber⟩ := spellsOffset_iff.mp hzone
      refine ⟨⟨year, month, day, hour, minute, second, fraction, zone, false⟩, ?_, ?_, hdigits, rfl,
        hyear.2, hmonth.2, hday.2, hhour.2, hminute.2, hsecond.2, hmicrosecond,
        ⟨offset, hnumber, hoffset⟩, hvalid⟩
      · simp [Form.text]
      · exact ⟨hyear.1, hmonth.1, hday.1, hhour.1, hminute.1, hsecond.1,
          fun c hc => isDecimal_of_isDigit (hdigits c hc), formZone⟩
  · rintro ⟨f, rfl, form, hdigits, hfeed, hyear, hmonth, hday, hhour, hminute, hsecond,
      hmicrosecond, ⟨offset, hnumber, hoffset⟩, hvalid⟩
    have hfraction := spellsFraction_iff.mpr ⟨f.fraction, rfl, hdigits, hmicrosecond⟩
    have hzone := spellsOffset_iff.mpr ⟨f.zone, rfl, form.zone, hnumber⟩
    refine ⟨?_, hvalid⟩
    rw [Form.text, hfeed, if_neg Bool.false_ne_true, List.append_nil]
    exact .intro (spellsNumber_iff.mpr ⟨form.year, hyear⟩)
      (spellsNumber_iff.mpr ⟨form.month, hmonth⟩) (spellsNumber_iff.mpr ⟨form.day, hday⟩)
      (spellsNumber_iff.mpr ⟨form.hour, hhour⟩) (spellsNumber_iff.mpr ⟨form.minute, hminute⟩)
      (spellsNumber_iff.mpr ⟨form.second, hsecond⟩) hfraction hzone hoffset

/-! ### What is read -/

theorem read_eq_ok {text : Text} {t : DateTime} :
    read text = .ok t ↔ ∃ f, Form.read? text = some f ∧ f.value? = some t := by
  unfold read
  cases Form.read? text with
  | none => simp
  | some f =>
    simp only [Option.some_inj, exists_eq_left']
    cases f.value? with
    | none => simp
    | some t' => simp

theorem Form.mem_text_of_fraction {f : Form} {c : CodePoint} (h : c ∈ f.fraction) : c ∈ f.text := by
  have hne : f.fraction ≠ [] := List.ne_nil_of_mem h
  simp [Form.text, Form.fractionText, if_neg hne, h]

theorem read_of_spells {text : Text} {t : DateTime} (h : Spells text t) (hvalid : t.Valid) :
    read text = .ok t := by
  obtain ⟨f, rfl, form, -, hvalue⟩ := spells_valid_iff.mp ⟨h, hvalid⟩
  exact read_eq_ok.mpr ⟨f, Form.read?_text form, hvalue⟩

/-- **What is read of an ASCII text**: the date-time that it spells, where that is a real one. -/
theorem read_eq_ok_iff {text : Text} (ascii : ∀ c ∈ text, c.isAscii = true) {t : DateTime} :
    read text = .ok t ↔ Spells text t ∧ t.Valid := by
  constructor
  · intro h
    obtain ⟨f, hread, hvalue⟩ := read_eq_ok.mp h
    obtain ⟨rfl, form⟩ := Form.form_of_read? hread
    refine spells_valid_iff.mpr ⟨f, rfl, form, fun c hc => ?_, hvalue⟩
    exact isDigit_of_isDecimal (ascii c (Form.mem_text_of_fraction hc)) (form.fraction c hc)
  · rintro ⟨spells, hvalid⟩
    exact read_of_spells spells hvalid

theorem read?_eq (text : Text) : read? text = (read text).toOption := by
  unfold read? read
  cases Form.read? text with
  | none => rfl
  | some f => cases h : f.value? <;> simp [h, Except.toOption]

/-! ### What is written is spelled -/

theorem spellsNumber_padded {length n : Nat} (hpos : 0 < length) (h : n < 10 ^ length) :
    SpellsNumber length (Text.padded length n) n := by
  refine ⟨?_, Text.isDigit_of_mem_padded length n, Text.digitsValue_padded length n⟩
  have hle := Text.length_decimal_le hpos h
  unfold Text.padded
  dsimp only
  rw [List.length_append, List.length_replicate, Nat.sub_add_cancel hle]

theorem spellsNumber_two {n : Nat} (h : n < 100) : SpellsNumber 2 (DateTime.two n) n :=
  spellsNumber_padded (by decide) h

theorem spellsFraction_text {microsecond : Nat} (h : microsecond < DateTime.secondLength) :
    SpellsFraction (DateTime.fractionText microsecond) microsecond := by
  unfold DateTime.fractionText
  split
  · next hzero =>
    rw [hzero]
    exact .none
  · obtain ⟨hlength, hdigits, hvalue⟩ : SpellsNumber 6 (Text.padded 6 microsecond) microsecond :=
      spellsNumber_padded (by decide) (by rwa [← secondLength_eq])
    have hne : Text.padded 6 microsecond ≠ [] := by
      intro hnil
      rw [hnil] at hlength
      cases hlength
    have hfraction := SpellsFraction.some hne hdigits
    rw [hvalue, hlength] at hfraction
    have hcut : microsecond * DateTime.secondLength / 10 ^ 6 = microsecond := by
      rw [secondLength_eq]
      exact Nat.mul_div_cancel microsecond (Nat.pow_pos (by decide))
    rw [hcut] at hfraction
    exact hfraction

/-- The microseconds of a minute. -/
def minuteLength : Nat := 60 * DateTime.secondLength

theorem span_minutes (n : Nat) : span (n / 60) (n % 60) = (n * minuteLength : Nat) := by
  have hsplit : n / 60 * 3600 + n % 60 * 60 = n * 60 := by omega
  rw [span, hsplit, Nat.mul_assoc]
  rfl

theorem offsetText_minutes {offset : Int} {n : Nat} (h : offset.natAbs = n * minuteLength) :
    DateTime.offsetText offset = (if offset < 0 then ('-' : CodePoint) else ('+' : CodePoint)) ::
      (DateTime.two (n / 60) ++ (':' : CodePoint) :: DateTime.two (n % 60)) := by
  have hlength : n * minuteLength = n * 60 * DateTime.secondLength := (Nat.mul_assoc ..).symm
  have hseconds : offset.natAbs / DateTime.secondLength = n * 60 := by
    rw [h, hlength, Nat.mul_div_cancel _ (by decide)]
  have hwhole : offset.natAbs % (60 * DateTime.secondLength) = 0 := by
    rw [h]
    exact Nat.mul_mod_left ..
  have hhour : n * 60 / 3600 = n / 60 := by omega
  have hminute : n * 60 / 60 % 60 = n % 60 := by omega
  unfold DateTime.offsetText
  dsimp only
  rw [hseconds, if_pos hwhole, hhour, hminute]
  have hsign : (if offset < 0 then ("-" : Text) else "+") =
      [if offset < 0 then ('-' : CodePoint) else ('+' : CodePoint)] := by
    split <;> rfl
  rw [hsign, show Text.ofString "" = [] from rfl, List.append_nil, List.append_assoc,
    List.append_assoc]
  rfl

theorem spellsOffset_text {offset : Int} (hlow : -(DateTime.dayLength : Int) < offset)
    (hhigh : offset < DateTime.dayLength) (hminutes : (minuteLength : Int) ∣ offset) :
    SpellsOffset (DateTime.offsetText offset) offset := by
  obtain ⟨n, hn⟩ : minuteLength ∣ offset.natAbs := Int.natCast_dvd.mp hminutes
  rw [Nat.mul_comm] at hn
  have hbound : n < 1440 := by
    refine Nat.lt_of_mul_lt_mul_right (a := minuteLength) ?_
    rw [← hn]
    have : 1440 * minuteLength = DateTime.dayLength := by decide
    omega
  have spellsHours := spellsNumber_two (n := n / 60) (by omega)
  have spellsMinutes := spellsNumber_two (n := n % 60) (by omega)
  rw [offsetText_minutes hn]
  split
  · have hvalue : offset = -span (n / 60) (n % 60) := by
      rw [span_minutes]
      omega
    rw [hvalue]
    exact .behind spellsHours spellsMinutes
  · have hvalue : offset = span (n / 60) (n % 60) := by
      rw [span_minutes]
      omega
    rw [hvalue]
    exact .ahead spellsHours spellsMinutes

theorem daysInMonth_le (year month : Nat) : Calendar.daysInMonth year month ≤ 31 := by
  unfold Calendar.daysInMonth
  split
  · split <;> omega
  · split <;> omega

theorem spells_text {t : DateTime} {offset : Int} (hvalid : t.Valid)
    (hoffset : t.offset = some offset) (hminutes : (minuteLength : Int) ∣ offset) : Spells t.text t := by
  obtain ⟨⟨-, hyear, -, hmonth, -, hday⟩, hhour, hminute, hsecond, hmicrosecond, hzone⟩ := hvalid
  obtain ⟨hlow, hhigh⟩ := hzone offset hoffset
  have hday' : t.date.day < 100 := by
    have := daysInMonth_le t.date.year t.date.month
    omega
  have hyear' : t.date.year < 10 ^ 4 := by
    have : t.date.year ≤ 9999 := hyear
    omega
  have spells := Spells.intro (spellsNumber_padded (by decide) hyear')
    (spellsNumber_two (n := t.date.month) (by omega)) (spellsNumber_two hday')
    (spellsNumber_two (n := t.hour) (by omega)) (spellsNumber_two (n := t.minute) (by omega))
    (spellsNumber_two (n := t.second) (by omega)) (spellsFraction_text hmicrosecond)
    (spellsOffset_text hlow hhigh hminutes) hoffset
  unfold DateTime.text
  rw [hoffset]
  exact spells

end Rfc3339

end Entitlement
