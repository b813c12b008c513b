import Entitlement.Proofs.License.Decision
import Entitlement.Proofs.License.Selection
import Entitlement.Proofs.Numeric.IntegerPart
import Entitlement.Proofs.Time.Rfc3339

/-! # The periods that a payload gives

The end of the validity that a payload gives is a number, and a license has its integer part
(`Json.number?`, `Payload.epoch?_eq`). The end `-1` stands for none, and the integer part alone is
looked at: so a license has no end where the number lies above `-2` and up to `-1`, and each other
number below zero is an end that lies behind every moment (`License.valid_iff_of_number`).

The end of the free period is a text, and a license has the moment that the text spells, or the
first moment (`moments_are_read_exactly`). -/

namespace Entitlement

/-- The fraction that a finite number in JSON is. -/
def Json.number? : Json → Option ℚ
  | .int i => some i
  | .float x => x.value?
  | _ => none

theorem Payload.epoch?_eq {j : Json} {v : ℚ} (h : j.number? = some v) :
    Payload.epoch? j = some (integerPart v) := by
  cases j with
  | int i =>
    obtain rfl : (i : ℚ) = v := Option.some.inj h
    exact congrArg some (integerPart_intCast i).symm
  | float x =>
    have hv : x.value? = some v := h
    calc Payload.epoch? (.float x) = x.value?.map integerPart := x.truncate?_eq
      _ = some (integerPart v) := by rw [hv, Option.map_some]
  | _ => cases h

namespace License

open Payload

variable {payload : Document} {members : Members} {organization : Uuid} {catalog : Catalog}
  {stamp : DateTime} {l : License} {j : Json} {v : ℚ}

theorem validUntil_of_number (hdecode : Payload.decode payload = .ok members)
    (huntil : Members.get? members "valid_until" = some j) (hnumber : j.number? = some v)
    (hparse : parse payload organization catalog stamp = .ok l) :
    l.terms.validUntil = integerPart v := by
  rw [(describes_of_parse hdecode hparse).validUntil, readOr, huntil, Option.bind_some,
    epoch?_eq hnumber, Option.getD_some]

/-- **When the license of a payload is valid.** Where the end that a payload gives is the number
`v`, the license is valid at a moment just when the integer part of `v` is `-1` or lies behind that
moment. So a license with an end below zero is valid at all just when `v` lies above `-2` and up to
`-1`, and `v` itself may stand in the place of its integer part, as an end that stands for none,
just when `v` does not lie between `-2` and `-1`. -/
theorem valid_iff_of_number (hdecode : Payload.decode payload = .ok members)
    (huntil : Members.get? members "valid_until" = some j) (hnumber : j.number? = some v)
    (hparse : parse payload organization catalog stamp = .ok l) :
    (∀ now : Int, 0 ≤ now →
      (l.isValidAt now = true ↔ integerPart v = -1 ∨ now < integerPart v)) ∧
    (v < 0 → ((∃ now : Int, 0 ≤ now ∧ l.isValidAt now = true) ↔ -2 < v ∧ v ≤ -1)) ∧
    ((∀ now : Int, 0 ≤ now → (l.isValidAt now = true ↔ v = -1 ∨ now < integerPart v)) ↔
      ¬ (-2 < v ∧ v < -1)) := by
  have hvalid : ∀ now : Int,
      l.isValidAt now = true ↔ integerPart v = -1 ∨ now < integerPart v := by
    intro now
    rw [isValidAt_iff, validUntil_of_number hdecode huntil hnumber hparse]
  refine ⟨fun now _ => hvalid now, ?_, ?_⟩
  · intro hv
    have hpart : integerPart v ≤ 0 := integerPart_nonpos hv
    rw [← integerPart_eq_neg_one_iff]
    constructor
    · rintro ⟨now, hnow, h⟩
      rcases (hvalid now).mp h with hopen | hend
      · exact hopen
      · omega
    · intro hopen
      exact ⟨0, le_rfl, (hvalid 0).mpr (.inl hopen)⟩
  · constructor
    · rintro hexact ⟨hlow, hhigh⟩
      have hopen : integerPart v = -1 := integerPart_eq_neg_one_iff.mpr ⟨hlow, hhigh.le⟩
      rcases (hexact 0 le_rfl).mp ((hvalid 0).mpr (.inl hopen)) with heq | hend
      · exact hhigh.ne heq
      · omega
    · intro hout now _
      rw [hvalid, integerPart_eq_neg_one_iff]
      refine or_congr_left ⟨?_, ?_⟩
      · rintro ⟨hlow, hhigh⟩
        by_contra hne
        exact hout ⟨hlow, lt_of_le_of_ne hhigh hne⟩
      · rintro rfl
        norm_num

/-! ### An end between two integers -/

/-- A payload with what is required, and one more member. -/
def payloadWith (member : Text) : Document :=
  .text (("\x7b\"key\": \"K\", \"id\": \"00000000000000000000000000000001\", " : Text)
    ++ ("\"status\": \"S\", \"plan\": \x7b\"name\": \"P\"\x7d, " : Text) ++ member
    ++ ("\x7d" : Text))

/-- Its members. -/
def membersWith (name : Text) (v : Json) : Members :=
  [("key", .string "K"), ("id", .string "00000000000000000000000000000001"),
    ("status", .string "S"), ("plan", .object [("name", .string "P")]), (name, v)]

theorem membersWith_met (name : Text) (v : Json) (r : Requirement) :
    Requirement.Met (membersWith name v) r := by
  cases r with
  | uuid => exact ⟨_, rfl, _, ⟨⟨1, by decide⟩⟩, rfl, by decide +kernel⟩
  | id | key | status | plan | planName => exact ⟨_, rfl, _, rfl⟩

/-- The last bits of one and a half. -/
def halfBits : Fin (Nat.pow 2 52) := Binary64.fractionOf (Nat.pow 2 51)

/-- The power of two of one and a half. -/
def halfExponent : Fin 2047 := ⟨1023, by decide⟩

/-- The number `-1.5`. -/
def fractionEnd : Json := .float (.finite true halfExponent halfBits)

/-- A payload that ends one and a half before the first second. -/
def fractionPayload : Document := payloadWith "\"valid_until\": -1.5"

theorem decode_fractionPayload :
    Payload.decode fractionPayload = .ok (membersWith "valid_until" fractionEnd) :=
  Outcome.eq_ok_of_toOption (by decide +kernel)

theorem number?_fractionEnd : fractionEnd.number? = some (-3 / 2 : ℚ) := by
  have hm : Binary64.magnitude halfExponent halfBits = 3 / 2 := by
    have hs : Binary64.significand halfExponent halfBits = 2 ^ 52 + 2 ^ 51 := by decide
    have hscale : Binary64.scale halfExponent = -52 := by decide
    rw [Binary64.magnitude, hs, hscale]
    norm_num
  calc fractionEnd.number? = some (-Binary64.magnitude halfExponent halfBits) := rfl
    _ = some (-3 / 2 : ℚ) := by rw [hm, neg_div]

theorem integerPart_fractionEnd : integerPart (-3 / 2) = -1 := by
  rw [integerPart_eq_neg_one_iff]
  norm_num

theorem fractionPayload_parses :
    ∃ l, parse fractionPayload .nil Catalog.standard DateTime.first = .ok l :=
  parse_of_met decode_fractionPayload (membersWith_met _ _) .nil Catalog.standard DateTime.first

theorem fractionPayload_is_always_valid :
    ∃ l, parse fractionPayload .nil Catalog.standard DateTime.first = .ok l ∧
      ∀ now : Int, 0 ≤ now → l.isValidAt now = true := by
  obtain ⟨l, hparse⟩ := fractionPayload_parses
  obtain ⟨hvalid, -, -⟩ := valid_iff_of_number decode_fractionPayload rfl number?_fractionEnd hparse
  exact ⟨l, hparse, fun now hnow => (hvalid now hnow).mpr (.inl integerPart_fractionEnd)⟩

/-- The end `-1.5` is cut to `-1`, so the license never ends. -/
theorem not_only_minus_one_is_open_ended :
    ¬ ∀ (payload : Document) (members : Members) (j : Json) (v : ℚ) (organization : Uuid)
      (catalog : Catalog) (stamp : DateTime) (l : License),
      Payload.decode payload = .ok members → Members.get? members "valid_until" = some j →
        j.number? = some v → parse payload organization catalog stamp = .ok l →
          ∀ now : Int, 0 ≤ now → (l.isValidAt now = true ↔ v = -1 ∨ now < integerPart v) := by
  intro only
  obtain ⟨l, hparse⟩ := fractionPayload_parses
  have hopen : l.isValidAt 0 = true := by
    have huntil := validUntil_of_number decode_fractionPayload rfl number?_fractionEnd hparse
    exact isValidAt_iff.mpr (.inl (huntil.trans integerPart_fractionEnd))
  have huntil : Members.get? (membersWith "valid_until" fractionEnd) "valid_until" =
      some fractionEnd := rfl
  have hvalid := only fractionPayload _ fractionEnd _ .nil Catalog.standard DateTime.first l
    decode_fractionPayload huntil number?_fractionEnd hparse 0 le_rfl
  rcases hvalid.mp hopen with heq | hend
  · norm_num at heq
  · rw [integerPart_fractionEnd] at hend
    omega

/-! ### The free period -/

theorem freeUntil_of_text {text : Text} (hdecode : Payload.decode payload = .ok members)
    (huntil : Members.get? members "free_until" = some (.string text))
    (hparse : parse payload organization catalog stamp = .ok l) :
    l.terms.freeUntil = (Rfc3339.read text).toOption.getD DateTime.first := by
  rw [(describes_of_parse hdecode hparse).freeUntil, readOr, huntil, Option.bind_some,
    ← Rfc3339.read?_eq]
  rfl

end License

open Rfc3339 in
/-- **Moments are read exactly.** An ASCII text is read just when it spells the fields of a real
moment, as that moment, and any other one is refused. So a moment that is written with an offset of
whole minutes is read again, with the same fields and the same offset, which is all that a
`DateTime` has. Where the end of the free period is a text that is refused, the payload
gives a license all the same, with the first moment in its place. -/
theorem moments_are_read_exactly :
    (∀ text : Text, (∀ c ∈ text, c.isAscii = true) →
      (∀ t, read text = .ok t ↔ Spells text t ∧ t.Valid) ∧
      ((∃ fault, read text = .error fault) ↔ ∀ t, Spells text t → ¬ t.Valid)) ∧
    (∀ (t : DateTime) (offset : Int), t.Valid → t.offset = some offset →
      (minuteLength : Int) ∣ offset → read t.text = .ok t) ∧
    ∀ (payload : Document) (members : Members) (text : Text),
      Payload.decode payload = .ok members →
      Members.get? members "free_until" = some (.string text) →
      (∀ r, Payload.Requirement.Met members r) →
      ∀ (organization : Uuid) (catalog : Catalog) (stamp : DateTime),
        ∃ l, License.parse payload organization catalog stamp = .ok l ∧
          (∀ t, read text = .ok t → l.terms.freeUntil = t) ∧
          ∀ fault, read text = .error fault → l.terms.freeUntil = DateTime.first := by
  refine ⟨fun text ascii => ⟨fun t => read_eq_ok_iff ascii, ?_⟩, ?_, ?_⟩
  · constructor
    · rintro ⟨fault, hfault⟩ t spells hvalid
      rw [read_of_spells spells hvalid] at hfault
      cases hfault
    · intro hno
      cases hread : read text with
      | error fault => exact ⟨fault, rfl⟩
      | ok t =>
        obtain ⟨spells, hvalid⟩ := (read_eq_ok_iff ascii).mp hread
        exact absurd hvalid (hno t spells)
  · intro t offset hvalid hoffset hminutes
    exact read_of_spells (spells_text hvalid hoffset hminutes) hvalid
  · intro payload members text hdecode huntil met organization catalog stamp
    obtain ⟨l, hparse⟩ := License.parse_of_met hdecode met organization catalog stamp
    have hfree := License.freeUntil_of_text hdecode huntil hparse
    refine ⟨l, hparse, ?_, ?_⟩
    · intro t hread
      rw [hfree, hread]
      rfl
    · intro fault hread
      rw [hfree, hread]
      rfl

/-! ### The last day of a February -/

/-- A moment of a leap year, with a digit more than is kept. -/
def leapText : Text := "2024-02-29T23:59:59.1234567-23:59"

def leapMoment : DateTime := ⟨⟨2024, 2, 29⟩, 23, 59, 59, 123456, some (-86340000000)⟩

/-- A payload with a day that no calendar has. -/
def leaplessPayload : Document := License.payloadWith "\"free_until\": \"2023-02-29T00:00:00Z\""

open Rfc3339 in
theorem leapText_is_read :
    (Spells leapText leapMoment ∧ leapMoment.Valid) ∧
      (∀ t, Spells (leapText ++ ("\n" : Text)) t → ¬ t.Valid) ∧
      read leapMoment.text = .ok leapMoment ∧
      ∃ l, License.parse leaplessPayload .nil Catalog.standard DateTime.first = .ok l ∧
        l.terms.freeUntil = DateTime.first := by
  obtain ⟨hread, hwrite, hpayload⟩ := moments_are_read_exactly
  have hdecode : Payload.decode leaplessPayload =
      .ok (License.membersWith "free_until" (.string "2023-02-29T00:00:00Z")) :=
    Outcome.eq_ok_of_toOption (by decide +kernel)
  have hleap : read leapText = .ok leapMoment := by decide +kernel
  have hnext : read (leapText ++ ("\n" : Text)) = .error .moment := by decide +kernel
  have hday : read "2023-02-29T00:00:00Z" = .error .moment := by decide +kernel
  obtain ⟨l, hparse, -, hfirst⟩ := hpayload leaplessPayload _ _ hdecode rfl
    (License.membersWith_met _ _) .nil Catalog.standard DateTime.first
  refine ⟨((hread leapText (List.all_eq_true.mp rfl)).1 leapMoment).mp hleap,
    (hread (leapText ++ ("\n" : Text)) (List.all_eq_true.mp rfl)).2.mp ⟨_, hnext⟩, ?_, l, hparse,
    hfirst _ hday⟩
  exact hwrite leapMoment _ (by decide) rfl (by decide)

end Entitlement
