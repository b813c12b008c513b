import Entitlement.Proofs.Identifier
import Entitlement.Proofs.Session.Run
import Entitlement.Web.Organization

/-! # The organization that a header names

A header names an organization if its text spells the id of it in 32 hexadecimal digits
(`NamesOrganization`). Such a header is read, and so is one whose text writes an id with more than
digits in it, as the reader of integers allows (`SlipsThrough`); any other header is refused. Where
an id is read, it is set in its canonical form as the organization at work, and where the header is
refused, nothing is changed (`organization_is_read_iff`). -/

namespace Entitlement

namespace Web

open Entitlement.Task

/-- The text of the header spells the id of the organization. -/
def NamesOrganization (header : Option Text) (organization : Uuid) : Prop :=
  ∃ t, header = some t ∧ Uuid.Spells t organization

/-- The text of the header writes an id, but not in digits alone. -/
def SlipsThrough (header : Option Text) (organization : Uuid) : Prop :=
  ∃ t, header = some t ∧ Uuid.Writes t organization ∧ ∃ c ∈ Uuid.core t, c.isHex = false

variable {header : Option Text} {organization : Uuid}

/-! ### Reading a header -/

theorem organizationOf_cons (c : CodePoint) (t : Text) : organizationOf (some (c :: t)) =
    match Uuid.read? (c :: t) with
    | some id => .ok id
    | none => .error (organizationRefusal " header is not a valid uuid") := rfl

theorem organizationOf_eq_ok_iff : organizationOf header = .ok organization ↔
    ∃ t, header = some t ∧ Uuid.Writes t organization := by
  cases header with
  | none =>
    refine iff_of_false (fun h => ?_) fun ⟨_, h, _⟩ => ?_
    · cases h
    · cases h
  | some t =>
    have hsome : (∃ t', some t = some t' ∧ Uuid.Writes t' organization) ↔
        Uuid.Writes t organization :=
      ⟨fun ⟨_, h, hwrites⟩ => Option.some.inj h ▸ hwrites, fun h => ⟨t, rfl, h⟩⟩
    rw [hsome]
    cases t with
    | nil =>
      refine iff_of_false (fun h => ?_) fun h => absurd h.length (by decide)
      cases h
    | cons c t =>
      rw [← Uuid.read?_eq_some_iff, organizationOf_cons]
      cases Uuid.read? (c :: t) with
      | none => exact ⟨nofun, nofun⟩
      | some u => exact ⟨fun h => congrArg some (Except.ok.inj h),
          fun h => congrArg Except.ok (Option.some.inj h)⟩

/-- What a header is refused with. -/
def headerFault (header : Option Text) : Fault :=
  organizationRefusal
    (if header.getD [] = [] then " header is missing" else " header is not a valid uuid")

theorem organizationOf_cases (header : Option Text) :
    (∃ organization, organizationOf header = .ok organization) ∨
      organizationOf header = .error (headerFault header) := by
  cases header with
  | none => exact .inr rfl
  | some t =>
    cases t with
    | nil => exact .inr rfl
    | cons c t =>
      rw [organizationOf_cons]
      cases Uuid.read? (c :: t) with
      | none => exact .inr rfl
      | some u => exact .inl ⟨u, rfl⟩

theorem enterOrganization_exec (h : organizationOf header = .ok organization) (s : Session) :
    (enterOrganization header).exec s = (.ok organization,
      s.mapContext fun c => { c with organization := some organization.text }) := by
  unfold enterOrganization
  rw [exec_ofExcept_bind, h]
  rfl

theorem enterOrganization_error {fault : Fault} (h : organizationOf header = .error fault)
    (s : Session) : (enterOrganization header).exec s = (.error fault, s) := by
  unfold enterOrganization
  rw [exec_ofExcept_bind, h]

theorem enterOrganization_outcome (header : Option Text) (s : Session) :
    ((enterOrganization header).exec s).1 = organizationOf header := by
  cases h : organizationOf header with
  | error fault => rw [enterOrganization_error h]
  | ok organization => rw [enterOrganization_exec h]

/-! ### Which headers are read -/

/-- A header that writes an id names the organization, or slips through. -/
theorem writes_iff : (∃ t, header = some t ∧ Uuid.Writes t organization) ↔
    NamesOrganization header organization ∨ SlipsThrough header organization := by
  constructor
  · rintro ⟨t, ht, hwrites⟩
    by_cases hdigits : ∀ c ∈ Uuid.core t, c.isHex = true
    · exact .inl ⟨t, ht, Uuid.spells_iff.mpr ⟨hwrites, hdigits⟩⟩
    · push Not at hdigits
      obtain ⟨c, hc, hno⟩ := hdigits
      exact .inr ⟨t, ht, hwrites, c, hc, Bool.eq_false_iff.mpr hno⟩
  · rintro (⟨t, ht, hspells⟩ | ⟨t, ht, hwrites, -⟩)
    · exact ⟨t, ht, hspells.writes⟩
    · exact ⟨t, ht, hwrites⟩

theorem not_slipsThrough (h : NamesOrganization header organization) (other : Uuid) :
    ¬ SlipsThrough header other := by
  obtain ⟨t, rfl, hspells⟩ := h
  rintro ⟨t', ht', -, c, hc, hno⟩
  obtain rfl := Option.some.inj ht'
  rw [hspells.digits c hc] at hno
  cases hno

/-- **Which organization a header is read as.** It is read as the one that its text spells in 32
hexadecimal digits, and as no other one, unless it slips through: then it is read as the number that
it writes with blanks, a plus, a mark of the base or underscores, though it spells none. The
organization that is read is set in its canonical form, and nothing else is changed. A header that
neither names an organization nor slips through is refused as invalid input, and changes nothing.
The canonical form of an id, in any case of its letters, is read as this id. -/
theorem organization_is_read_iff (header : Option Text) (s : Session) :
    (∀ u, ((enterOrganization header).exec s).1 = .ok u ↔
      NamesOrganization header u ∨ SlipsThrough header u) ∧
    ((∀ u, ((enterOrganization header).exec s).1 = .ok u ↔ NamesOrganization header u) ↔
      ∀ u, ¬ SlipsThrough header u) ∧
    (∀ u, ((enterOrganization header).exec s).1 = .ok u →
      ((enterOrganization header).exec s).2 =
        s.mapContext fun c => { c with organization := some u.text }) ∧
    ((∀ u, ¬ NamesOrganization header u ∧ ¬ SlipsThrough header u) →
      (enterOrganization header).exec s = (.error (headerFault header), s)) ∧
    ∀ (u : Uuid) (t : Text), t.lowerAscii = u.text → NamesOrganization (some t) u := by
  have hread : ∀ u, ((enterOrganization header).exec s).1 = .ok u ↔
      NamesOrganization header u ∨ SlipsThrough header u := fun u => by
    rw [enterOrganization_outcome, organizationOf_eq_ok_iff, writes_iff]
  refine ⟨hread, ⟨fun h u hslips => ?_, fun h u => ?_⟩, fun u hu => ?_, fun hno => ?_,
    fun u t ht => ⟨t, rfl, Uuid.spells_text ht⟩⟩
  · exact not_slipsThrough ((h u).mp ((hread u).mpr (.inr hslips))) u hslips
  · rw [hread u, or_iff_left (h u)]
  · rw [enterOrganization_outcome] at hu
    rw [enterOrganization_exec hu]
  · rcases organizationOf_cases header with ⟨u, hu⟩ | hfault
    · have hboth := (hread u).mp ((enterOrganization_outcome header s).trans hu)
      exact absurd hboth (not_or.mpr (hno u))
    · exact enterOrganization_error hfault s

/-- A plus and 31 digits. -/
def signedHeader : Text := "+0000000000000000000000000000001"

/-- The plus is taken for the sign of a number, and the digits behind it name an organization. -/
theorem not_every_organization_is_spelled :
    ¬ ∀ (t : Text) (u : Uuid) (s : Session),
      ((enterOrganization (some t)).exec s).1 = .ok u ↔ Uuid.Spells t u := by
  intro h
  have hone : Uuid.read? signedHeader = some ⟨1⟩ := by decide +kernel
  have hread : organizationOf (some signedHeader) = .ok ⟨1⟩ :=
    organizationOf_eq_ok_iff.mpr ⟨_, rfl, Uuid.read?_eq_some_iff.mp hone⟩
  have hspells := (h signedHeader ⟨1⟩ .resting).mp
    ((enterOrganization_outcome _ _).trans hread)
  have hplus : ('+' : CodePoint) ∈ Uuid.core signedHeader := by decide +kernel
  exact Bool.noConfusion (hspells.digits _ hplus)

end Web

end Entitlement
