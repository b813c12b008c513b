import Entitlement.License.Selection
import Entitlement.Proofs.Outcome
import Mathlib.Data.List.Induction

/-! # The license in force is the first of those that started last

A license is *eligible* if it started at all and is still valid (`License.Eligible`). The scan keeps
the best license so far and replaces it only by an eligible one that started later; what it keeps in
the end is the first of the eligible licenses that started last (`Selection.InForce`), and it keeps
none just where none is eligible (`Selection.ofLicenses_eq_found_iff`,
`Selection.ofLicenses_eq_absent_iff`). Stored rows are all read before a license is chosen, so the
first row that cannot be read decides, wherever it stands (`Selection.ofStored_eq_error_iff`). -/

namespace Entitlement

/-- The license started, and it ends never or after `now`. -/
def License.Eligible (l : License) (now : Int) : Prop :=
  l.terms.validFrom ≠ 0 ∧ (l.terms.validUntil = -1 ∨ now < l.terms.validUntil)

theorem License.isValidAt_iff {l : License} {now : Int} :
    l.isValidAt now = true ↔ l.terms.validUntil = -1 ∨ now < l.terms.validUntil := by
  rw [isValidAt, Bool.or_eq_true, decide_eq_true_iff, decide_eq_true_iff]
  rfl

theorem License.isEligible_iff {l : License} {now : Int} :
    l.isEligible now = true ↔ l.Eligible now := by
  rw [isEligible, Bool.and_eq_true, decide_eq_true_iff, isValidAt_iff]
  rfl

namespace Selection

variable {now : Int} {licenses : List License} {l next : License}

/-- **The first of the eligible licenses that started last.** -/
def InForce (now : Int) (licenses : List License) (l : License) : Prop :=
  ∃ earlier later, licenses = earlier ++ l :: later ∧ l.Eligible now ∧
    (∀ m ∈ earlier, m.Eligible now → m.terms.validFrom < l.terms.validFrom) ∧
    ∀ m ∈ later, m.Eligible now → m.terms.validFrom ≤ l.terms.validFrom

namespace InForce

theorem mem (h : InForce now licenses l) : l ∈ licenses := by
  obtain ⟨earlier, later, rfl, -, -, -⟩ := h
  simp

theorem eligible (h : InForce now licenses l) : l.Eligible now := by
  obtain ⟨earlier, later, -, h, -, -⟩ := h
  exact h

theorem latest (h : InForce now licenses l) {m : License} (hm : m ∈ licenses)
    (he : m.Eligible now) : m.terms.validFrom ≤ l.terms.validFrom := by
  obtain ⟨earlier, later, rfl, -, hearlier, hlater⟩ := h
  rcases List.mem_append.mp hm with hm | hm
  · have := hearlier m hm he
    omega
  · rcases List.mem_cons.mp hm with rfl | hm
    · exact Int.le_refl _
    · exact hlater m hm he

theorem unique (h : InForce now licenses l) (h' : InForce now licenses next) : l = next := by
  have hle := h.latest h'.mem h'.eligible
  have hle' := h'.latest h.mem h.eligible
  obtain ⟨earlier, later, hsplit, he, hearlier, -⟩ := h
  obtain ⟨earlier', later', hsplit', he', hearlier', -⟩ := h'
  rw [hsplit] at hsplit'
  -- Of two places the first one would stand before the other, and start earlier.
  rcases List.append_eq_append_iff.mp hsplit' with ⟨mid, hmid, hrest⟩ | ⟨mid, hmid, hrest⟩
  · cases mid with
    | nil => exact (List.cons.inj hrest).1
    | cons m mid =>
      obtain ⟨rfl, -⟩ := List.cons.inj hrest
      have := hearlier' l (by simp [hmid]) he
      omega
  · cases mid with
    | nil => exact (List.cons.inj hrest).1.symm
    | cons m mid =>
      obtain ⟨rfl, -⟩ := List.cons.inj hrest
      have := hearlier next (by simp [hmid]) he'
      omega

theorem keep (h : InForce now licenses l)
    (hnext : next.Eligible now → next.terms.validFrom ≤ l.terms.validFrom) :
    InForce now (licenses ++ [next]) l := by
  obtain ⟨earlier, later, rfl, he, hearlier, hlater⟩ := h
  refine ⟨earlier, later ++ [next], by simp, he, hearlier, ?_⟩
  intro m hm hem
  rcases List.mem_append.mp hm with hm | hm
  · exact hlater m hm hem
  · obtain rfl : m = next := by simpa using hm
    exact hnext hem

theorem replace (he : next.Eligible now)
    (hbefore : ∀ m ∈ licenses, m.Eligible now → m.terms.validFrom < next.terms.validFrom) :
    InForce now (licenses ++ [next]) next :=
  ⟨licenses, [], rfl, he, hbefore, fun _ hm => absurd hm List.not_mem_nil⟩

end InForce

/-! ### The scan -/

/-- What the scan has kept after some licenses. -/
def Kept (now : Int) (licenses : List License) : Option License → Prop
  | some l => InForce now licenses l
  | none => ∀ l ∈ licenses, ¬ l.Eligible now

theorem Kept.better {best : Option License} (h : Kept now licenses best) (next : License) :
    Kept now (licenses ++ [next]) (Selection.better now best next) := by
  unfold Selection.better
  split
  · next helig =>
    have he := License.isEligible_iff.mp helig
    cases best with
    | none => exact InForce.replace he fun m hm hem => absurd hem (h m hm)
    | some l =>
      dsimp only
      split
      · next hlt =>
        refine InForce.replace he fun m hm hem => ?_
        have := h.latest hm hem
        omega
      · next hge => exact InForce.keep h fun _ => by omega
  · next helig =>
    have hno : ¬ next.Eligible now := fun he => helig (License.isEligible_iff.mpr he)
    cases best with
    | none =>
      intro m hm
      rcases List.mem_append.mp hm with hm | hm
      · exact h m hm
      · obtain rfl : m = next := by simpa using hm
        exact hno
    | some l => exact InForce.keep h fun he => absurd he hno

theorem kept_foldl (now : Int) (licenses : List License) :
    Kept now licenses (licenses.foldl (better now) none) := by
  induction licenses using List.reverseRecOn with
  | nil => exact fun _ hm => absurd hm List.not_mem_nil
  | append_singleton licenses next ih =>
    rw [List.foldl_append]
    exact ih.better next

/-- **What is found is in force**, and what is in force is found. -/
theorem ofLicenses_eq_found_iff {organization : Uuid} :
    ofLicenses licenses organization now = .found l ↔ InForce now licenses l := by
  have hkept := kept_foldl now licenses
  unfold ofLicenses
  cases hbest : licenses.foldl (better now) none with
  | none =>
    rw [hbest] at hkept
    exact ⟨nofun, fun h => absurd h.eligible (hkept l h.mem)⟩
  | some best =>
    rw [hbest] at hkept
    constructor
    · intro h
      obtain rfl := Selection.found.inj h
      exact hkept
    · intro h
      rw [h.unique hkept]

theorem ofLicenses_eq_absent_iff {organization : Uuid} :
    ofLicenses licenses organization now = .absent organization ↔
      ∀ l ∈ licenses, ¬ l.Eligible now := by
  have hkept := kept_foldl now licenses
  unfold ofLicenses
  cases hbest : licenses.foldl (better now) none with
  | none =>
    rw [hbest] at hkept
    exact ⟨fun _ => hkept, fun _ => rfl⟩
  | some best =>
    rw [hbest] at hkept
    exact ⟨nofun, fun h => absurd hkept.eligible (h best hkept.mem)⟩

theorem organization_of_absent {organization o : Uuid}
    (h : ofLicenses licenses organization now = .absent o) : o = organization := by
  unfold ofLicenses at h
  split at h
  · cases h
  · exact (Selection.absent.inj h).symm

theorem ofLicenses_cases (licenses : List License) (organization : Uuid) (now : Int) :
    (∃ l ∈ licenses, ofLicenses licenses organization now = .found l) ∨
      ofLicenses licenses organization now = .absent organization := by
  cases h : ofLicenses licenses organization now with
  | found l => exact .inl ⟨l, (ofLicenses_eq_found_iff.mp h).mem, rfl⟩
  | absent o => exact .inr (congrArg _ (organization_of_absent h))

/-! ### Stored rows -/

/-- The licenses are those that the rows are read as, row by row. -/
def ReadAs (stored : List StoredLicense) (licenses : List License) : Prop :=
  List.Forall₂ (fun s l => License.ofStored s Catalog.standard = .ok l) stored licenses

theorem ofStored_eq (stored : List StoredLicense) (organization : Uuid) (now : Int) :
    ofStored stored organization now =
      (Selection.licenses stored).map fun read => ofLicenses read organization now := by
  unfold ofStored
  cases Selection.licenses stored <;> rfl

/-- **The first row that cannot be read decides.** -/
theorem ofStored_eq_error_iff {stored : List StoredLicense} {organization : Uuid} {fault : Fault} :
    ofStored stored organization now = .error fault ↔
      ∃ earlier row later, stored = earlier ++ row :: later ∧
        (∀ s ∈ earlier, ∃ l, License.ofStored s Catalog.standard = .ok l) ∧
        License.ofStored row Catalog.standard = .error fault := by
  rw [ofStored_eq, Outcome.map_eq_error_iff, Selection.licenses, Outcome.mapM_eq_error_iff]

theorem ofStored_fails_iff {stored : List StoredLicense} {organization : Uuid} :
    (∃ fault, ofStored stored organization now = .error fault) ↔
      ∃ s ∈ stored, ∃ fault, License.ofStored s Catalog.standard = .error fault := by
  simp only [ofStored_eq, Outcome.map_eq_error_iff]
  rw [Selection.licenses, Outcome.mapM_fails_iff]

/-- Where all rows can be read, the license in force is chosen among what they are read as. -/
theorem ofStored_eq_ok_iff {stored : List StoredLicense} {organization : Uuid}
    {selection : Selection} :
    ofStored stored organization now = .ok selection ↔
      ∃ licenses, ReadAs stored licenses ∧ ofLicenses licenses organization now = selection := by
  rw [ofStored_eq, Outcome.map_eq_ok_iff]
  simp only [ReadAs, ← Outcome.mapM_eq_ok_iff]
  rfl

end Selection

end Entitlement
