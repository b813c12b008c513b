import Entitlement.Proofs.License.Coherent

/-! # Refreshing is atomic and forgets

A payload is refused exactly when it would be refused as a new license of the organization, with the
same fault (`License.refresh_eq_error_iff`), and then the license stays as it is. When it is
accepted, all that it says is taken over at once, and all that tells the license apart is kept
(`License.Renewed`). So the outcome does not depend on what an earlier payload left behind
(`License.Renewed.unique`), and of any number of payloads the last accepted one decides
(`refreshing_forgets`). -/

namespace Entitlement

namespace Refreshment

/-- The payload as a new license of an organization. -/
def parsed (r : Refreshment) (organization : Uuid) : Except Fault License :=
  License.parse r.payload organization r.catalog r.now

/-- The payload is accepted. -/
def Accepted (r : Refreshment) (organization : Uuid) : Prop :=
  ∃ fresh, r.parsed organization = .ok fresh

end Refreshment

namespace License

/-- What no payload changes. -/
structure SameIdentity (l m : License) : Prop where
  id : l.id = m.id
  key : l.key = m.key
  organization : l.organization = m.organization
  createdAt : l.createdAt = m.createdAt

/-- What a payload gives a license: the identity of the license, and all else as it is parsed. -/
structure Renewed (l fresh after : License) : Prop where
  identity : SameIdentity after l
  terms : after.terms = fresh.terms
  updatedAt : after.updatedAt = fresh.updatedAt
  lastValidatedAt : after.lastValidatedAt = fresh.lastValidatedAt

namespace SameIdentity

variable {l m k : License}

theorem refl (l : License) : SameIdentity l l := ⟨rfl, rfl, rfl, rfl⟩

theorem symm (h : SameIdentity l m) : SameIdentity m l :=
  ⟨h.id.symm, h.key.symm, h.organization.symm, h.createdAt.symm⟩

theorem trans (h : SameIdentity l m) (h' : SameIdentity m k) : SameIdentity l k :=
  ⟨h.id.trans h'.id, h.key.trans h'.key, h.organization.trans h'.organization,
    h.createdAt.trans h'.createdAt⟩

end SameIdentity

variable {l m fresh after other : License} {r : Refreshment}

/-- **A payload leaves nothing of what was there** but the identity. -/
theorem Renewed.unique (h : Renewed l fresh after) (h' : Renewed m fresh other)
    (same : SameIdentity l m) : after = other := by
  have hidentity : SameIdentity after other := (h.identity.trans same).trans h'.identity.symm
  have hterms : after.terms = other.terms := h.terms.trans h'.terms.symm
  have hupdated : after.updatedAt = other.updatedAt := h.updatedAt.trans h'.updatedAt.symm
  have hvalidated : after.lastValidatedAt = other.lastValidatedAt :=
    h.lastValidatedAt.trans h'.lastValidatedAt.symm
  obtain ⟨hid, hkey, horganization, hcreated⟩ := hidentity
  cases after
  cases other
  congr

/-! ### One payload -/

theorem parsed_moments {organization : Uuid} (h : r.parsed organization = .ok fresh) :
    fresh.updatedAt = r.now ∧ fresh.lastValidatedAt = r.now := by
  obtain ⟨members, -, hmembers⟩ := parse_eq_ok_iff.mp h
  obtain ⟨-, -, -, -, -, -, -, hupdated, hvalidated⟩ := ofMembers_eq_ok_iff.mp hmembers
  exact ⟨hupdated, hvalidated⟩

theorem refresh_eq_error_iff {fault : Fault} :
    l.refresh r.payload r.catalog r.now = .error fault ↔
      r.parsed l.organization = .error fault := by
  unfold refresh
  rw [Outcome.bind_eq_error_iff]
  constructor
  · rintro (hfault | ⟨fresh, -, hpure⟩)
    · exact hfault
    · cases hpure
  · intro hfault
    exact .inl hfault

theorem refresh_of_parsed (h : r.parsed l.organization = .ok fresh) :
    ∃ after, l.refresh r.payload r.catalog r.now = .ok after ∧ Renewed l fresh after := by
  obtain ⟨hupdated, hvalidated⟩ := parsed_moments h
  refine ⟨l.withTerms fresh r.now, Outcome.bind_eq_ok_iff.mpr ⟨fresh, h, rfl⟩, ?_⟩
  exact ⟨⟨rfl, rfl, rfl, rfl⟩, rfl, hupdated.symm, hvalidated.symm⟩

theorem refreshed_of_refresh (h : l.refresh r.payload r.catalog r.now = .ok after) :
    l.refreshed r = after := by
  unfold refreshed
  rw [h]

theorem refreshed_of_refused (h : ¬ r.Accepted l.organization) : l.refreshed r = l := by
  rcases l.refreshed_cases r with hsame | ⟨fresh, hfresh, -⟩
  · exact hsame
  · exact absurd ⟨fresh, hfresh⟩ h

theorem sameIdentity_refreshed (l : License) (r : Refreshment) : SameIdentity (l.refreshed r) l := by
  rcases l.refreshed_cases r with hsame | ⟨fresh, -, hnew⟩
  · rw [hsame]
    exact .refl l
  · rw [hnew]
    exact ⟨rfl, rfl, rfl, rfl⟩

/-- **An accepted payload has the same outcome** for licenses of one identity. -/
theorem refreshed_congr (same : SameIdentity l m) (h : r.Accepted l.organization) :
    l.refreshed r = m.refreshed r := by
  obtain ⟨fresh, hfresh⟩ := h
  have hfresh' : r.parsed m.organization = .ok fresh := by
    rw [← same.organization]
    exact hfresh
  obtain ⟨after, hafter, hrenewed⟩ := refresh_of_parsed hfresh
  obtain ⟨other, hother, hrenewed'⟩ := refresh_of_parsed hfresh'
  rw [refreshed_of_refresh hafter, refreshed_of_refresh hother]
  exact hrenewed.unique hrenewed' same

/-! ### Any number of payloads -/

theorem refreshedAll_append (l : License) (earlier later : List Refreshment) :
    l.refreshedAll (earlier ++ later) = (l.refreshedAll earlier).refreshedAll later :=
  List.foldl_append

theorem sameIdentity_refreshedAll (l : License) (refreshments : List Refreshment) :
    SameIdentity (l.refreshedAll refreshments) l := by
  induction refreshments generalizing l with
  | nil => exact .refl l
  | cons r refreshments ih =>
    have hstep : SameIdentity (l.refreshed r) l := l.sameIdentity_refreshed r
    have hrest : SameIdentity ((l.refreshed r).refreshedAll refreshments) (l.refreshed r) :=
      ih (l.refreshed r)
    exact hrest.trans hstep

theorem refreshedAll_of_refused {refreshments : List Refreshment}
    (h : ∀ r ∈ refreshments, ¬ r.Accepted l.organization) : l.refreshedAll refreshments = l := by
  induction refreshments with
  | nil => rfl
  | cons r refreshments ih =>
    have hfirst : l.refreshed r = l := refreshed_of_refused (h r List.mem_cons_self)
    have hrest : l.refreshedAll refreshments = l :=
      ih fun x hx => h x (List.mem_cons_of_mem r hx)
    calc l.refreshedAll (r :: refreshments) = (l.refreshed r).refreshedAll refreshments := rfl
      _ = l := by rw [hfirst, hrest]

/-- **The last accepted payload decides.** -/
theorem refreshedAll_of_last {earlier later : List Refreshment} (h : r.Accepted l.organization)
    (refused : ∀ x ∈ later, ¬ x.Accepted l.organization) :
    l.refreshedAll (earlier ++ r :: later) = l.refreshed r := by
  have hidentity : SameIdentity l (l.refreshedAll earlier) :=
    (l.sameIdentity_refreshedAll earlier).symm
  have hdecides : (l.refreshedAll earlier).refreshed r = l.refreshed r :=
    (refreshed_congr hidentity h).symm
  have horganization : (l.refreshed r).organization = l.organization :=
    (l.sameIdentity_refreshed r).organization
  have hlater : (l.refreshed r).refreshedAll later = l.refreshed r :=
    refreshedAll_of_refused fun x hx => by rw [horganization]; exact refused x hx
  calc l.refreshedAll (earlier ++ r :: later)
      = ((l.refreshedAll earlier).refreshed r).refreshedAll later := l.refreshedAll_append _ _
    _ = l.refreshed r := by rw [hdecides, hlater]

/-- **Refreshing is atomic and forgets.** Whatever payloads are applied to a license one after
another, each with its catalog and its moment: if none is accepted, the license is as it was; if one
is accepted and none after it, the license is as that one alone would leave it. At no time do id,
key, organization and moment of creation change. Each call fails just when the payload is refused
for a new license of the organization, with the same fault, and leaves the license alone then; and
otherwise everything else about the license is as the payload is parsed. -/
theorem refreshing_forgets (l : License) (refreshments : List Refreshment) :
    ((∀ r ∈ refreshments, ¬ r.Accepted l.organization) → l.refreshedAll refreshments = l) ∧
    (∀ earlier r later, refreshments = earlier ++ r :: later → r.Accepted l.organization →
      (∀ x ∈ later, ¬ x.Accepted l.organization) →
        l.refreshedAll refreshments = l.refreshed r) ∧
    (∀ earlier later, refreshments = earlier ++ later →
      SameIdentity (l.refreshedAll earlier) l) ∧
    ∀ earlier r later, refreshments = earlier ++ r :: later →
      let current := l.refreshedAll earlier
      (∀ fault, r.parsed l.organization = .error fault ↔
        current.refresh r.payload r.catalog r.now = .error fault) ∧
      (∀ fault, current.refresh r.payload r.catalog r.now = .error fault →
        l.refreshedAll (earlier ++ [r]) = current) ∧
      ∀ fresh, r.parsed l.organization = .ok fresh →
        ∃ after, current.refresh r.payload r.catalog r.now = .ok after ∧
          Renewed current fresh after ∧ l.refreshedAll (earlier ++ [r]) = after := by
  refine ⟨fun refused => refreshedAll_of_refused refused, ?_, ?_, ?_⟩
  · rintro earlier r later rfl accepted refused
    exact refreshedAll_of_last accepted refused
  · rintro earlier later rfl
    exact l.sameIdentity_refreshedAll earlier
  · rintro earlier r later rfl current
    have horganization : current.organization = l.organization :=
      (l.sameIdentity_refreshedAll earlier).organization
    have hstep : l.refreshedAll (earlier ++ [r]) = current.refreshed r :=
      l.refreshedAll_append earlier [r]
    rw [hstep, ← horganization]
    refine ⟨fun fault => refresh_eq_error_iff.symm, ?_, ?_⟩
    · intro fault hfault
      unfold refreshed
      rw [hfault]
    · intro fresh hfresh
      obtain ⟨after, hafter, hrenewed⟩ := refresh_of_parsed hfresh
      exact ⟨after, hafter, hrenewed, refreshed_of_refresh hafter⟩

-- Of these payloads the first is refused.
example : ((synthetic .nil Catalog.standard DateTime.first).refreshedAll renewals).terms.planName =
    "Q" := by
  decide +kernel

end License

end Entitlement
