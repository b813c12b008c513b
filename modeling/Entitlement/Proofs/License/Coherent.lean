import Entitlement.License.Synthetic
import Entitlement.Proofs.License.Stored

/-! # The terms of a license and its data never drift apart

A license says some things twice: as terms, and in its data. Terms are *coherent* if reading the
data again would give the same terms, if the features stand in the data as they were attached, and
if the data holds neither id nor key (`Terms.Coherent`). The terms that are read from a payload or
from stored data are coherent, and so are those of the stand-in, whose data is written by hand
(`Origin.coherent`). A payload that is applied replaces the terms as a whole, or changes nothing
when it is refused, so coherence is kept by one payload (`Terms.Coherent.refreshed`) and by any
number of them (`Terms.Coherent.refreshedAll`). A license with coherent terms is rebuilt from its
own projection as it is, and with another catalog it differs in the features and their entry only
(`Terms.Coherent.rebuilt`). -/

namespace Entitlement

open Payload

/-! ### Terms that repeat their data -/

namespace Terms

/-- **The terms and their data agree**, and the data holds neither id nor key. -/
structure Coherent (t : Terms) : Prop where
  id : t.data.get? "id" = none
  key : t.data.get? "key" = none
  features : t.data.get? "features" = some (Catalog.json t.features)
  agrees : t.AgreesWith t.data

theorem coherent_of_ofData {d : Dictionary} {catalog : Catalog} {t : Terms}
    (h : Terms.ofData (License.residue d) catalog = .ok t) : t.Coherent := by
  obtain ⟨agrees, hfeatures, hdata⟩ := ofData_eq_ok_iff.mp h
  have hget : ∀ name : Text, ("features" : Text) ≠ name →
      t.data.get? name = (License.residue d).get? name := by
    intro name hname
    rw [hdata, Dictionary.get?_insert, if_neg hname]
  refine ⟨?_, ?_, ?_, agrees.congr hget⟩
  · rw [hget _ (by decide), License.residue, Dictionary.get?_erase, Dictionary.get?_erase,
      if_neg (by decide), if_pos rfl]
  · rw [hget _ (by decide), License.residue, Dictionary.get?_erase, if_pos rfl]
  · rw [hdata, Dictionary.get?_insert, if_pos rfl, hfeatures]

end Terms

/-! ### Licenses and the payloads that are applied to them -/

/-- A payload that is applied to a license, with its catalog and its moment. -/
structure Refreshment where
  payload : Document
  catalog : Catalog
  now : DateTime

/-- Where a license comes from. -/
inductive Origin where
  | payload (document : Document) (organization : Uuid) (catalog : Catalog) (now : DateTime)
  | stored (row : StoredLicense) (catalog : Catalog)
  | synthetic (organization : Uuid) (catalog : Catalog) (now : DateTime)

namespace Origin

/-- The license of an origin. -/
def license : Origin → Except Fault License
  | .payload document organization catalog now => License.parse document organization catalog now
  | .stored row catalog => License.ofStored row catalog
  | .synthetic organization catalog now => .ok (License.synthetic organization catalog now)

/-- The data that a license is made of is one of members. Only stored data can be another one: the
pairs of a sequence are named by any scalar. -/
def HasMembers : Origin → Prop
  | .stored row _ => ∃ members, Dictionary.ofJson row.data = .ok (.ofMembers members)
  | _ => True

end Origin

namespace License

/-- The license after a payload was applied; it stays as it is when that fails. -/
def refreshed (l : License) (r : Refreshment) : License :=
  match l.refresh r.payload r.catalog r.now with
  | .ok fresh => fresh
  | .error _ => l

/-- The license after payloads were applied one after another. -/
def refreshedAll (l : License) (refreshments : List Refreshment) : License :=
  refreshments.foldl refreshed l

/-- The license that is rebuilt from the projection of a license. The projection hands on the
dictionary of the data itself; where its names are texts, it is the one that is stored
(`ofStored_stored`). -/
def rebuilt (l : License) (catalog : Catalog) : Except Fault License := do
  let terms ← Terms.ofData (residue l.terms.data) catalog
  return { l with terms }

theorem coherent_of_parse {payload : Document} {organization : Uuid} {catalog : Catalog}
    {now : DateTime} {l : License} (h : parse payload organization catalog now = .ok l) :
    l.terms.Coherent := by
  obtain ⟨members, -, -, hterms, -⟩ := parse_ok h
  rw [← residue_ofMembers] at hterms
  exact Terms.coherent_of_ofData hterms

theorem coherent_synthetic (organization : Uuid) (catalog : Catalog) (now : DateTime) :
    (synthetic organization catalog now).terms.Coherent where
  id := rfl
  key := rfl
  features := rfl
  agrees := ⟨rfl, ⟨_, rfl, rfl⟩, rfl, rfl, rfl, rfl⟩

theorem refreshed_cases (l : License) (r : Refreshment) : l.refreshed r = l ∨
    ∃ fresh, parse r.payload l.organization r.catalog r.now = .ok fresh ∧
      l.refreshed r = l.withTerms fresh r.now := by
  unfold refreshed refresh
  cases parse r.payload l.organization r.catalog r.now with
  | error fault => exact .inl rfl
  | ok fresh => exact .inr ⟨fresh, rfl, rfl⟩

end License

/-! ### Coherence is kept -/

theorem Origin.coherent {origin : Origin} {l : License} (h : origin.license = .ok l) :
    l.terms.Coherent := by
  cases origin with
  | payload document organization catalog now => exact License.coherent_of_parse h
  | stored row catalog =>
    obtain ⟨d, terms, -, hterms, rfl⟩ := License.ofStored_eq_ok_iff.mp h
    exact Terms.coherent_of_ofData hterms
  | synthetic organization catalog now =>
    have hl : License.synthetic organization catalog now = l := Except.ok.inj h
    rw [← hl]
    exact License.coherent_synthetic organization catalog now

namespace Terms.Coherent

variable {l : License}

theorem refreshed (h : l.terms.Coherent) (r : Refreshment) : (l.refreshed r).terms.Coherent := by
  rcases l.refreshed_cases r with hsame | ⟨fresh, hfresh, hnew⟩
  · rw [hsame]
    exact h
  · have hterms : fresh.terms.Coherent := License.coherent_of_parse hfresh
    rw [hnew]
    exact hterms

theorem refreshedAll (h : l.terms.Coherent) (refreshments : List Refreshment) :
    (l.refreshedAll refreshments).terms.Coherent := by
  induction refreshments generalizing l with
  | nil => exact h
  | cons r refreshments ih => exact ih (h.refreshed r)

/-! ### Rebuilding -/

/-- **A license is rebuilt from its projection** with the features of the catalog, which are set in
its data; all else comes back. -/
theorem rebuilt (h : l.terms.Coherent) (catalog : Catalog) : l.rebuilt catalog =
    .ok { l with terms := { l.terms with
      features := catalog
      data := l.terms.data.insert (.text "features") catalog.json } } := by
  have hresidue : License.residue l.terms.data = l.terms.data := by
    rw [License.residue, Dictionary.erase_eq_self h.id, Dictionary.erase_eq_self h.key]
  have hterms : Terms.ofData l.terms.data catalog = .ok { l.terms with
      features := catalog
      data := l.terms.data.insert (.text "features") catalog.json } :=
    ofData_eq_ok_iff.mpr ⟨⟨h.agrees.status, h.agrees.plan, h.agrees.state, h.agrees.freeUntil,
      h.agrees.validFrom, h.agrees.validUntil⟩, rfl, rfl⟩
  unfold License.rebuilt
  rw [hresidue, hterms]
  rfl

/-- With its own features a license comes back as it is. -/
theorem rebuilt_self (h : l.terms.Coherent) : l.rebuilt l.terms.features = .ok l := by
  rw [h.rebuilt, Dictionary.insert_eq_self h.features]

end Terms.Coherent

namespace License

variable {l : License}

/-- Where the names of its data are texts, the projection of a license is what is stored of it. -/
theorem ofStored_stored {members : Members} (h : l.terms.data = .ofMembers members)
    (catalog : Catalog) : ofStored l.stored catalog = l.rebuilt catalog := by
  have hread : Dictionary.ofJson l.stored.data = .ok l.terms.data := by
    rw [stored_data h, h]
    rfl
  unfold ofStored rebuilt
  rw [hread]
  rfl

theorem data_of_members {members : Members} {catalog : Catalog}
    (h : Terms.ofData (residue (.ofMembers members)) catalog = .ok l.terms) :
    l.terms.data = .ofMembers (kept members catalog) := by
  obtain ⟨-, -, hdata⟩ := Terms.ofData_eq_ok_iff.mp h
  rw [hdata, residue_ofMembers, Dictionary.insert_ofMembers, kept]

end License

theorem Origin.data_members {origin : Origin} {l : License} (h : origin.license = .ok l)
    (hmembers : origin.HasMembers) : ∃ members, l.terms.data = .ofMembers members := by
  cases origin with
  | payload document organization catalog now =>
    obtain ⟨members, -, -, -, hdata, -⟩ := License.parse_ok h
    exact ⟨_, hdata⟩
  | stored row catalog =>
    obtain ⟨members, hread⟩ := hmembers
    obtain ⟨d, terms, hd, hterms, rfl⟩ := License.ofStored_eq_ok_iff.mp h
    obtain rfl : d = .ofMembers members := Except.ok.inj (hd.symm.trans hread)
    exact ⟨_, License.data_of_members hterms⟩
  | synthetic organization catalog now =>
    have hl : License.synthetic organization catalog now = l := Except.ok.inj h
    exact ⟨_, by rw [← hl]; rfl⟩

namespace License

theorem refreshedAll_members {l : License} (h : ∃ members, l.terms.data = .ofMembers members)
    (refreshments : List Refreshment) :
    ∃ members, (l.refreshedAll refreshments).terms.data = .ofMembers members := by
  induction refreshments generalizing l with
  | nil => exact h
  | cons r refreshments ih =>
    refine ih ?_
    rcases l.refreshed_cases r with hsame | ⟨fresh, hfresh, hnew⟩
    · rw [hsame]
      exact h
    · obtain ⟨members, -, -, -, hdata, -⟩ := parse_ok hfresh
      rw [hnew]
      exact ⟨_, hdata⟩

/-- **Terms and data never drift apart.** Whatever a license is made of and whatever payloads are
applied to it, its data holds neither id nor key, the features as they were attached, and what the
terms say; it is rebuilt from its projection as it is, and with another catalog it differs in the
features and in their entry of the data, which keeps its place. The projection is the one that is
stored, unless the data was read from pairs and has names that are no texts. -/
theorem terms_and_data_never_drift (origin : Origin) (refreshments : List Refreshment)
    {made : License} (h : origin.license = .ok made) :
    let l := made.refreshedAll refreshments
    l.terms.data.get? "id" = none ∧ l.terms.data.get? "key" = none ∧
      l.terms.data.get? "features" = some (Catalog.json l.terms.features) ∧
      l.terms.AgreesWith l.terms.data ∧
      l.rebuilt l.terms.features = .ok l ∧
      (∃ before behind : Dictionary,
        l.terms.data = before ++ (.text "features", Catalog.json l.terms.features) :: behind ∧
        ∀ catalog : Catalog, l.rebuilt catalog = .ok { l with terms := { l.terms with
          features := catalog
          data := before ++ (.text "features", catalog.json) :: behind } }) ∧
      (origin.HasMembers → ∀ catalog, ofStored l.stored catalog = l.rebuilt catalog) := by
  intro l
  have coherent : l.terms.Coherent := (Origin.coherent h).refreshedAll refreshments
  refine ⟨coherent.id, coherent.key, coherent.features, coherent.agrees, coherent.rebuilt_self, ?_,
    ?_⟩
  · obtain ⟨before, behind, -, hinsert⟩ := l.terms.data.exists_insert "features"
    refine ⟨before, behind, ?_, fun catalog => ?_⟩
    · rw [← hinsert, Dictionary.insert_eq_self coherent.features]
    · rw [coherent.rebuilt catalog, hinsert]
  · intro hmembers catalog
    obtain ⟨members, hdata⟩ := refreshedAll_members (Origin.data_members h hmembers) refreshments
    exact ofStored_stored hdata catalog

/-! ### A row with leftovers -/

/-- A row whose data still holds an id, a key and features of its own. -/
def leftoverRow : StoredLicense :=
  ⟨.nil, "K", .nil, .object [("id", .int 1), ("features", .null), ("status", .string "S"),
    ("key", .string "L"), ("plan", .object [("name", .string "P")]), ("valid_from", .int 7)],
    DateTime.first, DateTime.first, DateTime.first⟩

/-- A payload that is refused, and one that is accepted. -/
def renewals : List Refreshment :=
  [⟨.text "null", [], DateTime.first⟩,
    ⟨.text ("\x7b\"features\": 1, \"id\": \"00000000000000000000000000000002\", \"key\": \"M\", "
      ++ ("\"status\": \"T\", \"plan\": \x7b\"name\": \"Q\"\x7d\x7d" : Text)), [], DateTime.first⟩]

theorem leftoverRow_is_rebuilt : ∃ made,
    (Origin.stored leftoverRow Catalog.standard).license = .ok made ∧
      (made.refreshedAll renewals).terms.planName = "Q" ∧
      ofStored (made.refreshedAll renewals).stored (made.refreshedAll renewals).terms.features =
        .ok (made.refreshedAll renewals) := by
  refine ⟨_, rfl, by decide +kernel, ?_⟩
  obtain ⟨-, -, -, -, hself, -, hstored⟩ :=
    terms_and_data_never_drift (.stored leftoverRow Catalog.standard) renewals rfl
  rw [hstored ⟨_, rfl⟩, hself]

end License

end Entitlement
