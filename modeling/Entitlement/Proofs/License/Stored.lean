import Entitlement.License.Payload
import Entitlement.Proofs.Dictionary
import Entitlement.Proofs.Json.Depth
import Entitlement.Proofs.Outcome
import Entitlement.Store.Basic

/-! # Licenses read back from the store

Data is *filed* if it has what a stored license is read from: no id and no key, a text as status, a
plan with a text as name, and the features that were attached (`Payload.Filed`). The data of every
license that a payload gives is filed, and it stays filed when it is written as text and read again
(`License.parse_filed`). Filed data is all it takes to get a license back, under any catalog
(`License.ofStored_of_filed`). -/

namespace Entitlement

open Json

/-! ### Dictionaries of members -/

namespace Dictionary

@[simp] theorem members_ofMembers (members : Members) : (ofMembers members).members = members := by
  induction members with
  | nil => rfl
  | cons m members ih =>
    unfold ofMembers Dictionary.members at *
    rw [List.map_cons, List.filterMap_cons, ih]

@[simp] theorem json_ofMembers (members : Members) :
    (ofMembers members).json = .object members := by
  unfold ofMembers Dictionary.json
  rw [List.map_map]
  exact congrArg Json.object (List.map_id members)

@[simp] theorem insert_ofMembers (members : Members) (name : Text) (value : Json) :
    (ofMembers members).insert (.text name) value =
      ofMembers (Members.insert members name value) := by
  induction members with
  | nil => rfl
  | cons m members ih =>
    obtain ⟨n, v⟩ := m
    unfold ofMembers at *
    rw [List.map_cons, Dictionary.insert, Members.insert, ih]
    by_cases h : n = name <;> simp [h, Name.proper]

@[simp] theorem erase_ofMembers (members : Members) (name : Text) :
    (ofMembers members).erase name = ofMembers (Members.erase members name) := by
  simp [ofMembers, Dictionary.erase, Members.erase, List.filter_map, Function.comp_def]

end Dictionary

/-! ### What a payload has to say -/

namespace Payload

theorem requiredText_eq_ok {members : Members} {name field s : Text} :
    requiredText members name field = .ok s ↔ Members.get? members name = some (.string s) := by
  unfold requiredText
  cases Members.get? members name with
  | none => simp
  | some v => cases v <;> simp

theorem requiredObject_eq_ok {members inner : Members} {name : Text} :
    requiredObject members name = .ok inner ↔ Members.get? members name = some (.object inner) := by
  unfold requiredObject
  cases Members.get? members name with
  | none => simp
  | some v => cases v <;> simp

/-- What terms are read from. -/
structure HasTerms (members : Members) : Prop where
  status : ∃ s, Members.get? members "status" = some (.string s)
  plan : ∃ plan name, Members.get? members "plan" = some (.object plan) ∧
    Members.get? plan "name" = some (.string name)

/-- **The data of a stored license**: no id and no key, what terms are read from, and the features
that were attached. -/
structure Filed (features : Json) (members : Members) : Prop extends HasTerms members where
  id : Members.get? members "id" = none
  key : Members.get? members "key" = none
  features : Members.get? members "features" = some features

/-- The members of a payload without the id and the key. -/
def bare (members : Members) : Members := Members.erase (Members.erase members "id") "key"

theorem residue_ofMembers (members : Members) :
    License.residue (.ofMembers members) = .ofMembers (bare members) := by
  simp [License.residue, bare]

theorem get?_bare (members : Members) (name : Text) (hid : ("id" : Text) ≠ name)
    (hkey : ("key" : Text) ≠ name) :
    Members.get? (bare members) name = Members.get? members name := by
  rw [bare, Members.get?_erase, Members.get?_erase, if_neg hkey, if_neg hid]

theorem HasTerms.congr {members other : Members} (h : HasTerms members)
    (hs : Members.get? other "status" = Members.get? members "status")
    (hp : Members.get? other "plan" = Members.get? members "plan") : HasTerms other :=
  ⟨hs ▸ h.status, hp ▸ h.plan⟩

theorem hasTerms_bare_iff {members : Members} : HasTerms (bare members) ↔ HasTerms members := by
  have hs := get?_bare members "status" (by decide) (by decide)
  have hp := get?_bare members "plan" (by decide) (by decide)
  exact ⟨fun h => h.congr hs.symm hp.symm, fun h => h.congr hs hp⟩

/-- The members that are stored of a payload. -/
def kept (members : Members) (catalog : Catalog) : Members :=
  Members.insert (bare members) "features" catalog.json

theorem kept_filed {members : Members} (h : HasTerms members) (catalog : Catalog) :
    Filed catalog.json (kept members catalog) := by
  have hget : ∀ name : Text, ("features" : Text) ≠ name →
      Members.get? (kept members catalog) name = Members.get? (bare members) name := by
    intro name hn
    rw [kept, Members.get?_insert, if_neg hn]
  refine ⟨(hasTerms_bare_iff.mpr h).congr (hget _ (by decide)) (hget _ (by decide)), ?_, ?_, ?_⟩
  · rw [hget _ (by decide), bare, Members.get?_erase, Members.get?_erase, if_neg (by decide),
      if_pos rfl]
  · rw [hget _ (by decide), bare, Members.get?_erase, if_pos rfl]
  · rw [kept, Members.get?_insert, if_pos rfl]

theorem Filed.reread {features : Json} {members : Members} {depth : Nat}
    (h : Filed features members) (fits : Fits depth (.object members)) :
    Filed (features.reread .stored) (rereadMembers .stored [] members) := by
  obtain ⟨distinct, hinner⟩ := fits.of_object
  have hget : ∀ name : Text, name.all CodePoint.isAscii = true →
      Members.get? (rereadMembers .stored [] members) name =
        (Members.get? members name).map (Json.reread .stored) := by
    intro name ha
    rw [get?_rereadMembers (Style.keeps_of_isAscii .stored ha) distinct]
    cases Members.get? members name <;> rfl
  obtain ⟨status, hstatus⟩ := h.status
  obtain ⟨plan, name, hplan, hname⟩ := h.plan
  have hplanMem : (("plan" : Text), Json.object plan) ∈ members := Members.mem_of_get? hplan
  obtain ⟨d, hd⟩ := hinner _ hplanMem
  obtain ⟨distinctPlan, -⟩ := hd.of_object
  refine ⟨⟨⟨Style.stored.reread status, ?_⟩, ⟨rereadMembers .stored [] plan,
    Style.stored.reread name, ?_, ?_⟩⟩, ?_, ?_, ?_⟩
  · rw [hget _ rfl, hstatus]
    rfl
  · rw [hget _ rfl, hplan]
    rfl
  · rw [get?_rereadMembers (Style.keeps_of_isAscii .stored rfl) distinctPlan, hname]
    rfl
  · rw [hget _ rfl, h.id]
    rfl
  · rw [hget _ rfl, h.key]
    rfl
  · rw [hget _ rfl, h.features]
    rfl

end Payload

open Payload

theorem Catalog.json_fits (catalog : Catalog) : catalog.json.Fits 2 := by
  refine .array fun x hx => ?_
  obtain ⟨f, -, rfl⟩ := List.mem_map.mp hx
  refine .object ?_ fun m hm => .scalar ?_
  · show List.Nodup [("name" : Text), "active", "usage", "usage_limit", "route"]
    decide
  · simp only [List.mem_cons, List.not_mem_nil, or_false] at hm
    rcases hm with rfl | rfl | rfl | rfl | rfl <;> rfl

theorem Payload.kept_fits {members : Members} {depth : Nat} (hdepth : 2 ≤ depth)
    (h : Fits (depth + 1) (.object members)) (catalog : Catalog) :
    Fits (depth + 1) (.object (kept members catalog)) := by
  cases h with
  | scalar h => cases h
  | object distinct h =>
    refine .object (((distinct.erase _).erase _).insert _ _) fun m hm => ?_
    rcases Members.mem_insert hm with rfl | hm
    · exact catalog.json_fits.mono hdepth
    · exact h m (List.mem_of_mem_filter (List.mem_of_mem_filter hm))

/-! ### What is read from data -/

namespace Terms

/-- The terms say what the data says, the features aside. -/
structure AgreesWith (t : Terms) (d : Dictionary) : Prop where
  status : d.get? "status" = some (.string t.status)
  plan : ∃ plan, d.get? "plan" = some (.object plan) ∧
    Members.get? plan "name" = some (.string t.planName)
  state : t.state = textOrEmpty d.members "state"
  freeUntil : t.freeUntil = timeOrFirst d.members "free_until"
  validFrom : t.validFrom = epochOrZero d.members "valid_from"
  validUntil : t.validUntil = epochOrZero d.members "valid_until"

theorem AgreesWith.congr {t : Terms} {d other : Dictionary} (h : t.AgreesWith d)
    (same : ∀ name : Text, ("features" : Text) ≠ name → other.get? name = d.get? name) :
    t.AgreesWith other := by
  have members : ∀ name : Text, ("features" : Text) ≠ name →
      Members.get? other.members name = Members.get? d.members name := by
    intro name hname
    rw [Dictionary.get?_members, Dictionary.get?_members, same name hname]
  obtain ⟨plan, hplan, hname⟩ := h.plan
  refine ⟨?_, ⟨plan, ?_, hname⟩, ?_, ?_, ?_, ?_⟩
  · rw [same _ (by decide), h.status]
  · rw [same _ (by decide), hplan]
  · rw [h.state, textOrEmpty, textOrEmpty, members _ (by decide)]
  · rw [h.freeUntil, timeOrFirst, timeOrFirst, members _ (by decide)]
  · rw [h.validFrom, epochOrZero, epochOrZero, members _ (by decide)]
  · rw [h.validUntil, epochOrZero, epochOrZero, members _ (by decide)]

/-- **What is read from data**: terms that say the same, with the features attached. -/
theorem ofData_eq_ok_iff {d : Dictionary} {catalog : Catalog} {t : Terms} :
    Terms.ofData d catalog = .ok t ↔
      t.AgreesWith d ∧ t.features = catalog ∧
        t.data = d.insert (.text "features") catalog.json := by
  have hstatus : ∀ s, requiredText d.members "status" "status" = .ok s ↔
      d.get? "status" = some (.string s) := by
    intro s
    rw [requiredText_eq_ok, Dictionary.get?_members]
  have hplan : ∀ plan, requiredObject d.members "plan" = .ok plan ↔
      d.get? "plan" = some (.object plan) := by
    intro plan
    rw [requiredObject_eq_ok, Dictionary.get?_members]
  unfold Terms.ofData
  dsimp only
  simp only [Outcome.bind_eq_ok_iff, hstatus, hplan, requiredText_eq_ok]
  constructor
  · rintro ⟨status, hs, plan, hp, planName, hn, h⟩
    obtain rfl := Except.ok.inj h
    exact ⟨⟨hs, ⟨plan, hp, hn⟩, rfl, rfl, rfl, rfl⟩, rfl, rfl⟩
  · rintro ⟨⟨hs, ⟨plan, hp, hn⟩, hstate, hfree, hfrom, huntil⟩, hfeatures, hdata⟩
    refine ⟨t.status, hs, plan, hp, t.planName, hn, ?_⟩
    rw [← hstate, ← hfree, ← hfrom, ← huntil, ← hdata, ← hfeatures]
    rfl

/-- Terms are read exactly where there is what they are read from. -/
theorem ofData_ofMembers (members : Members) (catalog : Catalog) :
    (HasTerms members ∧ ∃ terms, Terms.ofData (.ofMembers members) catalog = .ok terms ∧
      terms.data = .ofMembers (Members.insert members "features" catalog.json)) ∨
    (¬ HasTerms members ∧ ∃ fault, Terms.ofData (.ofMembers members) catalog = .error fault) := by
  have hget : ∀ name, (Dictionary.ofMembers members).get? name = Members.get? members name := by
    intro name
    rw [← Dictionary.get?_members, Dictionary.members_ofMembers]
  cases h : Terms.ofData (.ofMembers members) catalog with
  | ok terms =>
    obtain ⟨agrees, -, hdata⟩ := ofData_eq_ok_iff.mp h
    obtain ⟨plan, hplan, hname⟩ := agrees.plan
    refine .inl ⟨⟨⟨terms.status, ?_⟩, plan, terms.planName, ?_, hname⟩, terms, rfl, ?_⟩
    · rw [← hget, agrees.status]
    · rw [← hget, hplan]
    · rw [hdata, Dictionary.insert_ofMembers]
  | error fault =>
    refine .inr ⟨fun hterms => ?_, fault, rfl⟩
    obtain ⟨status, hstatus⟩ := hterms.status
    obtain ⟨plan, name, hplan, hname⟩ := hterms.plan
    let d := Dictionary.ofMembers members
    let t : Terms := ⟨name, status, textOrEmpty d.members "state",
      timeOrFirst d.members "free_until", epochOrZero d.members "valid_from",
      epochOrZero d.members "valid_until", catalog, d.insert (.text "features") catalog.json⟩
    have agrees : t.AgreesWith d := ⟨(hget _).trans hstatus,
      ⟨plan, (hget _).trans hplan, hname⟩, rfl, rfl, rfl, rfl⟩
    have hread : Terms.ofData d catalog = .ok t := ofData_eq_ok_iff.mpr ⟨agrees, rfl, rfl⟩
    rw [h] at hread
    cases hread

end Terms

namespace License

theorem ofStored_eq_ok_iff {stored : StoredLicense} {catalog : Catalog} {l : License} :
    ofStored stored catalog = .ok l ↔ ∃ d terms, Dictionary.ofJson stored.data = .ok d ∧
      Terms.ofData (residue d) catalog = .ok terms ∧
        l = ⟨stored.id, stored.key, stored.organization, terms, stored.createdAt,
          stored.updatedAt, stored.lastValidatedAt⟩ := by
  unfold ofStored
  simp only [Outcome.bind_eq_ok_iff]
  constructor
  · rintro ⟨d, hd, terms, hterms, h⟩
    exact ⟨d, terms, hd, hterms, (Except.ok.inj h).symm⟩
  · rintro ⟨d, terms, hd, hterms, rfl⟩
    exact ⟨d, hd, terms, hterms, rfl⟩

theorem ofStored_identity {stored : StoredLicense} {catalog : Catalog} {l : License}
    (h : ofStored stored catalog = .ok l) :
    l.id = stored.id ∧ l.key = stored.key ∧ l.organization = stored.organization ∧
      l.createdAt = stored.createdAt := by
  obtain ⟨d, terms, -, -, rfl⟩ := ofStored_eq_ok_iff.mp h
  exact ⟨rfl, rfl, rfl, rfl⟩

/-- **Filed data gives a license back**, under any catalog, with the identity that was stored. -/
theorem ofStored_of_filed {features : Json} {members : Members} (h : Filed features members)
    (stored : StoredLicense) (hd : stored.data = .object members) (catalog : Catalog) :
    ∃ l, ofStored stored catalog = .ok l ∧ l.id = stored.id ∧ l.key = stored.key ∧
      l.organization = stored.organization ∧ l.createdAt = stored.createdAt := by
  have hd' : Dictionary.ofJson stored.data = .ok (.ofMembers members) := by
    rw [hd]
    rfl
  unfold ofStored
  rw [hd']
  simp only [bind, Except.bind, residue_ofMembers]
  rcases Terms.ofData_ofMembers (bare members) catalog with ⟨-, terms, ht, -⟩ | ⟨hno, -⟩
  · rw [ht]
    exact ⟨_, rfl, rfl, rfl, rfl, rfl⟩
  · exact absurd (hasTerms_bare_iff.mpr h.toHasTerms) hno

/-- **The license that members describe**: each of its attributes, and what they are read from. -/
theorem ofMembers_eq_ok_iff {members : Members} {organization : Uuid} {catalog : Catalog}
    {now : DateTime} {l : License} :
    ofMembers members organization catalog now = .ok l ↔
      ∃ idText, Members.get? members "id" = some (.string idText) ∧
        Members.get? members "key" = some (.string l.key) ∧ Uuid.read? idText = some l.id ∧
        Terms.ofData (.ofMembers (bare members)) catalog = .ok l.terms ∧
        l.organization = organization ∧ l.createdAt = now ∧ l.updatedAt = now ∧
        l.lastValidatedAt = now := by
  unfold ofMembers
  simp only [Outcome.bind_eq_ok_iff, requiredText_eq_ok, residue_ofMembers]
  constructor
  · rintro ⟨idText, hid, key, hkey, h⟩
    cases hu : Uuid.read? idText with
    | none =>
      rw [hu] at h
      cases h
    | some id =>
      rw [hu] at h
      obtain ⟨terms, hterms, hl⟩ := Outcome.bind_eq_ok_iff.mp h
      obtain rfl := Except.ok.inj hl
      exact ⟨idText, hid, hkey, hu, hterms, rfl, rfl, rfl, rfl⟩
  · obtain ⟨id, key, owner, terms, created, updated, validated⟩ := l
    dsimp only
    rintro ⟨idText, hid, hkey, hu, hterms, rfl, rfl, rfl, rfl⟩
    refine ⟨idText, hid, key, hkey, ?_⟩
    rw [hu]
    exact Outcome.bind_eq_ok_iff.mpr ⟨terms, hterms, rfl⟩

theorem parse_eq_ok_iff {payload : Document} {organization : Uuid} {catalog : Catalog}
    {now : DateTime} {l : License} :
    parse payload organization catalog now = .ok l ↔ ∃ members,
      Payload.decode payload = .ok members ∧ ofMembers members organization catalog now = .ok l :=
  Outcome.bind_eq_ok_iff

theorem parse_ok {payload : Document} {organization : Uuid} {catalog : Catalog} {now : DateTime}
    {l : License} (h : parse payload organization catalog now = .ok l) :
    ∃ members, Payload.decode payload = .ok members ∧ HasTerms members ∧
      Terms.ofData (.ofMembers (bare members)) catalog = .ok l.terms ∧
      l.terms.data = .ofMembers (kept members catalog) ∧ l.organization = organization ∧
      Members.get? members "key" = some (.string l.key) := by
  obtain ⟨members, hdecode, hmembers⟩ := parse_eq_ok_iff.mp h
  obtain ⟨idText, -, hkey, -, hterms, horganization, -⟩ := ofMembers_eq_ok_iff.mp hmembers
  rcases Terms.ofData_ofMembers (bare members) catalog with ⟨hhas, terms, hread, hdata⟩ |
    ⟨-, fault, hfault⟩
  · obtain rfl : terms = l.terms := Except.ok.inj (hread.symm.trans hterms)
    exact ⟨members, hdecode, hasTerms_bare_iff.mp hhas, hterms, hdata, horganization, hkey⟩
  · rw [hterms] at hfault
    cases hfault

theorem decode_fits {payload : Document} {members : Members}
    (h : Payload.decode payload = .ok members) : Fits Reader.depthLimit (.object members) := by
  unfold Payload.decode at h
  split at h
  · next hr =>
    cases h
    exact Document.read_fits hr
  · cases h
  · split at h <;> cases h

theorem stored_data {l : License} {members : Members} (h : l.terms.data = .ofMembers members) :
    l.stored.data = .object members := by
  rw [License.stored, h, Dictionary.json_ofMembers]

/-- What is stored of a payload: its members without the id and the key, and the features. -/
theorem parse_stored {payload : Document} {organization : Uuid} {catalog : Catalog} {now : DateTime}
    {l : License} (h : parse payload organization catalog now = .ok l) :
    ∃ members, HasTerms members ∧ Terms.ofData (.ofMembers (bare members)) catalog = .ok l.terms ∧
      l.terms.data = .ofMembers (kept members catalog) ∧
      Fits Reader.depthLimit (.object (kept members catalog)) := by
  obtain ⟨members, hdecode, hterms, hread, hdata, -⟩ := parse_ok h
  refine ⟨members, hterms, hread, hdata, ?_⟩
  have hfits : Fits (989 + 1) (.object members) := decode_fits hdecode
  exact kept_fits (by omega) hfits catalog

theorem parse_filed {payload : Document} {organization : Uuid} {catalog : Catalog} {now : DateTime}
    {l : License} (h : parse payload organization catalog now = .ok l)
    (hw : l.stored.data.isWritable = true) :
    ∃ members, Json.decode l.stored.data.storedText = .ok (.object members) ∧
      Filed (catalog.json.reread .stored) members := by
  obtain ⟨members, hterms, -, hdata, fits⟩ := parse_stored h
  rw [stored_data hdata] at hw ⊢
  exact ⟨_, decode_storedText fits.nesting_le hw, (kept_filed hterms catalog).reread fits⟩

end License

end Entitlement
