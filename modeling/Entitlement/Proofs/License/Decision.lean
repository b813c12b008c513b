import Entitlement.Proofs.License.ReadBack

/-! # What is decided about a payload

Six requirements are checked one after another, and the first that is not met is reported
(`Payload.FirstUnmet`). When all are met, nothing else can fail: the license is the one that the
members describe (`Payload.Describes`), where each of the other values that a license has is read or
falls back to its default, and all members but the id and the key are kept in their order, with the
features in the place that they had (`Payload.Attached`). So the members alone decide, and of the
features nothing but their place matters (`parse_decides`). -/

namespace Entitlement

namespace Payload

/-! ### Requirements -/

/-- What a payload has to meet. -/
inductive Requirement where
  | id
  | key
  | uuid
  | status
  | plan
  | planName
  deriving DecidableEq

namespace Requirement

/-- The requirements in the order in which they are checked. -/
def all : List Requirement := [.id, .key, .uuid, .status, .plan, .planName]

/-- The requirements that are checked before. -/
def earlier (r : Requirement) : List Requirement := all.takeWhile (· ≠ r)

/-- The full name of the member that is looked at. -/
def field : Requirement → Text
  | .id | .uuid => "id"
  | .key => "key"
  | .status => "status"
  | .plan => "plan"
  | .planName => "plan.name"

/-- The word for what the value has to be. -/
def type : Requirement → Text
  | .uuid => "uuid"
  | .plan => "object"
  | .id | .key | .status | .planName => "string"

/-- The value that is looked at. -/
def value? (members : Members) : Requirement → Option Json
  | .id | .uuid => Members.get? members "id"
  | .key => Members.get? members "key"
  | .status => Members.get? members "status"
  | .plan => Members.get? members "plan"
  | .planName => (Members.get? members "plan").bind fun plan => plan.get? "name"

/-- What the value has to be. -/
def Accepts : Requirement → Json → Prop
  | .uuid, v => ∃ text id, v = .string text ∧ Uuid.read? text = some id
  | .plan, v => ∃ plan, v = .object plan
  | .id, v | .key, v | .status, v | .planName, v => ∃ text, v = .string text

/-- There is a value, and it is what it has to be. -/
def Met (members : Members) (r : Requirement) : Prop :=
  ∃ v, r.value? members = some v ∧ r.Accepts v

/-- What is said of a requirement that is not met. -/
def fault (members : Members) (r : Requirement) : Fault :=
  let complaint : Text :=
    match r.value? members with
    | none => " key is missing"
    | some _ => (" key is not a valid " : Text) ++ r.type
  .invalidInput (r.field ++ complaint) [("field", .string r.field)]

end Requirement

open Requirement

/-- **The first requirement that is not met.** -/
structure FirstUnmet (members : Members) (r : Requirement) : Prop where
  met : ∀ e ∈ r.earlier, Met members e
  unmet : ¬ Met members r

theorem FirstUnmet.unique {members : Members} {r r' : Requirement} (h : FirstUnmet members r)
    (h' : FirstUnmet members r') : r = r' := by
  have comparable : r = r' ∨ r ∈ r'.earlier ∨ r' ∈ r.earlier := by
    cases r <;> cases r' <;> decide
  rcases comparable with heq | hbefore | hbehind
  · exact heq
  · exact absurd (h'.met r hbefore) h.unmet
  · exact absurd (h.met r' hbehind) h'.unmet

/-! ### The checks one by one -/

variable {members inner : Members} {r : Requirement} {name : Text} {fault : Fault}

theorem Requirement.fault_eq (members : Members) (r : Requirement) : r.fault members =
    match r.value? members with
    | none => missing r.field
    | some _ => mistyped r.field r.type := by
  unfold Requirement.fault
  cases r.value? members with
  | none => rfl
  | some v =>
    unfold mistyped
    rw [List.append_assoc]

theorem requiredText_eq_error {field : Text} : requiredText inner name field = .error fault ↔
    (∀ s, Members.get? inner name ≠ some (.string s)) ∧
      fault = match Members.get? inner name with
        | none => missing field
        | some _ => mistyped field "string" := by
  unfold requiredText
  cases Members.get? inner name with
  | none => simp [eq_comm]
  | some v => cases v <;> simp [eq_comm]

theorem requiredObject_eq_error : requiredObject inner name = .error fault ↔
    (∀ plan, Members.get? inner name ≠ some (.object plan)) ∧
      fault = match Members.get? inner name with
        | none => missing name
        | some _ => mistyped name "object" := by
  unfold requiredObject
  cases Members.get? inner name with
  | none => simp [eq_comm]
  | some v => cases v <;> simp [eq_comm]

/-- The requirement asks for a text that is looked up under a name. -/
structure AsksText (r : Requirement) (members inner : Members) (name : Text) : Prop where
  value : r.value? members = Members.get? inner name
  type : r.type = "string"
  accepts : ∀ v, r.Accepts v ↔ ∃ text, v = .string text

theorem AsksText.met (asks : AsksText r members inner name) {text : Text}
    (h : requiredText inner name r.field = .ok text) : Met members r := by
  have hvalue : r.value? members = some (.string text) :=
    asks.value.trans (requiredText_eq_ok.mp h)
  exact ⟨.string text, hvalue, (asks.accepts _).mpr ⟨text, rfl⟩⟩

theorem AsksText.unmet (asks : AsksText r members inner name)
    (h : requiredText inner name r.field = .error fault) :
    ¬ Met members r ∧ fault = r.fault members := by
  obtain ⟨hno, hfault⟩ := requiredText_eq_error.mp h
  constructor
  · rintro ⟨v, hvalue, haccepts⟩
    obtain ⟨text, rfl⟩ := (asks.accepts v).mp haccepts
    exact hno text (asks.value.symm.trans hvalue)
  · rw [hfault, r.fault_eq, asks.value, asks.type]

theorem asksText_id (members : Members) : AsksText .id members members "id" :=
  ⟨rfl, rfl, fun _ => Iff.rfl⟩

theorem asksText_key (members : Members) : AsksText .key members members "key" :=
  ⟨rfl, rfl, fun _ => Iff.rfl⟩

theorem asksText_status (members : Members) : AsksText .status members (bare members) "status" :=
  ⟨(get?_bare members "status" (by decide) (by decide)).symm, rfl, fun _ => Iff.rfl⟩

theorem asksText_planName {plan : Members} (h : Members.get? members "plan" = some (.object plan)) :
    AsksText .planName members plan "name" := by
  refine ⟨?_, rfl, fun _ => Iff.rfl⟩
  unfold Requirement.value?
  rw [h]
  rfl

theorem get?_bare_plan (members : Members) :
    Members.get? (bare members) "plan" = Members.get? members "plan" :=
  get?_bare members "plan" (by decide) (by decide)

/-- The text under `id` is looked at twice. -/
theorem uuid_unmet {idText : Text} (hid : Members.get? members "id" = some (.string idText))
    (h : Uuid.read? idText = none) :
    ¬ Met members .uuid ∧ mistyped "id" "uuid" = Requirement.uuid.fault members := by
  have hvalue : Requirement.uuid.value? members = some (.string idText) := hid
  constructor
  · rintro ⟨v, hv, text, id, rfl, hread⟩
    obtain rfl : idText = text :=
      Json.string.inj (Option.some.inj (hvalue.symm.trans hv))
    rw [h] at hread
    cases hread
  · rw [Requirement.fault_eq, hvalue]
    rfl

theorem terms_unmet {catalog : Catalog}
    (h : Terms.ofData (.ofMembers (bare members)) catalog = .error fault) :
    (¬ Met members .status ∧ fault = Requirement.status.fault members) ∨
      (Met members .status ∧ ¬ Met members .plan ∧ fault = Requirement.plan.fault members) ∨
      (Met members .status ∧ Met members .plan ∧ ¬ Met members .planName ∧
        fault = Requirement.planName.fault members) := by
  unfold Terms.ofData at h
  rw [Dictionary.members_ofMembers] at h
  rcases Outcome.bind_eq_error_iff.mp h with hstatus | ⟨status, hstatus, h⟩
  · exact .inl ((asksText_status members).unmet hstatus)
  have metStatus : Met members .status := (asksText_status members).met hstatus
  rcases Outcome.bind_eq_error_iff.mp h with hplan | ⟨plan, hplan, h⟩
  · obtain ⟨hno, hfault⟩ := requiredObject_eq_error.mp hplan
    rw [get?_bare_plan] at hno hfault
    refine .inr (.inl ⟨metStatus, ?_, ?_⟩)
    · rintro ⟨v, hv, plan, rfl⟩
      exact hno plan hv
    · rw [hfault, Requirement.fault_eq]
      rfl
  rw [requiredObject_eq_ok, get?_bare_plan] at hplan
  have metPlan : Met members .plan := ⟨.object plan, hplan, plan, rfl⟩
  rcases Outcome.bind_eq_error_iff.mp h with hname | ⟨planName, -, h⟩
  · obtain ⟨hunmet, hfault⟩ := (asksText_planName hplan).unmet hname
    exact .inr (.inr ⟨metStatus, metPlan, hunmet, hfault⟩)
  · cases h

variable {organization : Uuid} {catalog : Catalog} {now : DateTime} {l : License}

/-- **Where members are refused** the first requirement that is not met is reported. -/
theorem firstUnmet_of_error (h : License.ofMembers members organization catalog now = .error fault) :
    ∃ r, FirstUnmet members r ∧ fault = r.fault members := by
  unfold License.ofMembers at h
  rw [residue_ofMembers] at h
  rcases Outcome.bind_eq_error_iff.mp h with hid | ⟨idText, hid, h⟩
  · obtain ⟨hunmet, hfault⟩ := (asksText_id members).unmet hid
    exact ⟨.id, ⟨nofun, hunmet⟩, hfault⟩
  have metId : Met members .id := (asksText_id members).met hid
  rcases Outcome.bind_eq_error_iff.mp h with hkey | ⟨key, hkey, h⟩
  · obtain ⟨hunmet, hfault⟩ := (asksText_key members).unmet hkey
    exact ⟨.key, ⟨by simpa [earlier, all] using metId, hunmet⟩, hfault⟩
  have metKey : Met members .key := (asksText_key members).met hkey
  have hidText : Members.get? members "id" = some (.string idText) := requiredText_eq_ok.mp hid
  cases hread : Uuid.read? idText with
  | none =>
    rw [hread] at h
    obtain rfl : mistyped "id" "uuid" = fault := Except.error.inj h
    obtain ⟨hunmet, hfault⟩ := uuid_unmet hidText hread
    exact ⟨.uuid, ⟨by simpa [earlier, all] using ⟨metId, metKey⟩, hunmet⟩, hfault⟩
  | some id =>
    rw [hread] at h
    have metUuid : Met members .uuid := ⟨.string idText, hidText, idText, id, rfl, hread⟩
    rcases Outcome.bind_eq_error_iff.mp h with hterms | ⟨terms, -, h⟩
    · rcases terms_unmet hterms with ⟨hunmet, hfault⟩ | ⟨metStatus, hunmet, hfault⟩ |
        ⟨metStatus, metPlan, hunmet, hfault⟩
      · exact ⟨.status, ⟨by simpa [earlier, all] using ⟨metId, metKey, metUuid⟩, hunmet⟩, hfault⟩
      · exact ⟨.plan, ⟨by simpa [earlier, all] using ⟨metId, metKey, metUuid, metStatus⟩, hunmet⟩,
          hfault⟩
      · exact ⟨.planName,
          ⟨by simpa [earlier, all] using ⟨metId, metKey, metUuid, metStatus, metPlan⟩, hunmet⟩,
          hfault⟩
    · cases h

/-! ### What is read where nothing is missing -/

/-- A text. -/
def text? : Json → Option Text
  | .string s => some s
  | _ => none

/-- A number that can be cut to an integer. -/
def epoch? : Json → Option Int
  | .int i => some i
  | .float x => x.truncate?
  | _ => none

/-- A text that tells a moment. -/
def moment? : Json → Option DateTime
  | .string s => Rfc3339.read? s
  | _ => none

/-- What is read under a name, or the default where that is absent or of no fitting form. -/
def readOr {α : Type} (default : α) (read : Json → Option α) (members : Members) (name : Text) : α :=
  ((Members.get? members name).bind read).getD default

/-- **The members that are kept**: all but the id and the key, with the features in their place, or
else at the end. -/
inductive Attached (members : Members) (features : Json) : Members → Prop
  | inPlace (before : Members) (v : Json) (behind : Members)
      (split : members = before ++ (("features" : Text), v) :: behind) :
      Attached members features (bare before ++ (("features" : Text), features) :: bare behind)
  | atEnd (absent : ∀ m ∈ members, m.1 ≠ "features") :
      Attached members features (bare members ++ [(("features" : Text), features)])

/-- **The license that members describe.** -/
structure Describes (members : Members) (organization : Uuid) (catalog : Catalog) (now : DateTime)
    (l : License) : Prop where
  id : ∃ text, Members.get? members "id" = some (.string text) ∧ Uuid.read? text = some l.id
  key : Members.get? members "key" = some (.string l.key)
  status : Members.get? members "status" = some (.string l.terms.status)
  planName : ∃ plan, Members.get? members "plan" = some (.object plan) ∧
    Members.get? plan "name" = some (.string l.terms.planName)
  state : l.terms.state = readOr [] text? members "state"
  freeUntil : l.terms.freeUntil = readOr DateTime.first moment? members "free_until"
  validFrom : l.terms.validFrom = readOr 0 epoch? members "valid_from"
  validUntil : l.terms.validUntil = readOr 0 epoch? members "valid_until"
  features : l.terms.features = catalog
  data : ∃ data, Attached members catalog.json data ∧ l.terms.data = .ofMembers data
  organization : l.organization = organization
  createdAt : l.createdAt = now
  updatedAt : l.updatedAt = now
  lastValidatedAt : l.lastValidatedAt = now

theorem textOrEmpty_eq (members : Members) (name : Text) :
    textOrEmpty members name = readOr [] text? members name := by
  unfold textOrEmpty readOr
  cases Members.get? members name with
  | none => rfl
  | some v => cases v <;> rfl

theorem epochOrZero_eq (members : Members) (name : Text) :
    epochOrZero members name = readOr 0 epoch? members name := by
  unfold epochOrZero readOr
  cases Members.get? members name with
  | none => rfl
  | some v => cases v <;> rfl

theorem timeOrFirst_eq (members : Members) (name : Text) :
    timeOrFirst members name = readOr DateTime.first moment? members name := by
  unfold timeOrFirst readOr
  cases Members.get? members name with
  | none => rfl
  | some v => cases v <;> rfl

theorem bare_append (before behind : Members) :
    bare (before ++ behind) = bare before ++ bare behind := by
  simp [bare, Members.erase]

theorem bare_features (v : Json) (behind : Members) :
    bare ((("features" : Text), v) :: behind) = (("features" : Text), v) :: bare behind := by
  have hid : ("features" : Text) ≠ "id" := by decide
  have hkey : ("features" : Text) ≠ "key" := by decide
  simp [bare, Members.erase, hid, hkey]

theorem mem_of_mem_bare {m : Text × Json} (h : m ∈ bare members) : m ∈ members :=
  List.mem_of_mem_filter (List.mem_of_mem_filter h)

theorem features_notMem_bare (h : ∀ m ∈ members, m.1 ≠ ("features" : Text)) :
    ("features" : Text) ∉ (bare members).map Prod.fst := by
  intro hmem
  obtain ⟨m, hm, hname⟩ := List.mem_map.mp hmem
  exact h m (mem_of_mem_bare hm) hname

/-- Distinct names are those of the members in front and of the one behind them. -/
theorem distinct_split {before behind : Members} {v : Json}
    (distinct : Members.Distinct (before ++ (name, v) :: behind)) : ∀ m ∈ before, m.1 ≠ name := by
  intro m hm hname
  unfold Members.Distinct at distinct
  rw [List.map_append, List.map_cons, List.nodup_append] at distinct
  obtain ⟨-, -, hdisjoint⟩ := distinct
  exact hdisjoint m.1 (List.mem_map_of_mem hm) name List.mem_cons_self hname

/-- The features are put between the same members as before, whatever they were. -/
theorem kept_split {before behind : Members} {v : Json} (catalog : Catalog)
    (distinct : Members.Distinct (before ++ (("features" : Text), v) :: behind)) :
    kept (before ++ (("features" : Text), v) :: behind) catalog =
      bare before ++ (("features" : Text), catalog.json) :: bare behind := by
  have hfresh := features_notMem_bare (distinct_split distinct)
  rw [kept, bare_append, bare_features, Members.insert_append hfresh, Members.insert, if_pos rfl]

theorem kept_absent (catalog : Catalog) (h : ∀ m ∈ members, m.1 ≠ ("features" : Text)) :
    kept members catalog = bare members ++ [(("features" : Text), catalog.json)] :=
  Members.insert_of_notMem (features_notMem_bare h) _

theorem attached_iff {data : Members} (distinct : Members.Distinct members) (catalog : Catalog) :
    Attached members catalog.json data ↔ data = kept members catalog := by
  constructor
  · intro h
    cases h with
    | inPlace before v behind split =>
      subst split
      exact (kept_split catalog distinct).symm
    | atEnd absent => exact (kept_absent catalog absent).symm
  · rintro rfl
    by_cases absent : ∀ m ∈ members, m.1 ≠ ("features" : Text)
    · rw [kept_absent catalog absent]
      exact .atEnd absent
    · push Not at absent
      obtain ⟨⟨n, v⟩, hm, rfl⟩ := absent
      obtain ⟨before, behind, rfl⟩ := List.append_of_mem hm
      rw [kept_split catalog distinct]
      exact .inPlace before v behind rfl

/-- **Members give a license just when they describe it.** -/
theorem ofMembers_iff_describes (distinct : Members.Distinct members) :
    License.ofMembers members organization catalog now = .ok l ↔
      Describes members organization catalog now l := by
  have hget : ∀ name : Text, ("id" : Text) ≠ name → ("key" : Text) ≠ name →
      (Dictionary.ofMembers (bare members)).get? name = Members.get? members name := by
    intro name hid hkey
    rw [← Dictionary.get?_members, Dictionary.members_ofMembers, get?_bare members name hid hkey]
  have hread : ∀ {α : Type} (default : α) (read : Json → Option α) (name : Text),
      ("id" : Text) ≠ name → ("key" : Text) ≠ name →
        readOr default read (Dictionary.ofMembers (bare members)).members name =
          readOr default read members name := by
    intro α default read name hid hkey
    unfold readOr
    rw [Dictionary.members_ofMembers, get?_bare members name hid hkey]
  rw [License.ofMembers_eq_ok_iff]
  simp only [Terms.ofData_eq_ok_iff, Dictionary.insert_ofMembers]
  constructor
  · rintro ⟨idText, hid, hkey, hu, ⟨agrees, hfeatures, hdata⟩, horganization, hcreated, hupdated,
      hvalidated⟩
    obtain ⟨plan, hplan, hname⟩ := agrees.plan
    exact {
      id := ⟨idText, hid, hu⟩
      key := hkey
      status := (hget _ (by decide) (by decide)).symm.trans agrees.status
      planName := ⟨plan, (hget _ (by decide) (by decide)).symm.trans hplan, hname⟩
      state := by rw [agrees.state, textOrEmpty_eq, hread _ _ _ (by decide) (by decide)]
      freeUntil := by rw [agrees.freeUntil, timeOrFirst_eq, hread _ _ _ (by decide) (by decide)]
      validFrom := by rw [agrees.validFrom, epochOrZero_eq, hread _ _ _ (by decide) (by decide)]
      validUntil := by rw [agrees.validUntil, epochOrZero_eq, hread _ _ _ (by decide) (by decide)]
      features := hfeatures
      data := ⟨_, (attached_iff distinct catalog).mpr rfl, hdata⟩
      organization := horganization
      createdAt := hcreated
      updatedAt := hupdated
      lastValidatedAt := hvalidated }
  · intro h
    obtain ⟨idText, hid, hu⟩ := h.id
    obtain ⟨plan, hplan, hname⟩ := h.planName
    obtain ⟨data, hattached, hdata⟩ := h.data
    obtain rfl := (attached_iff distinct catalog).mp hattached
    have agrees : l.terms.AgreesWith (.ofMembers (bare members)) := {
      status := (hget _ (by decide) (by decide)).trans h.status
      plan := ⟨plan, (hget _ (by decide) (by decide)).trans hplan, hname⟩
      state := by rw [h.state, textOrEmpty_eq, hread _ _ _ (by decide) (by decide)]
      freeUntil := by rw [h.freeUntil, timeOrFirst_eq, hread _ _ _ (by decide) (by decide)]
      validFrom := by rw [h.validFrom, epochOrZero_eq, hread _ _ _ (by decide) (by decide)]
      validUntil := by rw [h.validUntil, epochOrZero_eq, hread _ _ _ (by decide) (by decide)] }
    exact ⟨idText, hid, h.key, hu, ⟨agrees, h.features, hdata⟩, h.organization, h.createdAt,
      h.updatedAt, h.lastValidatedAt⟩

/-- A license is described only where all requirements are met. -/
theorem Describes.met (h : Describes members organization catalog now l) (r : Requirement) :
    Met members r := by
  obtain ⟨idText, hid, hu⟩ := h.id
  obtain ⟨plan, hplan, hname⟩ := h.planName
  cases r with
  | id => exact ⟨_, hid, idText, rfl⟩
  | key => exact ⟨_, h.key, l.key, rfl⟩
  | uuid => exact ⟨_, hid, idText, l.id, rfl, hu⟩
  | status => exact ⟨_, h.status, l.terms.status, rfl⟩
  | plan => exact ⟨_, hplan, plan, rfl⟩
  | planName =>
    have hvalue : Requirement.planName.value? members = some (.string l.terms.planName) := by
      unfold Requirement.value?
      rw [hplan]
      exact hname
    exact ⟨_, hvalue, l.terms.planName, rfl⟩

theorem ofMembers_eq_error_iff (distinct : Members.Distinct members) :
    License.ofMembers members organization catalog now = .error fault ↔
      ∃ r, FirstUnmet members r ∧ fault = r.fault members := by
  constructor
  · intro h
    exact firstUnmet_of_error h
  · rintro ⟨r, hr, rfl⟩
    cases hresult : License.ofMembers members organization catalog now with
    | error fault =>
      obtain ⟨r', hr', rfl⟩ := firstUnmet_of_error hresult
      rw [hr.unique hr']
    | ok l =>
      have hdescribes := (ofMembers_iff_describes distinct).mp hresult
      exact absurd (hdescribes.met r) hr.unmet

theorem ofMembers_attached (members : Members) (features : Json) (organization : Uuid)
    (catalog : Catalog) (now : DateTime) :
    License.ofMembers (Members.insert members "features" features) organization catalog now =
      License.ofMembers members organization catalog now := by
  have hbare : bare (Members.insert members "features" features) =
      Members.insert (bare members) "features" features := by
    unfold bare
    rw [Members.erase_insert _ (by decide), Members.erase_insert _ (by decide)]
  unfold License.ofMembers
  simp only [residue_ofMembers, hbare, Terms.ofData_attached, requiredText, Members.get?_insert,
    if_neg (by decide : ("features" : Text) ≠ "id"),
    if_neg (by decide : ("features" : Text) ≠ "key")]

end Payload

namespace License

open Payload

theorem parse_of_decode {payload : Document} {members : Members}
    (h : Payload.decode payload = .ok members) (organization : Uuid) (catalog : Catalog)
    (now : DateTime) :
    parse payload organization catalog now = ofMembers members organization catalog now := by
  unfold parse
  rw [h]
  rfl

theorem describes_of_parse {payload : Document} {members : Members} {organization : Uuid}
    {catalog : Catalog} {now : DateTime} {l : License} (h : Payload.decode payload = .ok members)
    (hparse : parse payload organization catalog now = .ok l) :
    Describes members organization catalog now l := by
  rw [parse_of_decode h] at hparse
  exact (ofMembers_iff_describes (decode_fits h).of_object.1).mp hparse

theorem parse_of_met {payload : Document} {members : Members}
    (h : Payload.decode payload = .ok members) (met : ∀ r, Requirement.Met members r)
    (organization : Uuid) (catalog : Catalog) (now : DateTime) :
    ∃ l, parse payload organization catalog now = .ok l := by
  rw [parse_of_decode h]
  cases hresult : ofMembers members organization catalog now with
  | ok l => exact ⟨l, rfl⟩
  | error fault =>
    obtain ⟨r, hr, -⟩ := firstUnmet_of_error hresult
    exact absurd (met r) hr.unmet

/-- **The members of a payload alone decide.** A payload that is an object with these members is
refused just when a requirement is not met, and for the first one of them; otherwise it gives the
license that the members describe, with defaults where optional members are absent or of no fitting
form, and with all members kept but the id and the key. Payloads that differ in the value of the
features only have the same outcome. -/
theorem parse_decides {payload : Document} {members : Members}
    (h : Payload.decode payload = .ok members) (organization : Uuid) (catalog : Catalog)
    (now : DateTime) :
    (∀ fault, parse payload organization catalog now = .error fault ↔
      ∃ r, FirstUnmet members r ∧ fault = r.fault members) ∧
    ((∃ l, parse payload organization catalog now = .ok l) ↔
      ∀ r, Requirement.Met members r) ∧
    (∀ l, parse payload organization catalog now = .ok l ↔
      Describes members organization catalog now l) ∧
    ∀ before v behind w other, members = before ++ (("features" : Text), v) :: behind →
      Payload.decode other = .ok (before ++ (("features" : Text), w) :: behind) →
        parse other organization catalog now = parse payload organization catalog now := by
  have distinct : Members.Distinct members := (decode_fits h).of_object.1
  have hparse : parse payload organization catalog now =
      ofMembers members organization catalog now := by
    unfold parse
    rw [h]
    rfl
  rw [hparse]
  refine ⟨fun fault => ofMembers_eq_error_iff distinct, ?_,
    fun l => ofMembers_iff_describes distinct, ?_⟩
  · constructor
    · rintro ⟨l, hl⟩
      exact ((ofMembers_iff_describes distinct).mp hl).met
    · intro met
      cases hresult : ofMembers members organization catalog now with
      | ok l => exact ⟨l, rfl⟩
      | error fault =>
        obtain ⟨r, hr, -⟩ := firstUnmet_of_error hresult
        exact absurd (met r) hr.unmet
  · rintro before v behind w other rfl hother
    have hfresh : ("features" : Text) ∉ before.map Prod.fst := by
      intro hmem
      obtain ⟨m, hm, hname⟩ := List.mem_map.mp hmem
      exact distinct_split distinct m hm hname
    have hinsert : before ++ (("features" : Text), w) :: behind =
        Members.insert (before ++ (("features" : Text), v) :: behind) "features" w := by
      rw [Members.insert_append hfresh, Members.insert, if_pos rfl]
    unfold parse
    rw [hother, hinsert]
    exact ofMembers_attached _ w organization catalog now

/-! ### A payload without a plan -/

/-- A payload that says nothing of a plan. -/
def planlessPayload : Document :=
  .text ("\x7b\"key\": \"K\", \"id\": \"00000000000000000000000000000001\", "
    ++ ("\"valid_from\": true, \"status\": \"S\"\x7d" : Text))

/-- Its members. -/
def planlessMembers : Members :=
  [("key", .string "K"), ("id", .string "00000000000000000000000000000001"),
    ("valid_from", .bool true), ("status", .string "S")]

theorem planlessPayload_is_refused :
    Payload.decode planlessPayload = .ok planlessMembers ∧
      parse planlessPayload .nil Catalog.standard DateTime.first =
        .error (.invalidInput "plan key is missing" [("field", .string "plan")]) := by
  have hdecode : Payload.decode planlessPayload = .ok planlessMembers :=
    Outcome.eq_ok_of_toOption (by decide +kernel)
  have met : ∀ e ∈ Requirement.plan.earlier, Requirement.Met planlessMembers e := by
    intro e he
    have hcases : e = .id ∨ e = .key ∨ e = .uuid ∨ e = .status := by
      simpa [Requirement.earlier, Requirement.all] using he
    rcases hcases with rfl | rfl | rfl | rfl
    · exact ⟨_, rfl, _, rfl⟩
    · exact ⟨_, rfl, _, rfl⟩
    · exact ⟨_, rfl, _, ⟨⟨1, by decide⟩⟩, rfl, by decide +kernel⟩
    · exact ⟨_, rfl, _, rfl⟩
  have unmet : ¬ Requirement.Met planlessMembers .plan := by
    rintro ⟨v, hv, -⟩
    cases hv
  refine ⟨hdecode, ?_⟩
  obtain ⟨hrefused, -⟩ := parse_decides hdecode .nil Catalog.standard DateTime.first
  exact (hrefused _).mpr ⟨.plan, ⟨met, unmet⟩, rfl⟩

end License

end Entitlement
