import Entitlement.Proofs.Json.Joined
import Entitlement.Proofs.License.Stored

/-! # A license read back

A license is rebuilt from its data as reading back leaves it, and the features are attached anew.
What was stored of a payload always gives a license again; it is the same license if and only if the
data, the features aside, is joined (`License.ofStored_reread`). The features do not matter, since
the ones in the data are never looked at (`Terms.ofData_attached`). -/

namespace Entitlement

open Entitlement.Json Entitlement.Payload

namespace Members

theorem insert_insert (members : Members) (name : Text) (v w : Json) :
    insert (insert members name v) name w = insert members name w := by
  induction members with
  | nil => simp [insert]
  | cons m members ih =>
    obtain ⟨n, u⟩ := m
    by_cases h : n = name
    · simp [insert, h]
    · simp [insert, h, ih]

theorem erase_eq_self {members : Members} {name : Text} (h : get? members name = none) :
    erase members name = members := by
  refine List.filter_eq_self.mpr fun m hm => decide_eq_true fun he => ?_
  have hne := List.lookup_eq_none_iff.mp h m hm
  rw [he] at hne
  exact absurd hne (by simp)

end Members

namespace Terms

/-- The terms have the features of the catalog, whatever the data says. -/
theorem features_of_ofData {data : Dictionary} {catalog : Catalog} {terms : Terms}
    (h : Terms.ofData data catalog = .ok terms) : terms.features = catalog :=
  (ofData_eq_ok_iff.mp h).2.1

/-- **The features in the data are never looked at.** -/
theorem ofData_attached (members : Members) (features : Json) (catalog : Catalog) :
    Terms.ofData (.ofMembers (Members.insert members "features" features)) catalog =
      Terms.ofData (.ofMembers members) catalog := by
  have hget : ∀ name : Text, ("features" : Text) ≠ name →
      Members.get? (Members.insert members "features" features) name =
        Members.get? members name := by
    intro name hn
    rw [Members.get?_insert, if_neg hn]
  unfold Terms.ofData
  simp only [Dictionary.members_ofMembers, Dictionary.insert_ofMembers, Members.insert_insert,
    requiredText, requiredObject, textOrEmpty, timeOrFirst, epochOrZero,
    hget "status" (by decide), hget "plan" (by decide), hget "state" (by decide),
    hget "free_until" (by decide), hget "valid_from" (by decide), hget "valid_until" (by decide)]

end Terms

namespace Json

theorem insert_map_reread {members : Members} {features : Json}
    (distinct : Members.Distinct members) (hf : Members.get? members "features" = some features)
    (h : ∀ m ∈ members, m.1 ≠ ("features" : Text) → m.2.reread .stored = m.2) :
    Members.insert (members.map fun m => (m.1, m.2.reread .stored)) "features" features =
      members := by
  induction members with
  | nil => cases hf
  | cons m members ih =>
    obtain ⟨n, v⟩ := m
    obtain ⟨hn, hd⟩ := List.nodup_cons.mp distinct
    rw [Members.get?_cons] at hf
    rw [List.map_cons, Members.insert]
    by_cases hname : n = ("features" : Text)
    · rw [if_pos hname] at hf
      rw [if_pos hname, ← hname, Option.some.inj hf]
      congr 1
      refine (List.map_congr_left fun m hm => ?_).trans (List.map_id members)
      have hne : m.1 ≠ ("features" : Text) := by
        intro he
        refine hn (List.mem_map.mpr ⟨m, hm, ?_⟩)
        rw [he, hname]
      rw [h m (List.mem_cons_of_mem _ hm) hne]
      rfl
    · rw [if_neg hname] at hf
      rw [if_neg hname, h (n, v) (List.mem_cons_self ..) hname,
        ih hd hf fun m hm => h m (List.mem_cons_of_mem _ hm)]

/-- **Members come back with the features set anew** just where all others are joined. -/
theorem insert_reread_eq_self_iff {members : Members} {features : Json} {depth : Nat}
    (fits : Fits depth (.object members))
    (hf : Members.get? members "features" = some features) :
    Members.insert (rereadMembers .stored [] members) "features" features = members ↔
      membersJoined (Members.erase members "features") = true := by
  obtain ⟨distinct, hinner⟩ := fits.of_object
  have hothers : membersJoined (Members.erase members "features") = true ↔
      ∀ m ∈ members, m.1 ≠ ("features" : Text) → m.1.Joined ∧ m.2.isJoined = true := by
    rw [membersJoined_iff]
    simp only [Members.erase, List.mem_filter, decide_eq_true_eq, and_imp]
  rw [hothers]
  constructor
  · intro h m hm hname
    have hread : ∀ m ∈ rereadMembers .stored [] members, m.1.Joined ∧ m.2.isJoined = true :=
      membersJoined_iff.mp (membersJoined_reread members rfl)
    rw [← h] at hm
    rcases Members.mem_insert hm with rfl | hm
    · exact absurd rfl hname
    · exact hread m hm
  · intro h
    have hnames : ∀ m ∈ members, m.1.Joined := by
      intro m hm
      by_cases hname : m.1 = ("features" : Text)
      · rw [hname]
        decide
      · exact (h m hm hname).1
    have hread : rereadMembers .stored [] members = _ :=
      rereadMembers_of_names distinct fun _ => hnames
    rw [hread, List.nil_append]
    refine insert_map_reread distinct hf fun m hm hname => ?_
    obtain ⟨d, hd⟩ := hinner m hm
    exact reread_of_joined hd (h m hm hname).2

end Json

namespace License

/-- The data of a license without the features that were attached to it. -/
def ownData (l : License) : Dictionary := l.terms.data.erase "features"

theorem ofStored_object {members : Members} (hid : Members.get? members "id" = none)
    (hkey : Members.get? members "key" = none) (stored : StoredLicense)
    (hd : stored.data = .object members) (catalog : Catalog) :
    ofStored stored catalog =
      (Terms.ofData (.ofMembers members) catalog).map fun terms =>
        ⟨stored.id, stored.key, stored.organization, terms, stored.createdAt, stored.updatedAt,
          stored.lastValidatedAt⟩ := by
  have hbare : bare members = members := by
    rw [bare, Members.erase_eq_self hid, Members.erase_eq_self hkey]
  have hread : Dictionary.ofJson stored.data = .ok (.ofMembers members) := by
    rw [hd]
    rfl
  unfold ofStored
  rw [hread]
  simp only [bind, Except.bind, residue_ofMembers, hbare]
  cases Terms.ofData (.ofMembers members) catalog <;> rfl

theorem ofStored_reread {payload : Document} {organization : Uuid} {catalog : Catalog}
    {now : DateTime} {fresh l : License}
    (h : parse payload organization catalog now = .ok fresh) (hterms : l.terms = fresh.terms) :
    ∃ l', ofStored { l.stored with data := l.stored.data.reread .stored } catalog = .ok l' ∧
      l'.id = l.id ∧ l'.key = l.key ∧ l'.organization = l.organization ∧
      l'.createdAt = l.createdAt ∧ l'.updatedAt = l.updatedAt ∧
      l'.lastValidatedAt = l.lastValidatedAt ∧ l'.terms.features = l.terms.features ∧
      (l' = l ↔ l.ownData.json.isJoined = true) := by
  obtain ⟨members, hhas, hread, hfresh, fits⟩ := parse_stored h
  have hkept := kept_filed hhas catalog
  have hback := hkept.reread fits
  have hdata : l.terms.data = .ofMembers (kept members catalog) := hterms ▸ hfresh
  have hobject : l.stored.data.reread .stored =
      .object (rereadMembers .stored [] (kept members catalog)) := by
    rw [stored_data hdata, Json.reread]
  have hown : l.ownData.json.isJoined =
      membersJoined (Members.erase (kept members catalog) "features") := by
    rw [ownData, hdata, Dictionary.erase_ofMembers, Dictionary.json_ofMembers, isJoined]
  have hsame := insert_reread_eq_self_iff fits hkept.features
  rw [ofStored_object hback.id hback.key _ hobject]
  rcases Terms.ofData_ofMembers (rereadMembers .stored [] (kept members catalog)) catalog with
    ⟨-, terms, hok, hnew⟩ | ⟨hno, -⟩
  · rw [hok]
    refine ⟨_, rfl, rfl, rfl, rfl, rfl, rfl, rfl, ?_, ?_⟩
    · rw [hterms]
      exact (Terms.features_of_ofData hok).trans (Terms.features_of_ofData hread).symm
    · rw [hown, ← hsame]
      constructor
      · intro he
        have heq : (Dictionary.ofMembers (Members.insert
            (rereadMembers .stored [] (kept members catalog)) "features" catalog.json)) =
              .ofMembers (kept members catalog) := by
          rw [← hnew, ← hdata, ← he]
        have := congrArg Dictionary.members heq
        rwa [Dictionary.members_ofMembers, Dictionary.members_ofMembers] at this
      · intro he
        have hterms' : terms = l.terms := by
          have hsteps : Terms.ofData
              (.ofMembers (rereadMembers .stored [] (kept members catalog))) catalog =
                .ok l.terms := by
            calc Terms.ofData (.ofMembers (rereadMembers .stored [] (kept members catalog))) catalog
              _ = Terms.ofData (.ofMembers (Members.insert (rereadMembers .stored []
                    (kept members catalog)) "features" catalog.json)) catalog :=
                  (Terms.ofData_attached _ _ _).symm
              _ = Terms.ofData (.ofMembers (kept members catalog)) catalog := by rw [he]
              _ = Terms.ofData (.ofMembers (bare members)) catalog := Terms.ofData_attached _ _ _
              _ = .ok l.terms := by rw [hread, hterms]
          exact Except.ok.inj (hok.symm.trans hsteps)
        rw [hterms']
        rfl
  · exact absurd hback.toHasTerms hno

end License

end Entitlement
