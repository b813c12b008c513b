import Entitlement.Flags
import Entitlement.Proofs.Identifier
import Entitlement.Proofs.Session.Run
import Entitlement.Proofs.Text.Case
import Mathlib.Data.List.Induction

/-! # Flags as they are configured

A configuration may name an organization by several keys, which differ in the case of their letters.
What it says is to be merged flag by flag: the last of the entries for the organization that sets a
flag counts, and the default where none does (`configured`). But an evaluator keeps one entry for an
organization, the last one as a whole (`lookup_make`). So an override is hidden where a later entry
for the organization does not set the flag (`Hidden`), and then the default counts
(`value_make`, `flag_is_as_configured_iff`). -/

namespace Entitlement

namespace Flags

open Entitlement.Task

/-- The overrides of organizations, in the order of the configuration. -/
abbrev Overrides := List (Text × Dictionary)

/-! ### What a configuration says -/

/-- The entries for an organization: their key is its id, in any case of the letters. -/
def entriesFor (overrides : Overrides) (organization : Uuid) : Overrides :=
  overrides.filter fun entry => entry.1.lowerAscii = organization.text

/-- What the entries for an organization set a flag to, one after another. -/
def settings (overrides : Overrides) (flag : Text) (organization : Uuid) : List Json :=
  (entriesFor overrides organization).filterMap fun entry => entry.2.get? flag

/-- The value of a flag without overrides. -/
def fallback (defaults : Dictionary) (flag : Text) : Json :=
  (defaults.get? flag).getD (.bool false)

/-- The value of a flag that the configuration says: the last override of it, or else the default.
-/
def configured (defaults : Dictionary) (overrides : Overrides) (flag : Text)
    (organization : Uuid) : Json :=
  (settings overrides flag organization).getLast?.getD (fallback defaults flag)

/-- An override is hidden: some entry for the organization sets the flag, but not the last one. -/
def Hidden (overrides : Overrides) (flag : Text) (organization : Uuid) : Prop :=
  settings overrides flag organization ≠ [] ∧
    ∀ entry ∈ (entriesFor overrides organization).getLast?, entry.2.get? flag = none

instance (overrides : Overrides) (flag : Text) (organization : Uuid) :
    Decidable (Hidden overrides flag organization) := by
  unfold Hidden
  infer_instance

/-! ### What an evaluator keeps -/

theorem lookup_cons (organization : Text) (flags : Dictionary) (rest : Overrides) (other : Text) :
    ((organization, flags) :: rest : Overrides).lookup other =
      if organization = other then some flags else rest.lookup other := by
  rw [List.lookup_cons]
  by_cases h : organization = other
  · rw [if_pos h, h, beq_self_eq_true]
  · rw [if_neg h, beq_eq_false_iff_ne.mpr (Ne.symm h)]

theorem lookup_setOverrides (overrides : Overrides) (organization : Text) (flags : Dictionary)
    (other : Text) : (setOverrides overrides organization flags).lookup other =
      if organization = other then some flags else overrides.lookup other := by
  induction overrides with
  | nil => exact lookup_cons organization flags [] other
  | cons entry rest ih =>
    obtain ⟨o, f⟩ := entry
    unfold setOverrides
    by_cases ho : o = organization
    · rw [if_pos ho, lookup_cons, lookup_cons, ho]
      by_cases h : organization = other
      · rw [if_pos h, if_pos h]
      · rw [if_neg h, if_neg h, if_neg h]
    · rw [if_neg ho, lookup_cons, lookup_cons, ih]
      by_cases h : organization = other
      · rw [if_pos h, if_neg fun he => ho (he.trans h.symm), if_pos h]
      · rw [if_neg h, if_neg h]

theorem val_le_of_mem_text {organization : Uuid} {c : CodePoint} (h : c ∈ organization.text) :
    c.val ≤ 0x66 := by
  have hdigit : ∀ k < 16, (CodePoint.hexDigit k).val ≤ 0x66 := by decide
  rcases Uuid.mem_text h with rfl | ⟨k, hk, rfl⟩
  · decide
  · exact hdigit k hk

/-- **An evaluator keeps the last entry for an organization** as a whole. -/
theorem lookup_make (defaults : Dictionary) (overrides : Overrides) (organization : Uuid) :
    (Evaluator.make defaults overrides).overrides.lookup organization.text =
      (entriesFor overrides organization).getLast?.map Prod.snd := by
  unfold Evaluator.make entriesFor
  induction overrides using List.reverseRecOn with
  | nil => rfl
  | append_singleton overrides entry ih =>
    have hkey : entry.1.lower = organization.text ↔ entry.1.lowerAscii = organization.text :=
      Text.lower_eq_iff fun c hc => val_le_of_mem_text hc
    dsimp only at ih ⊢
    rw [List.foldl_append, List.foldl_cons, List.foldl_nil, lookup_setOverrides, ih,
      List.filter_append, List.filter_singleton]
    by_cases h : entry.1.lowerAscii = organization.text
    · rw [if_pos (hkey.mpr h)]
      simp [h]
    · rw [if_neg (mt hkey.mp h)]
      simp [h]

/-- The last entry for an organization, where it sets a flag, sets it last. -/
theorem getLast?_settings {overrides : Overrides} {organization : Uuid} {entry : Text × Dictionary}
    (hlast : (entriesFor overrides organization).getLast? = some entry) {flag : Text} {v : Json}
    (hset : entry.2.get? flag = some v) :
    (settings overrides flag organization).getLast? = some v := by
  obtain ⟨earlier, hentries⟩ := List.getLast?_eq_some_iff.mp hlast
  have hone : List.filterMap (fun e : Text × Dictionary => e.2.get? flag) [entry] = [v] :=
    List.filterMap_cons_some hset
  rw [settings, hentries, List.filterMap_append, hone, List.getLast?_concat]

/-- **The value of a flag** is the one configured, but the default where an override is hidden. -/
theorem value_make (defaults : Dictionary) (overrides : Overrides) (flag : Text)
    (organization : Uuid) : (Evaluator.make defaults overrides).value flag organization =
      if Hidden overrides flag organization then fallback defaults flag
      else configured defaults overrides flag organization := by
  have hvalue : (Evaluator.make defaults overrides).value flag organization =
      (Dictionary.get? (((entriesFor overrides organization).getLast?.map Prod.snd).getD [])
        flag).getD (fallback defaults flag) := by
    rw [← lookup_make defaults]
    unfold Evaluator.value
    dsimp only
    split
    · next v h => rw [h, Option.getD_some]
    · next h =>
      rw [h, Option.getD_none]
      rfl
  have hempty : settings overrides flag organization = [] →
      configured defaults overrides flag organization = fallback defaults flag := fun h => by
    rw [configured, h]
    rfl
  rw [hvalue]
  cases hlast : (entriesFor overrides organization).getLast? with
  | none =>
    have hnil : settings overrides flag organization = [] := by
      rw [settings, List.getLast?_eq_none_iff.mp hlast]
      rfl
    rw [if_neg fun hidden => hidden.1 hnil, hempty hnil]
    rfl
  | some entry =>
    rw [Option.map_some, Option.getD_some]
    cases hset : entry.2.get? flag with
    | some v =>
      have hshown : ¬ Hidden overrides flag organization := fun hidden => by
        have hunset := hidden.2 entry hlast
        rw [hset] at hunset
        cases hunset
      rw [if_neg hshown, configured, getLast?_settings hlast hset, Option.getD_some]
    | none =>
      have hunset : ∀ e ∈ (entriesFor overrides organization).getLast?, e.2.get? flag = none := by
        intro e he
        rw [hlast] at he
        rw [← Option.some.inj he, hset]
      by_cases hnil : settings overrides flag organization = []
      · rw [if_neg fun hidden => hidden.1 hnil, hempty hnil, Option.getD_none]
      · rw [if_pos ⟨hnil, hunset⟩, Option.getD_none]

/-! ### What is evaluated -/

theorem evaluate_exec (e : Evaluator) (flag : Text) (organization : Uuid) (s : Session) :
    ((e.evaluate flag organization).exec s).1 = .ok (e.value flag organization).isTruthy := rfl

/-- **A flag is evaluated as it is configured**, unless an override is hidden: then its default
counts, and the outcome is the configured one only if both are true or both are false. -/
theorem flag_is_as_configured_iff (defaults : Dictionary) (overrides : Overrides) (flag : Text)
    (organization : Uuid) (s : Session) :
    (((Evaluator.make defaults overrides).evaluate flag organization).exec s).1 =
      .ok (if Hidden overrides flag organization then (fallback defaults flag).isTruthy
        else (configured defaults overrides flag organization).isTruthy) ∧
    ((((Evaluator.make defaults overrides).evaluate flag organization).exec s).1 =
        .ok (configured defaults overrides flag organization).isTruthy ↔
      (Hidden overrides flag organization →
        (configured defaults overrides flag organization).isTruthy =
          (fallback defaults flag).isTruthy)) := by
  rw [evaluate_exec, value_make]
  by_cases hidden : Hidden overrides flag organization
  · rw [if_pos hidden, if_pos hidden]
    refine ⟨rfl, fun h _ => (Except.ok.inj h).symm, fun h => congrArg _ (h hidden).symm⟩
  · rw [if_neg hidden, if_neg hidden]
    exact ⟨rfl, fun _ h => absurd h hidden, fun _ => rfl⟩

/-- Two keys for one organization, each with a flag of its own. -/
def twoKeys : Overrides :=
  [("00000000-0000-0000-0000-00000000000A", [(.text "a", .bool true)]),
    ("00000000-0000-0000-0000-00000000000a", [(.text "b", .bool true)])]

/-- Of two keys for one organization the later one counts alone: the flag set under the first key
falls back to its default. -/
theorem not_every_override_counts :
    ¬ ∀ (defaults : Dictionary) (overrides : Overrides) (flag : Text) (organization : Uuid)
      (s : Session), (overrides.map (·.1)).Nodup →
        (((Evaluator.make defaults overrides).evaluate flag organization).exec s).1 =
          .ok (configured defaults overrides flag organization).isTruthy := by
  intro counts
  have h := counts [] twoKeys "a" ⟨0xA⟩ .resting (by decide +kernel)
  have hidden : Hidden twoKeys "a" ⟨0xA⟩ := by decide +kernel
  have hon : (configured [] twoKeys "a" ⟨0xA⟩).isTruthy = true := by decide +kernel
  rw [evaluate_exec, value_make, if_pos hidden, hon] at h
  cases h

end Flags

end Entitlement
