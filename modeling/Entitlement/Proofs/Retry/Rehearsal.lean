import Entitlement.Proofs.Retry.Attempts
import Mathlib.Data.List.Forall2

/-! # Which attempts are played

In a rehearsal the script says how each call ends, so the attempts of a run are known beforehand.
The call that decides is the first one that does not fail with a listed fault (`Rehearsal.Decides`).
Up to there each call is made with the same arguments, and after it comes the pause of its number
(`Rehearsal.Played`, `Rehearsal.exists_attempt`). So the run ends with the call that decides, or
with the last one that the policy grants (`Rehearsal.run_plays`). -/

namespace Entitlement

open Entitlement.Task

namespace Retry.Rehearsal

variable {α γ : Type}

/-! ### The script -/

/-- How a call ends, counted from one. -/
def outcome (r : Rehearsal α γ) (call : Nat) : Except Fault α :=
  (r.script[call - 1]?).getD (.error scriptEnd)

/-- The call fails with a fault of the families. -/
def Listed (families : List Text) (r : Rehearsal α γ) (call : Nat) : Prop :=
  ∃ fault, r.outcome call = .error fault ∧ fault.isOneOf families = true

/-- **The call that decides** is the first one that ends with a value, or with a fault of no
family. -/
structure Decides (families : List Text) (r : Rehearsal α γ) (call : Nat) : Prop where
  pos : 0 < call
  before : ∀ i, 0 < i → i < call → Listed families r i
  decided : ¬ Listed families r call

theorem listed_of_undecided {families : List Text} {r : Rehearsal α γ} {n : Nat}
    (h : ∀ k, Decides families r k → n < k) {i : Nat} (hpos : 0 < i) (hi : i ≤ n) :
    Listed families r i := by
  induction i using Nat.strongRecOn with
  | ind i ih =>
    by_contra hno
    have hdecides : Decides families r i := ⟨hpos, fun j hj hlt => ih j hlt hj (by omega), hno⟩
    have := h i hdecides
    omega

/-! ### What has been played -/

/-- The hooks of a rehearsal where the dice fall anew at each call. -/
def throwing (dice : Environment → Nat → Binary64) : Hooks (Rehearsal α γ) :=
  { hooks with random := fun r => dice r.session.environment r.calls.length }

/-- The throw after a call. -/
def throws (dice : Environment → Nat → Binary64) (r : Rehearsal α γ) (call : Nat) : Binary64 :=
  dice r.session.environment (r.calls.length + call)

/-- The pause after a call lasts as long as the policy says. -/
def Lasts (policy : Policy) (dice : Environment → Nat → Binary64) (r : Rehearsal α γ) (call : Nat)
    (delay : Binary64) : Prop := policy.delay (throws dice r call) call = .ok delay

/-- **What has been played** since a state: calls with the same arguments, and the pauses after the
first ones. -/
structure Played (policy : Policy) (dice : Environment → Nat → Binary64) (arguments : γ)
    (r : Rehearsal α γ) (made pauses : Nat) (r' : Rehearsal α γ) : Prop where
  calls : r'.calls = r.calls ++ List.replicate made arguments
  script : r'.script = r.script.drop made
  environment : r'.session.environment = r.session.environment
  slept : ∃ delays, r'.session.line.slept = r.session.line.slept ++ delays ∧
    List.Forall₂ (Lasts policy dice r) (List.range' 1 pauses) delays

variable {policy : Policy} {dice : Environment → Nat → Binary64} {arguments : γ}
  {r r' : Rehearsal α γ} {made pauses : Nat}

namespace Played

theorem start : Played policy dice arguments r 0 0 r where
  calls := (List.append_nil _).symm
  script := rfl
  environment := rfl
  slept := ⟨[], (List.append_nil _).symm, .nil⟩

theorem log (h : Played policy dice arguments r made pauses r') (entry : Log.Entry) :
    Played policy dice arguments r made pauses ((throwing dice).log entry r') :=
  ⟨h.calls, h.script, h.environment, h.slept⟩

theorem call (h : Played policy dice arguments r made pauses r') :
    ∃ r'', (play arguments).exec r' = (r.outcome (made + 1), r'') ∧
      Played policy dice arguments r (made + 1) pauses r'' := by
  have hcalls : r'.calls ++ [arguments] = r.calls ++ List.replicate (made + 1) arguments := by
    rw [h.calls, List.append_assoc, List.replicate_succ']
  have hnext : r.script[made]? = r'.script.head? := by
    rw [h.script, List.head?_drop]
  have houtcome : r.outcome (made + 1) = (r'.script.head?).getD (.error scriptEnd) := by
    rw [outcome, Nat.add_sub_cancel, hnext]
  rw [houtcome]
  cases hscript : r'.script with
  | nil =>
    refine ⟨{ r' with calls := r'.calls ++ [arguments] }, ?_, hcalls, ?_, h.environment, h.slept⟩
    · simp only [play, exec_step, hscript]
      rfl
    · rw [hscript, ← List.drop_drop, ← h.script, hscript]
      rfl
  | cons result script =>
    refine ⟨{ r' with calls := r'.calls ++ [arguments], script }, ?_, hcalls, ?_, h.environment,
      h.slept⟩
    · simp only [play, exec_step, hscript]
      rfl
    · rw [← List.drop_drop, ← h.script, hscript]
      rfl

theorem pause (h : Played policy dice arguments r made pauses r') {delay : Binary64}
    (lasts : Lasts policy dice r (pauses + 1) delay) :
    Played policy dice arguments r made (pauses + 1) ((throwing dice).pause delay r') := by
  obtain ⟨delays, hslept, hlasts⟩ := h.slept
  refine ⟨h.calls, h.script, h.environment, delays ++ [delay], ?_, ?_⟩
  · have hpause : ((throwing dice).pause delay r').session.line.slept =
        r'.session.line.slept ++ [delay] := rfl
    rw [hpause, hslept, List.append_assoc]
  · rw [List.range'_1_concat, Nat.add_comm 1]
    exact List.rel_append hlasts (.cons lasts .nil)

end Played

/-! ### The run -/

/-- The policy tells each pause that it is asked for: the one after a call that is not the last,
when all calls so far are listed. -/
def Told (setting : Setting (Rehearsal α γ) α) (dice : Environment → Nat → Binary64)
    (r : Rehearsal α γ) : Prop :=
  ∀ i, 0 < i → i < setting.policy.limit →
    (∀ j, 0 < j → j ≤ i → Listed setting.families r j) →
      ∃ delay, Lasts setting.policy dice r i delay

variable {setting : Setting (Rehearsal α γ) α}

theorem pause_exec {number : Nat} {fault : Fault} {delay : Binary64}
    (h : setting.policy.delay (setting.hooks.random r) number = .ok delay) :
    ∃ entry, (setting.pause number fault).exec r =
      (.ok (), setting.hooks.pause delay (setting.hooks.log entry r)) := by
  unfold Setting.pause Setting.note
  rw [exec_get_bind, exec_ofExcept_bind, h]
  exact ⟨_, rfl⟩

theorem succeeded_exec (setting : Setting (Rehearsal α γ) α) (number : Nat) (a : α)
    (r : Rehearsal α γ) :
    (setting.succeeded number a).exec r = (.ok a, r) ∨
      ∃ entry, (setting.succeeded number a).exec r = (.ok a, setting.hooks.log entry r) := by
  unfold Setting.succeeded
  split
  · exact .inr ⟨_, rfl⟩
  · exact .inl rfl

theorem exhausted_exec (setting : Setting (Rehearsal α γ) α) (number : Nat) (fault : Fault)
    (r : Rehearsal α γ) :
    ∃ entry, (setting.exhausted number fault).exec r =
      (.error (.exhausted setting.name number fault), setting.hooks.log entry r) := ⟨_, rfl⟩

/-- **Each attempt is made** whose calls before are all listed, after as many calls and pauses. -/
theorem exists_attempt (htask : setting.task = play arguments)
    (hhooks : setting.hooks = throwing dice) (told : Told setting dice r) :
    ∀ made, made < setting.policy.limit →
      (∀ i, 0 < i → i ≤ made → Listed setting.families r i) →
        ∃ r₁, setting.Attempt r (setting.policy.limit - 1 - made) (made + 1) r₁ ∧
          Played setting.policy dice arguments r made made r₁ := by
  intro made
  induction made with
  | zero => exact fun _ _ => ⟨r, .first, .start⟩
  | succ made ih =>
    intro hmade listed
    obtain ⟨r₁, hattempt, played⟩ := ih (by omega) fun i hpos hi => listed i hpos (by omega)
    obtain ⟨r₂, hcall, played⟩ := played.call
    obtain ⟨fault, hfault, retried⟩ := listed (made + 1) (by omega) (Nat.le_refl _)
    obtain ⟨delay, lasts⟩ := told (made + 1) (by omega) hmade listed
    have failed : setting.task.exec r₁ = (.error fault, r₂) := by
      rw [htask, hcall, hfault]
    have hthrow : setting.hooks.random r₂ = throws dice r (made + 1) := by
      have hlength : r₂.calls.length = r.calls.length + (made + 1) := by
        rw [played.calls, List.length_append, List.length_replicate]
      rw [hhooks, throws, ← hlength, ← played.environment]
      rfl
    obtain ⟨entry, paused⟩ : ∃ entry, (setting.pause (made + 1) fault).exec r₂ =
        (.ok (), setting.hooks.pause delay (setting.hooks.log entry r₂)) := by
      refine pause_exec ?_
      rw [hthrow]
      exact lasts
    have hleft : setting.policy.limit - 1 - made = setting.policy.limit - 1 - (made + 1) + 1 := by
      omega
    rw [hleft] at hattempt
    refine ⟨_, hattempt.again failed retried paused, ?_⟩
    rw [hhooks]
    exact (played.log entry).pause lasts

/-- The call that decides ends the run, which then has its outcome. -/
theorem run_decided (htask : setting.task = play arguments)
    (hhooks : setting.hooks = throwing dice) (told : Told setting dice r) {k : Nat}
    (decides : Decides setting.families r k) (hk : k ≤ setting.policy.limit) :
    (setting.run.exec r).1 = r.outcome k ∧
      Played setting.policy dice arguments r k (k - 1) (setting.run.exec r).2 := by
  obtain ⟨made, rfl⟩ : ∃ made, k = made + 1 := ⟨k - 1, by have := decides.pos; omega⟩
  obtain ⟨r₁, hattempt, played⟩ := exists_attempt htask hhooks told made (by omega)
    fun i hpos hi => decides.before i hpos (by omega)
  obtain ⟨r₂, hcall, played⟩ := played.call
  rw [← htask] at hcall
  rw [Setting.run_exec_of_attempt hattempt, Nat.add_sub_cancel]
  cases houtcome : r.outcome (made + 1) with
  | error fault =>
    have untried : fault.isOneOf setting.families = false :=
      Bool.eq_false_iff.mpr fun retried => decides.decided ⟨fault, houtcome, retried⟩
    rw [houtcome] at hcall
    rw [Setting.loop_exec_untried hcall untried]
    exact ⟨rfl, played⟩
  | ok a =>
    rw [houtcome] at hcall
    rw [Setting.loop_exec_succeeded hcall]
    rcases succeeded_exec setting (made + 1) a r₂ with hend | ⟨entry, hend⟩
    · rw [hend]
      exact ⟨rfl, played⟩
    · rw [hend, hhooks]
      exact ⟨rfl, played.log entry⟩

theorem run_exhausted (htask : setting.task = play arguments)
    (hhooks : setting.hooks = throwing dice) (told : Told setting dice r)
    (undecided : ∀ k, Decides setting.families r k → setting.policy.limit < k) :
    ∃ fault, r.outcome setting.policy.limit = .error fault ∧
      (setting.run.exec r).1 = .error (.exhausted setting.name setting.policy.limit fault) ∧
      Played setting.policy dice arguments r setting.policy.limit (setting.policy.limit - 1)
        (setting.run.exec r).2 := by
  have hpos : 0 < setting.policy.limit := by
    unfold Policy.limit
    omega
  obtain ⟨made, hmade⟩ : ∃ made, setting.policy.limit = made + 1 :=
    ⟨setting.policy.limit - 1, by omega⟩
  obtain ⟨r₁, hattempt, played⟩ := exists_attempt htask hhooks told made (by omega)
    fun i hpos hi => listed_of_undecided undecided hpos (by omega)
  obtain ⟨r₂, hcall, played⟩ := played.call
  obtain ⟨fault, hfault, retried⟩ := listed_of_undecided undecided hpos (Nat.le_refl _)
  rw [hmade] at hfault
  rw [← htask, hfault] at hcall
  have hleft : setting.policy.limit - 1 - made = 0 := by omega
  rw [hleft] at hattempt
  obtain ⟨entry, hend⟩ := exhausted_exec setting (made + 1) fault r₂
  refine ⟨fault, hmade ▸ hfault, ?_⟩
  rw [Setting.run_exec_of_attempt hattempt, Setting.loop_exec_exhausted hcall retried, hend, hmade,
    Nat.add_sub_cancel, hhooks]
  exact ⟨rfl, played.log entry⟩

/-- **A run plays the right attempts.** The limit is what the policy says, and at least one. Where a
call decides within the limit, the run makes the calls up to that one, pauses between them, and ends
as that call does. Otherwise it makes as many calls as the limit grants, pauses between them, and
reports how many they were and the fault of the last one. All calls have the same arguments, and
each pause lasts as the policy says for its number. -/
theorem run_plays (htask : setting.task = play arguments)
    (hhooks : setting.hooks = throwing dice) (told : Told setting dice r) :
    (setting.policy.limit : Int) = max 1 setting.policy.maxAttempts ∧
    (∀ k, Decides setting.families r k → k ≤ setting.policy.limit →
      (setting.run.exec r).1 = r.outcome k ∧
        Played setting.policy dice arguments r k (k - 1) (setting.run.exec r).2) ∧
    ((∀ k, Decides setting.families r k → setting.policy.limit < k) →
      ∃ fault, r.outcome setting.policy.limit = .error fault ∧
        (setting.run.exec r).1 = .error (.exhausted setting.name setting.policy.limit fault) ∧
        Played setting.policy dice arguments r setting.policy.limit (setting.policy.limit - 1)
          (setting.run.exec r).2) := by
  refine ⟨?_, fun k decides hk => run_decided htask hhooks told decides hk,
    run_exhausted htask hhooks told⟩
  unfold Policy.limit
  omega

/-! ### A script with one failure -/

/-- Three attempts with pauses that do not grow. -/
def steadyPolicy : Policy where
  maxAttempts := 3
  baseDelay := .zero
  maxDelay := .zero
  exponentialBase := .infinite false
  jitter := false

/-- A run that tries again after failures of arithmetic. -/
def steadySetting : Setting (Rehearsal Nat Text) Nat :=
  ⟨hooks, steadyPolicy, ["ArithmeticError"], "flaky", play "K"⟩

/-- The first call overflows, and the second one gives a value. -/
def overflowing : Rehearsal Nat Text where
  session := ⟨⟨DateTime.first, .zero, .zero⟩, ⟨[], [], true, 0, 0, none⟩, Line.empty,
    ⟨.empty, none, [], .empty ("licensing" : Text)⟩, .first⟩
  script := [.error (.failure Kind.overflow "boom"), .ok 7, .ok 8]
  calls := []

theorem overflowing_is_played_twice :
    Decides steadySetting.families overflowing 2 ∧
      (steadySetting.run.exec overflowing).1 = .ok 7 ∧
      (steadySetting.run.exec overflowing).2.calls = ["K", "K"] ∧
      (steadySetting.run.exec overflowing).2.session.line.slept.length = 1 := by
  have listed : Listed steadySetting.families overflowing 1 := ⟨_, rfl, by decide⟩
  have decides : Decides steadySetting.families overflowing 2 := by
    refine ⟨by decide, fun i hpos hi => ?_, nofun⟩
    obtain rfl : i = 1 := by omega
    exact listed
  have told : Told steadySetting (fun e _ => e.random) overflowing := by
    intro i hpos hlimit hlisted
    obtain rfl : i = 1 := by
      by_contra hne
      obtain ⟨fault, hfault, -⟩ := hlisted 2 (by omega) (by omega)
      cases hfault
    exact ⟨_, rfl⟩
  obtain ⟨-, hdecided, -⟩ := run_plays rfl rfl told
  obtain ⟨hresult, played⟩ := hdecided 2 decides (by decide)
  obtain ⟨delays, hslept, hlasts⟩ := played.slept
  refine ⟨decides, hresult, played.calls, ?_⟩
  rw [hslept]
  exact hlasts.length_eq.symm

end Retry.Rehearsal

end Entitlement
