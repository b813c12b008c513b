import Entitlement.Fault.Basic
import Entitlement.Proofs.Json.Members

/-! # Layers of internal errors

A refusal can be wrapped again and again, each time under a message of its own (`Refusal.layered`).
A wrapper tells of its cause under two names, and takes over the details of the cause under all
other names (`Refusal.details_wrap`); among these is nothing that the wrapper has put there. So
however many layers there are, the details of the innermost refusal come through
(`Refusal.kept_layered`), and the two names tell of the layer just below, never of one further down,
even if the innermost refusal used them for something else (`Refusal.wrapping_keeps_diagnostics`).
-/

namespace Entitlement

namespace Refusal

/-- A refusal wrapped once for each message, under the first one first. -/
def layered (r : Refusal) (messages : List Text) : Refusal :=
  messages.foldl (fun cause message => wrap (.refusal cause) message) r

theorem layered_concat (r : Refusal) (messages : List Text) (message : Text) :
    r.layered (messages ++ [message]) = wrap (.refusal (r.layered messages)) message :=
  List.foldl_concat ..

/-! ### The details of one layer -/

/-- The names under which a wrapper tells of its cause. -/
def ownNames : List Text := ["cause", "cause_code"]

/-- What a wrapper tells of its cause. -/
def told (cause : Refusal) : Members :=
  [("cause", .string cause.message), ("cause_code", .string cause.code)]

/-- The details under names that a wrapper does not use itself. -/
def kept (details : Members) : Members := details.filter fun m => m.1 ∉ ownNames

theorem told_names (cause : Refusal) : cause.told.map Prod.fst = ownNames := rfl

theorem get?_kept {name : Text} (h : name ∉ ownNames) (details : Members) :
    Members.get? (kept details) name = Members.get? details name :=
  (Members.get?_filter (fun n => n ∉ ownNames) details name).trans (if_pos (decide_eq_true h))

theorem mem_kept_names {details : Members} {name : Text} : name ∈ (kept details).map Prod.fst ↔
    name ∈ details.map Prod.fst ∧ name ∉ ownNames := by
  simp only [kept, List.mem_map, List.mem_filter, decide_eq_true_iff]
  constructor
  · rintro ⟨m, ⟨hm, hname⟩, rfl⟩
    exact ⟨⟨m, hm, rfl⟩, hname⟩
  · rintro ⟨⟨m, hm, rfl⟩, hname⟩
    exact ⟨m, ⟨hm, hname⟩, rfl⟩

/-- **The details of a wrapper** tell of the cause first, and then are those of the cause, but for
the names that are taken. -/
theorem details_wrap (cause : Refusal) (message : Text) :
    (wrap (.refusal cause) message).details = cause.told ++ kept cause.details := by
  have htaken (name : Text) : (Members.get? cause.told name).isNone = decide (name ∉ ownNames) := by
    rw [Bool.eq_iff_iff, Option.isNone_iff_eq_none, Members.get?_eq_none_iff, told_names,
      decide_eq_true_iff]
  exact congrArg (cause.told ++ ·) (List.filter_congr fun m _ => htaken m.1)

/-- What a wrapper takes over is what its cause had, and nothing that it tells itself. -/
theorem kept_wrap (cause : Refusal) (message : Text) :
    kept (wrap (.refusal cause) message).details = kept cause.details := by
  have htold : kept cause.told = [] := by
    refine List.filter_eq_nil_iff.mpr fun m hm => ?_
    have hown : m.1 ∈ ownNames := told_names cause ▸ List.mem_map_of_mem hm
    simpa using hown
  have hagain : kept (kept cause.details) = kept cause.details :=
    List.filter_eq_self.mpr fun m hm => (List.mem_filter.mp hm).2
  rw [details_wrap]
  calc kept (cause.told ++ kept cause.details)
      = kept cause.told ++ kept (kept cause.details) := List.filter_append ..
    _ = kept cause.details := by rw [htold, hagain, List.nil_append]

/-! ### Many layers -/

/-- **Details come through any number of layers.** -/
theorem kept_layered (r : Refusal) (messages : List Text) :
    kept (r.layered messages).details = kept r.details := by
  induction messages generalizing r with
  | nil => rfl
  | cons message messages ih => exact (ih _).trans (kept_wrap r message)

theorem message_layered (r : Refusal) (messages : List Text) :
    (r.layered messages).message = messages.getLast?.getD r.message := by
  rcases List.eq_nil_or_concat' messages with rfl | ⟨earlier, message, rfl⟩
  · rfl
  · rw [layered_concat, List.getLast?_concat]
    rfl

theorem code_layered (r : Refusal) (messages : List Text) :
    (r.layered messages).code = if messages = [] then r.code else "INTERNAL" := by
  rcases List.eq_nil_or_concat' messages with rfl | ⟨earlier, message, rfl⟩
  · rfl
  · rw [layered_concat, if_neg (List.append_ne_nil_of_right_ne_nil _ (List.cons_ne_nil _ _))]
    rfl

/-- **Wrapping keeps the diagnostics, at any depth.** However often a refusal was wrapped, the
outermost layer is an internal error with its own message. Its details are under the names of the
first refusal and the two names of a wrapper: these tell the message and the code of the layer just
below, and all others still have the values of the first refusal. -/
theorem wrapping_keeps_diagnostics (r : Refusal) (messages : List Text) (message : Text) :
    let below := r.layered messages
    let top := r.layered (messages ++ [message])
    top.category = .internal ∧ top.message = message ∧ top.code = "INTERNAL" ∧ top.status = 500 ∧
      (∀ name, name ∈ top.details.map Prod.fst ↔
        name ∈ r.details.map Prod.fst ∨ name = "cause" ∨ name = "cause_code") ∧
      (∀ name, Members.get? top.details name =
        if name = "cause" then some (.string below.message)
        else if name = "cause_code" then some (.string below.code)
        else Members.get? r.details name) ∧
      below.message = messages.getLast?.getD r.message ∧
      below.code = if messages = [] then r.code else "INTERNAL" := by
  intro below top
  have htop : top = wrap (.refusal below) message := layered_concat r messages message
  have hdetails : top.details = below.told ++ kept r.details := by
    rw [htop, details_wrap, kept_layered]
  have hnames (name : Text) : name ∈ top.details.map Prod.fst ↔
      name ∈ r.details.map Prod.fst ∨ name = "cause" ∨ name = "cause_code" := by
    have hown : name ∈ ownNames ↔ name = "cause" ∨ name = "cause_code" := by simp [ownNames]
    rw [hdetails, List.map_append, List.mem_append, told_names, mem_kept_names, ← hown]
    tauto
  have hvalues (name : Text) : Members.get? top.details name =
      if name = "cause" then some (.string below.message)
      else if name = "cause_code" then some (.string below.code)
      else Members.get? r.details name := by
    rw [hdetails, Members.get?_append, told, Members.get?_cons, Members.get?_cons]
    by_cases hcause : name = "cause"
    · rw [if_pos hcause.symm, if_pos hcause]
      rfl
    · by_cases hcode : name = "cause_code"
      · rw [if_neg (Ne.symm hcause), if_pos hcode.symm, if_neg hcause, if_pos hcode]
        rfl
      · rw [if_neg (Ne.symm hcause), if_neg (Ne.symm hcode), if_neg hcause, if_neg hcode,
          get?_kept (by simp [ownNames, hcause, hcode])]
        rfl
  refine ⟨?_, ?_, ?_, ?_, hnames, hvalues, message_layered r messages, code_layered r messages⟩
  all_goals
    rw [htop]
    rfl

/-- A detail that the innermost refusal has under a name of the wrapper gives way. -/
example : layered ⟨.notFound, "gone", [("cause", .null), ("id", .int 7)]⟩ ["a", "b"] =
    ⟨.internal, "b", [("cause", .string "a"), ("cause_code", .string "INTERNAL"), ("id", .int 7)]⟩ := by
  decide

end Refusal

end Entitlement
