import Mathlib.Logic.Relation
import Mathlib.Data.List.Basic
import Mathlib.Data.List.Induction

/-!
Finite runs of a state machine given by its step function, and the two rules
every safety result below is an instance of: what each step keeps, the run
keeps; what each step relates, the run relates. A run is admissible when each
of its actions meets a condition in the state it is taken from, so a guard
that the code omits can be stated as a condition on runs.
-/

namespace GhostRecon.Lib

universe u v

variable {σ : Type u} {α : Type v}

/-- The state after a finite run. -/
def run (step : σ → α → σ) (s : σ) (actions : List α) : σ :=
  actions.foldl step s

/-- Every action of the run meets `ok` in the state it is taken from. -/
def Admissible (step : σ → α → σ) (ok : σ → α → Prop) : σ → List α → Prop
  | _, [] => True
  | s, action :: rest => ok s action ∧ Admissible step ok (step s action) rest

instance decidableAdmissible (step : σ → α → σ) (ok : σ → α → Prop)
    [∀ s action, Decidable (ok s action)] :
    ∀ (s : σ) (actions : List α), Decidable (Admissible step ok s actions)
  | _, [] => .isTrue trivial
  | s, action :: rest =>
    have := decidableAdmissible step ok (step s action) rest
    inferInstanceAs (Decidable (ok s action ∧ Admissible step ok (step s action) rest))

variable {step : σ → α → σ} {ok : σ → α → Prop}

@[simp] theorem run_nil (s : σ) : run step s [] = s := rfl

@[simp] theorem run_cons (s : σ) (action : α) (rest : List α) :
    run step s (action :: rest) = run step (step s action) rest := rfl

theorem run_append (s : σ) (first second : List α) :
    run step s (first ++ second) = run step (run step s first) second :=
  List.foldl_append

theorem admissible_append {s : σ} {first second : List α} :
    Admissible step ok s (first ++ second) ↔
      Admissible step ok s first ∧ Admissible step ok (run step s first) second := by
  induction first generalizing s with
  | nil => simp [Admissible]
  | cons action rest ih => simp [Admissible, ih, and_assoc]

/-- Without a condition every run is admissible. -/
theorem admissible_of_forall (h : ∀ s action, ok s action) (s : σ) (actions : List α) :
    Admissible step ok s actions := by
  induction actions generalizing s with
  | nil => trivial
  | cons action rest ih => exact ⟨h s action, ih (step s action)⟩

/-- Invariant rule: what every admissible step keeps, the run keeps. -/
theorem run_keeps {I : σ → Prop} (hstep : ∀ s action, ok s action → I s → I (step s action))
    {s : σ} {actions : List α} (hrun : Admissible step ok s actions) (hs : I s) :
    I (run step s actions) := by
  induction actions generalizing s with
  | nil => exact hs
  | cons action rest ih => exact ih hrun.2 (hstep s action hrun.1 hs)

/-- Relation rule: what every admissible step relates, the run relates. -/
theorem run_relates {R : σ → σ → Prop} (hrefl : ∀ s, R s s)
    (htrans : ∀ {a b c}, R a b → R b c → R a c)
    (hstep : ∀ s action, ok s action → R s (step s action))
    {s : σ} {actions : List α} (hrun : Admissible step ok s actions) :
    R s (run step s actions) := by
  induction actions generalizing s with
  | nil => exact hrefl s
  | cons action rest ih => exact htrans (hstep s action hrun.1) (ih hrun.2)

/-- Invariant rule for a step that keeps the invariant under every action. -/
theorem run_always_keeps {I : σ → Prop} (hstep : ∀ s action, I s → I (step s action))
    {s : σ} (actions : List α) (hs : I s) : I (run step s actions) :=
  run_keeps (fun s action (_ : True) => hstep s action)
    (admissible_of_forall (fun _ _ => trivial) s actions) hs

/-- Relation rule for a step that relates its ends under every action. -/
theorem run_always_relates {R : σ → σ → Prop} (hrefl : ∀ s, R s s)
    (htrans : ∀ {a b c}, R a b → R b c → R a c) (hstep : ∀ s action, R s (step s action))
    (s : σ) (actions : List α) : R s (run step s actions) :=
  run_relates hrefl htrans (fun s action (_ : True) => hstep s action)
    (admissible_of_forall (fun _ _ => trivial) s actions)

/-- Along an admissible run every action meets what its state's invariant and
its condition give together. -/
theorem admissible_of_invariant {I : σ → Prop} {good : σ → α → Prop}
    (hstep : ∀ s action, ok s action → I s → I (step s action))
    (hgood : ∀ s action, ok s action → I s → good s action)
    {s : σ} {actions : List α} (hrun : Admissible step ok s actions) (hs : I s) :
    Admissible step good s actions := by
  induction actions generalizing s with
  | nil => trivial
  | cons action rest ih =>
    exact ⟨hgood s action hrun.1 hs, ih hrun.2 (hstep s action hrun.1 hs)⟩

section Histories

variable {marks quiet : List α → α → Prop} {past : List α} {action : α}

/-- History rule: what holds of the empty history, and is carried on by every
admissible step, holds of every history and the state it leads to. -/
theorem run_history {P : List α → σ → Prop} {s : σ} (hnil : P [] s)
    (hstep : ∀ past action, Admissible step ok s past → ok (run step s past) action →
      P past (run step s past) → P (past ++ [action]) (step (run step s past) action))
    {actions : List α} (hrun : Admissible step ok s actions) :
    P actions (run step s actions) := by
  induction actions using List.reverseRecOn with
  | nil => exact hnil
  | append_singleton past action ih =>
    obtain ⟨hpast, hlast⟩ := admissible_append.mp hrun
    rw [run_append, run_cons, run_nil]
    exact hstep past action hpast hlast.1 (ih hpast)

/-- A history with one more action, cut at an action: there, or before. -/
theorem concat_eq_append_cons {before after : List α} {marked : α}
    (h : past ++ [action] = before ++ marked :: after) :
    (after = [] ∧ past = before ∧ action = marked) ∨
      ∃ front, after = front ++ [action] ∧ past = before ++ marked :: front := by
  rcases List.eq_nil_or_concat after with rfl | ⟨front, last, rfl⟩
  · obtain ⟨hpast, hlast⟩ := List.append_inj' h rfl
    exact Or.inl ⟨rfl, hpast, List.head_eq_of_cons_eq hlast⟩
  · have hcut : past ++ [action] = (before ++ marked :: front) ++ [last] := by
      rw [h]
      simp
    obtain ⟨hpast, hlast⟩ := List.append_inj' hcut rfl
    exact Or.inr ⟨front, by rw [List.concat_eq_append, List.head_eq_of_cons_eq hlast], hpast⟩

/-- Some action of the history met `marks`, given what came before it, and
every later one met `quiet`. -/
def Since (marks quiet : List α → α → Prop) (history : List α) : Prop :=
  ∃ before action after, history = before ++ action :: after ∧ marks before action ∧
    ∀ mid next rest, after = mid ++ next :: rest → quiet (before ++ action :: mid) next

theorem Since.mark (h : marks past action) : Since marks quiet (past ++ [action]) := by
  refine ⟨past, action, [], rfl, h, ?_⟩
  intro mid next rest hsplit
  simp at hsplit

theorem Since.carry (h : Since marks quiet past) (hquiet : quiet past action) :
    Since marks quiet (past ++ [action]) := by
  obtain ⟨before, marked, after, rfl, hmarks, hafter⟩ := h
  refine ⟨before, marked, after ++ [action], by simp, hmarks, ?_⟩
  intro mid next rest hsplit
  rcases concat_eq_append_cons hsplit with ⟨-, rfl, rfl⟩ | ⟨front, -, rfl⟩
  · exact hquiet
  · exact hafter mid next front rfl

/-- The last action of a history is the marked one, or a quiet one after it. -/
theorem Since.cases_last (h : Since marks quiet (past ++ [action])) :
    marks past action ∨ (Since marks quiet past ∧ quiet past action) := by
  obtain ⟨before, marked, after, hsplit, hmarks, hafter⟩ := h
  rcases concat_eq_append_cons hsplit with ⟨-, rfl, rfl⟩ | ⟨front, rfl, rfl⟩
  · exact Or.inl hmarks
  · refine Or.inr ⟨⟨before, marked, front, rfl, hmarks, ?_⟩, hafter front action [] (by simp)⟩
    intro mid next rest hmid
    exact hafter mid next (rest ++ [action]) (by simp [hmid])

theorem not_since_nil : ¬ Since marks quiet ([] : List α) := by
  rintro ⟨before, marked, after, hsplit, -⟩
  simp at hsplit

theorem Since.mono {marks' quiet' : List α → α → Prop} {history : List α}
    (h : Since marks quiet history) (hmarks : ∀ past action, marks past action → marks' past action)
    (hquiet : ∀ past action, quiet past action → quiet' past action) :
    Since marks' quiet' history := by
  obtain ⟨before, marked, after, hhistory, hmarked, hafter⟩ := h
  refine ⟨before, marked, after, hhistory, hmarks before marked hmarked, ?_⟩
  intro mid next rest hsplit
  exact hquiet _ _ (hafter mid next rest hsplit)

/-- Every action of the history met `quiet`, given what came before it. -/
def Always (quiet : List α → α → Prop) (history : List α) : Prop :=
  ∀ before action after, history = before ++ action :: after → quiet before action

theorem always_nil : Always quiet ([] : List α) := by
  intro before marked after hsplit
  simp at hsplit

theorem Always.carry (h : Always quiet past) (hlast : quiet past action) :
    Always quiet (past ++ [action]) := by
  intro before marked after hsplit
  rcases concat_eq_append_cons hsplit with ⟨-, rfl, rfl⟩ | ⟨front, -, rfl⟩
  · exact hlast
  · exact h before marked front rfl

end Histories

section Chains

variable {ι : Type*} {move : ι → σ → σ → Prop} {admits : ι → Prop}

/-- A chain of labelled moves whose labels are all admitted. -/
def Chain (move : ι → σ → σ → Prop) (admits : ι → Prop) : σ → σ → Prop :=
  Relation.ReflTransGen fun s s' => ∃ label, admits label ∧ move label s s'

theorem Chain.refl (s : σ) : Chain move admits s s :=
  Relation.ReflTransGen.refl

theorem Chain.trans {a b c : σ} (hab : Chain move admits a b)
    (hbc : Chain move admits b c) : Chain move admits a c :=
  Relation.ReflTransGen.trans hab hbc

theorem Chain.single {label : ι} {s s' : σ} (hlabel : admits label)
    (hmove : move label s s') : Chain move admits s s' :=
  Relation.ReflTransGen.single ⟨label, hlabel, hmove⟩

/-- What every admitted move keeps, the chain keeps. -/
theorem Chain.keeps {I : σ → Prop}
    (hmove : ∀ {label s s'}, admits label → move label s s' → I s → I s')
    {s s' : σ} (h : Chain move admits s s') (hs : I s) : I s' := by
  induction h with
  | refl => exact hs
  | tail _ hstep ih =>
    obtain ⟨label, hlabel, hlast⟩ := hstep
    exact hmove hlabel hlast ih

/-- What every admitted move relates, the chain relates. -/
theorem Chain.relates {R : σ → σ → Prop} (hrefl : ∀ s, R s s)
    (htrans : ∀ {a b c}, R a b → R b c → R a c)
    (hmove : ∀ {label s s'}, admits label → move label s s' → R s s')
    {s s' : σ} (h : Chain move admits s s') : R s s' := by
  induction h with
  | refl => exact hrefl s
  | tail _ hstep ih =>
    obtain ⟨label, hlabel, hlast⟩ := hstep
    exact htrans ih (hmove hlabel hlast)

/-- A chain whose last state meets a condition that every move hands back to the
state before it: the moves may use the condition on both sides. -/
theorem Chain.keeps_under {I U : σ → Prop}
    (hback : ∀ {label s s'}, move label s s' → U s' → U s)
    (hmove : ∀ {label s s'}, admits label → move label s s' → U s → I s → I s')
    {s s' : σ} (h : Chain move admits s s') (hlast : U s') (hs : I s) : I s' := by
  induction h with
  | refl => exact hs
  | tail _ hstep ih =>
    obtain ⟨label, hlabel, hlast'⟩ := hstep
    have hbefore := hback hlast' hlast
    exact hmove hlabel hlast' hbefore (ih hbefore)

end Chains

/-- A state some run from the initial state ends in. -/
def Reachable (step : σ → α → σ) (init s : σ) : Prop :=
  ∃ actions, run step init actions = s

end GhostRecon.Lib
