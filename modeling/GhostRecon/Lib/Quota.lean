import GhostRecon.Lib.Expiring
import GhostRecon.Lib.Run
import Mathlib.Algebra.BigOperators.Group.List.Basic
import Mathlib.Tactic

/-!
Counters with a lifetime, and quotas kept with them. A counter that is not there, or whose
lifetime is over, starts again at one; otherwise it goes up and keeps its expiry. While no
counter of the run outlives its use, each command is told how many commands its key has
had, so a gate that lets a command through while the count is within a limit lets through
no more than the limit, whatever the other keys do in between.
-/

namespace GhostRecon.Lib

universe u

/-- One command on a counter: its key, the time it runs at and the lifetime a new counter
gets. -/
structure Tick (κ : Type u) where
  key : κ
  now : Int
  life : Int

variable {κ : Type u} [DecidableEq κ]

/-- `INCR`, and `EXPIRE` where the counter is new: the count and the store after it. -/
def Expiring.countUp (store : Expiring κ Nat) (tick : Tick κ) : Nat × Expiring κ Nat :=
  match store tick.key with
  | none => (1, store.set tick.key 1 (tick.now + tick.life))
  | some (count, expiresAt) =>
    if tick.now < expiresAt then (count + 1, store.set tick.key (count + 1) expiresAt)
    else (1, store.set tick.key 1 (tick.now + tick.life))

/-- The number of commands for a key. -/
def ticksFor (key : κ) (ticks : List (Tick κ)) : Nat :=
  ticks.countP (·.key = key)

/-- No command comes after the lifetime an earlier or later one of its key would give. -/
def InLifetime (ticks : List (Tick κ)) : Prop :=
  ∀ first ∈ ticks, ∀ next ∈ ticks, first.key = next.key → next.now < first.now + first.life

/-- The counters after the commands: each counts those of its key, and lives as long as one
of them gave it. -/
def Counted (ticks : List (Tick κ)) (store : Expiring κ Nat) : Prop :=
  ∀ key, (ticksFor key ticks = 0 ∧ store key = none) ∨
    ∃ first ∈ ticks, first.key = key ∧
      store key = some (ticksFor key ticks, first.now + first.life)

theorem counted_nil : Counted [] (Expiring.empty : Expiring κ Nat) := by
  intro key
  exact Or.inl ⟨rfl, rfl⟩

theorem ticksFor_concat_self {past : List (Tick κ)} {tick : Tick κ} :
    ticksFor tick.key (past ++ [tick]) = ticksFor tick.key past + 1 := by
  simp [ticksFor]

theorem ticksFor_concat_of_ne {past : List (Tick κ)} {tick : Tick κ} {key : κ}
    (h : tick.key ≠ key) : ticksFor key (past ++ [tick]) = ticksFor key past := by
  simp [ticksFor, h]

omit [DecidableEq κ] in
theorem InLifetime.of_append {past more : List (Tick κ)} (h : InLifetime (past ++ more)) :
    InLifetime past := by
  intro first hfirst next hnext
  exact h first (List.mem_append_left more hfirst) next (List.mem_append_left more hnext)

/-- What the next command does to counters that are right: it is told its number, and the
counter of its key is set to it. -/
theorem Counted.countUp {past : List (Tick κ)} {store : Expiring κ Nat} {tick : Tick κ}
    (h : Counted past store) (hlife : InLifetime (past ++ [tick])) :
    ∃ first ∈ past ++ [tick], first.key = tick.key ∧
      store.countUp tick = (ticksFor tick.key past + 1,
        store.set tick.key (ticksFor tick.key past + 1) (first.now + first.life)) := by
  unfold Expiring.countUp
  rcases h tick.key with ⟨hzero, hnone⟩ | ⟨first, hfirst, hkey, hsome⟩
  · refine ⟨tick, by simp, rfl, ?_⟩
    rw [hnone, hzero]
  · have hmem : first ∈ past ++ [tick] := List.mem_append_left [tick] hfirst
    have hlive : tick.now < first.now + first.life := hlife first hmem tick (by simp) hkey
    refine ⟨first, hmem, hkey, ?_⟩
    rw [hsome]
    dsimp only
    rw [if_pos hlive]

/-- The counters stay right. -/
theorem Counted.next {past : List (Tick κ)} {store : Expiring κ Nat} {tick : Tick κ}
    (h : Counted past store) (hlife : InLifetime (past ++ [tick])) :
    Counted (past ++ [tick]) (store.countUp tick).2 := by
  obtain ⟨first, hfirst, hkey, hcount⟩ := h.countUp hlife
  rw [hcount]
  intro key
  by_cases hsame : tick.key = key
  · subst hsame
    right
    refine ⟨first, hfirst, hkey, ?_⟩
    rw [ticksFor_concat_self]
    exact Expiring.set_self store tick.key _ _
  · rw [ticksFor_concat_of_ne hsame]
    have hother : (store.set tick.key (ticksFor tick.key past + 1)
        (first.now + first.life)) key = store key :=
      Expiring.set_of_ne (Ne.symm hsame) _ _
    dsimp only
    rw [hother]
    rcases h key with hnone | ⟨other, hmem, hother⟩
    · exact Or.inl hnone
    · exact Or.inr ⟨other, List.mem_append_left [tick] hmem, hother⟩

/-- The number the next command is told. -/
theorem Counted.number {past : List (Tick κ)} {store : Expiring κ Nat} {tick : Tick κ}
    (h : Counted past store) (hlife : InLifetime (past ++ [tick])) :
    (store.countUp tick).1 = ticksFor tick.key past + 1 := by
  obtain ⟨first, -, -, hcount⟩ := h.countUp hlife
  rw [hcount]

section Quotas

variable {α : Type u} {mark : α → Bool} {limit : Nat}

/-- A record that takes a marked element only while fewer than the limit have been counted
before it holds at most the limit of them. -/
theorem quota_kept (record : List α → List α) (counts : α → Bool) {history : List α}
    (hnil : record [] = [])
    (hstep : ∀ past a, (past ++ [a]) <+: history →
      record (past ++ [a]) = record past ∨
        record (past ++ [a]) = record past ++ [a] ∧
          (mark a = true → counts a = true ∧ past.countP counts < limit)) :
    (record history).countP mark ≤ limit := by
  have hboth : (record history).countP mark ≤ limit ∧
      (record history).countP mark ≤ history.countP counts := by
    induction history using List.reverseRecOn with
    | nil => simp [hnil]
    | append_singleton past a ih =>
      have hpast := ih fun front b hfront =>
        hstep front b (hfront.trans (List.prefix_append past [a]))
      have hgrow : past.countP counts ≤ (past ++ [a]).countP counts := by
        rw [List.countP_append]
        omega
      rcases hstep past a List.prefix_rfl with hsame | ⟨htaken, hmarked⟩
      · rw [hsame]
        omega
      · rw [htaken, List.countP_append, List.countP_singleton]
        cases hmark : mark a with
        | false =>
          rw [if_neg Bool.false_ne_true]
          omega
        | true =>
          obtain ⟨hcounts, hfew⟩ := hmarked hmark
          rw [List.countP_append, List.countP_singleton, if_pos rfl, if_pos hcounts]
          omega
  exact hboth.1

/-- What is bounded in each of finitely many classes is bounded in all of them together. -/
theorem countP_le_of_classes {f : α → Nat} {n : Nat} {l : List α}
    (hclass : ∀ a ∈ l, mark a = true → f a < n)
    (hbound : ∀ i < n, l.countP (fun a => mark a && f a = i) ≤ limit) :
    l.countP mark ≤ n * limit := by
  induction n generalizing mark with
  | zero =>
    have hnone : l.countP mark = 0 := by
      rw [List.countP_eq_zero]
      intro a ha hmark
      exact absurd (hclass a ha hmark) (Nat.not_lt_zero _)
    omega
  | succ n ih =>
    have hrest : l.countP (fun a => mark a && !(f a = n : Bool)) ≤ n * limit := by
      apply ih
      · intro a ha hmark
        obtain ⟨hmarked, hother⟩ := Bool.and_eq_true_iff.mp hmark
        have hlt := hclass a ha hmarked
        simp only [Bool.not_eq_true', decide_eq_false_iff_not] at hother
        omega
      · intro i hi
        apply le_trans ?_ (hbound i (by omega))
        apply List.countP_mono_left
        intro a _ hboth
        simp only [Bool.and_eq_true] at hboth ⊢
        exact ⟨hboth.1.1, hboth.2⟩
    have hlast := hbound n (by omega)
    have hsplit := List.countP_eq_countP_filter_add l mark (f · = n)
    rw [List.countP_filter, List.countP_filter] at hsplit
    rw [Nat.succ_mul]
    omega

end Quotas

end GhostRecon.Lib
