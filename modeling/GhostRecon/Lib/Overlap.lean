import GhostRecon.Lib.Run

/-!
Calls that overlap. A call starts by reading the world and then advances in
phases, each atomic; between two phases of one call any phase of any other may
happen. Some calls are meant to exclude each other. The rule at the end is how
such a design is verified: what an exclusive call knows of the world while it is
open, and what is known while none is, are kept by every run in which an
exclusive call only starts while no other is open.
-/

namespace GhostRecon.Lib

universe u v w

/-- How the calls of a service start and advance. A call that has finished
yields no further phase. -/
structure Overlap (ω : Type u) (κ : Type v) (α : Type w) where
  start : α → ω → Option κ
  advance : κ → ω → Option κ × ω

/-- The world and the calls that were started; a finished call leaves its place
empty. -/
structure Floor (ω : Type u) (κ : Type v) where
  world : ω
  calls : List (Option κ) := []

inductive Event (α : Type w) where
  | start (request : α)
  | advance (call : Nat)

variable {ω : Type u} {κ : Type v} {α : Type w}

def Floor.open? (floor : Floor ω κ) (i : Nat) : Option κ :=
  (floor.calls[i]?).join

/-- Some open call satisfies `p`. -/
def Floor.anyOpen (floor : Floor ω κ) (p : κ → Bool) : Bool :=
  floor.calls.any fun slot => slot.any p

def Overlap.step (o : Overlap ω κ α) (floor : Floor ω κ) : Event α → Floor ω κ
  | .start request =>
    match o.start request floor.world with
    | none => floor
    | some call => { floor with calls := floor.calls ++ [some call] }
  | .advance i =>
    match floor.open? i with
    | none => floor
    | some call =>
      { world := (o.advance call floor.world).2
        calls := floor.calls.set i (o.advance call floor.world).1 }

section Slots

theorem Overlap.step_idle (o : Overlap ω κ α) {floor : Floor ω κ} {request : α}
    (h : o.start request floor.world = none) : o.step floor (.start request) = floor := by
  simp only [Overlap.step, h]

theorem Overlap.step_start (o : Overlap ω κ α) {floor : Floor ω κ} {request : α} {call : κ}
    (h : o.start request floor.world = some call) :
    o.step floor (.start request) = { floor with calls := floor.calls ++ [some call] } := by
  simp only [Overlap.step, h]

theorem Overlap.step_closed (o : Overlap ω κ α) {floor : Floor ω κ} {i : Nat}
    (h : floor.open? i = none) : o.step floor (.advance i) = floor := by
  simp only [Overlap.step, h]

theorem Overlap.step_advance (o : Overlap ω κ α) {floor : Floor ω κ} {i : Nat} {call : κ}
    (h : floor.open? i = some call) :
    o.step floor (.advance i) =
      { world := (o.advance call floor.world).2
        calls := floor.calls.set i (o.advance call floor.world).1 } := by
  simp only [Overlap.step, h]

theorem Floor.anyOpen_false {floor : Floor ω κ} {p : κ → Bool} :
    floor.anyOpen p = false ↔ ∀ i call, floor.open? i = some call → p call = false := by
  unfold Floor.anyOpen Floor.open?
  rw [List.any_eq_false]
  constructor
  · intro h i call hcall
    have hslot := Option.join_eq_some_iff.mp hcall
    simpa using h _ (List.mem_of_getElem? hslot)
  · intro h slot hslot
    obtain ⟨i, hi⟩ := List.mem_iff_getElem?.mp hslot
    cases slot with
    | none => simp
    | some call => simpa using h i call (by rw [hi]; rfl)

/-- The open calls after a start. -/
theorem Floor.open?_start {floor : Floor ω κ} {call found : κ} {i : Nat}
    (h : Floor.open? { floor with calls := floor.calls ++ [some call] } i = some found) :
    floor.open? i = some found ∨ found = call := by
  unfold Floor.open? at h ⊢
  rw [List.getElem?_append] at h
  split at h
  · exact Or.inl h
  · rw [List.getElem?_singleton] at h
    split at h
    · exact Or.inr (Option.some.inj h).symm
    · cases h

/-- The open calls after call `i` has advanced. -/
theorem Floor.open?_advance {floor : Floor ω κ} {world : ω} {next : Option κ} {found : κ}
    {i j : Nat}
    (h : Floor.open? { world, calls := floor.calls.set i next } j = some found) :
    i = j ∧ next = some found ∨ i ≠ j ∧ floor.open? j = some found := by
  unfold Floor.open? at h ⊢
  dsimp only at h
  by_cases hij : i = j
  · subst hij
    rw [List.getElem?_set_self'] at h
    cases hslot : floor.calls[i]? with
    | none => simp [hslot] at h
    | some slot =>
      refine Or.inl ⟨rfl, ?_⟩
      simpa [hslot] using h
  · rw [List.getElem?_set_ne hij] at h
    exact Or.inr ⟨hij, h⟩

end Slots

section Exclusion

variable (o : Overlap ω κ α) (exclusive : κ → Bool)

/-- An exclusive call starts only while no other is open, and a phase of one is
taken only where `ok` allows it. -/
def Exclusive (ok : ω → κ → Prop) (floor : Floor ω κ) : Event α → Prop
  | .start request =>
    ∀ call, o.start request floor.world = some call → exclusive call = true →
      floor.anyOpen exclusive = false
  | .advance i =>
    ∀ call, floor.open? i = some call → exclusive call = true → ok floor.world call

instance decidableExclusive {ok : ω → κ → Prop} [∀ world call, Decidable (ok world call)]
    (floor : Floor ω κ) : ∀ event : Event α, Decidable (Exclusive o exclusive ok floor event)
  | .start request =>
    match h : o.start request floor.world with
    | none => .isTrue fun call hcall => by rw [h] at hcall; cases hcall
    | some call =>
      decidable_of_iff (exclusive call = true → floor.anyOpen exclusive = false)
        ⟨fun hfree found hfound => by rw [h] at hfound; cases hfound; exact hfree,
          fun hall => hall call h⟩
  | .advance i =>
    match h : floor.open? i with
    | none => .isTrue fun call hcall => by rw [h] at hcall; cases hcall
    | some call =>
      decidable_of_iff (exclusive call = true → ok floor.world call)
        ⟨fun hallowed found hfound => by rw [h] at hfound; cases hfound; exact hallowed,
          fun hall => hall call h⟩

/-- What is known while an exclusive call is open, and while none is. -/
structure Guarded (during : ω → κ → Prop) (idle : ω → Prop) (floor : Floor ω κ) : Prop where
  single : ∀ i j first second, floor.open? i = some first → floor.open? j = some second →
    exclusive first = true → exclusive second = true → i = j
  busy : ∀ i call, floor.open? i = some call → exclusive call = true →
    during floor.world call
  free : floor.anyOpen exclusive = false → idle floor.world

/-- What the phases of the calls have to do for a guard to last. -/
structure Guards (ok : ω → κ → Prop) (during : ω → κ → Prop) (idle : ω → Prop) : Prop where
  start : ∀ request world call, o.start request world = some call → exclusive call = true →
    idle world → during world call
  next : ∀ world call call', exclusive call = true → ok world call → during world call →
    (o.advance call world).1 = some call' →
      exclusive call' = true ∧ during (o.advance call world).2 call'
  finish : ∀ world call, exclusive call = true → ok world call → during world call →
    (o.advance call world).1 = none → idle (o.advance call world).2
  other : ∀ world call call', exclusive call = false →
    (o.advance call world).1 = some call' → exclusive call' = false
  stable : ∀ world call, exclusive call = false →
    (idle world → idle (o.advance call world).2) ∧
      ∀ owner, exclusive owner = true → during world owner →
        during (o.advance call world).2 owner

variable {o exclusive} {ok during : ω → κ → Prop} {idle : ω → Prop}

theorem Guarded.of_no_calls {world : ω} (h : idle world) :
    Guarded (κ := κ) exclusive during idle { world } where
  single := by
    intro i j first second hfirst
    simp [Floor.open?] at hfirst
  busy := by
    intro i call hcall
    simp [Floor.open?] at hcall
  free := fun _ => h

/-- An exclusive call is open and knows what it has to, or none is. -/
theorem Guarded.cases {floor : Floor ω κ} (h : Guarded exclusive during idle floor) :
    (∃ call, exclusive call = true ∧ during floor.world call) ∨ idle floor.world := by
  by_cases hopen : ∃ i call, floor.open? i = some call ∧ exclusive call = true
  · obtain ⟨i, call, hcall, hexclusive⟩ := hopen
    exact Or.inl ⟨call, hexclusive, h.busy i call hcall hexclusive⟩
  · refine Or.inr (h.free (Floor.anyOpen_false.mpr ?_))
    intro i call hcall
    by_contra hexclusive
    exact hopen ⟨i, call, hcall, by simpa using hexclusive⟩

theorem Guards.start_keeps (h : Guards o exclusive ok during idle) {floor : Floor ω κ}
    {request : α} (hok : Exclusive o exclusive ok floor (.start request))
    (hfloor : Guarded exclusive during idle floor) :
    Guarded exclusive during idle (o.step floor (.start request)) := by
  cases hstart : o.start request floor.world with
  | none =>
    rw [o.step_idle hstart]
    exact hfloor
  | some call =>
    rw [o.step_start hstart]
    have hnone : exclusive call = true → ∀ i found, floor.open? i = some found →
        exclusive found = false := fun hexclusive =>
      Floor.anyOpen_false.mp (hok call hstart hexclusive)
    refine ⟨?_, ?_, ?_⟩
    · intro i j first second hfirst hsecond hef hes
      by_contra hij
      unfold Floor.open? at hfirst hsecond
      rw [List.getElem?_append] at hfirst hsecond
      split at hfirst
      · split at hsecond
        · exact hij (hfloor.single i j first second hfirst hsecond hef hes)
        · rw [List.getElem?_singleton] at hsecond
          split at hsecond
          · cases hsecond
            rw [hnone hes i first hfirst] at hef
            cases hef
          · cases hsecond
      · rw [List.getElem?_singleton] at hfirst
        split at hfirst
        · cases hfirst
          split at hsecond
          · rw [hnone hef j second hsecond] at hes
            cases hes
          · rw [List.getElem?_singleton] at hsecond
            split at hsecond
            · omega
            · cases hsecond
        · cases hfirst
    · intro i found hfound hexclusive
      rcases Floor.open?_start hfound with hold | rfl
      · exact hfloor.busy i found hold hexclusive
      · exact h.start request floor.world found hstart hexclusive
          (hfloor.free (hok found hstart hexclusive))
    · intro hidle
      apply hfloor.free
      unfold Floor.anyOpen at hidle ⊢
      rw [List.any_append, Bool.or_eq_false_iff] at hidle
      exact hidle.1

theorem Guards.advance_keeps (h : Guards o exclusive ok during idle) {floor : Floor ω κ}
    {i : Nat} (hok : Exclusive o exclusive ok floor (.advance i))
    (hfloor : Guarded exclusive during idle floor) :
    Guarded exclusive during idle (o.step floor (.advance i)) := by
  cases hopen : floor.open? i with
  | none =>
    rw [o.step_closed hopen]
    exact hfloor
  | some call =>
    rw [o.step_advance hopen]
    cases hclass : exclusive call with
    | true =>
      have hallowed := hok call hopen hclass
      have hduring := hfloor.busy i call hopen hclass
      have honly : ∀ j found, floor.open? j = some found → i ≠ j → exclusive found = false := by
        intro j found hfound hij
        by_contra hother
        exact hij (hfloor.single i j call found hopen hfound hclass (by simpa using hother))
      refine ⟨?_, ?_, ?_⟩
      · intro j k first second hfirst hsecond hef hes
        rcases Floor.open?_advance hfirst with ⟨rfl, -⟩ | ⟨hij, hfirst⟩
        · rcases Floor.open?_advance hsecond with ⟨rfl, -⟩ | ⟨hik, hsecond⟩
          · rfl
          · rw [honly k second hsecond hik] at hes
            cases hes
        · rw [honly j first hfirst hij] at hef
          cases hef
      · intro j found hfound hexclusive
        rcases Floor.open?_advance hfound with ⟨rfl, hnext⟩ | ⟨hij, hfound⟩
        · exact (h.next floor.world call found hclass hallowed hduring hnext).2
        · rw [honly j found hfound hij] at hexclusive
          cases hexclusive
      · intro hidle
        apply h.finish floor.world call hclass hallowed hduring
        cases hnext : (o.advance call floor.world).1 with
        | none => rfl
        | some call' =>
          have hstill := (h.next floor.world call call' hclass hallowed hduring hnext).1
          have hslot : i < floor.calls.length := by
            by_contra hlong
            rw [Floor.open?, List.getElem?_eq_none (by omega)] at hopen
            cases hopen
          have hplace : Floor.open?
              { world := (o.advance call floor.world).2
                calls := floor.calls.set i (some call') } i = some call' := by
            simp [Floor.open?, hslot]
          rw [hnext] at hidle
          rw [Floor.anyOpen_false.mp hidle i call' hplace] at hstill
          cases hstill
    | false =>
      obtain ⟨hidleKept, hduringKept⟩ := h.stable floor.world call hclass
      have hback : ∀ j found,
          Floor.open?
            { world := (o.advance call floor.world).2
              calls := floor.calls.set i (o.advance call floor.world).1 } j = some found →
          exclusive found = true → floor.open? j = some found := by
        intro j found hfound hexclusive
        rcases Floor.open?_advance hfound with ⟨rfl, hnext⟩ | ⟨-, hfound⟩
        · rw [h.other floor.world call found hclass hnext] at hexclusive
          cases hexclusive
        · exact hfound
      refine ⟨?_, ?_, ?_⟩
      · intro j k first second hfirst hsecond hef hes
        exact hfloor.single j k first second (hback j first hfirst hef)
          (hback k second hsecond hes) hef hes
      · intro j found hfound hexclusive
        exact hduringKept found hexclusive
          (hfloor.busy j found (hback j found hfound hexclusive) hexclusive)
      · intro hidle
        apply hidleKept
        apply hfloor.free
        rw [Floor.anyOpen_false] at hidle ⊢
        intro j found hfound
        by_cases hij : i = j
        · subst hij
          rw [hopen] at hfound
          cases hfound
          exact hclass
        · refine hidle j found ?_
          unfold Floor.open? at hfound ⊢
          rw [List.getElem?_set_ne hij]
          exact hfound

/-- Exclusion rule: the guard lasts along every run in which exclusive calls do
not overlap. -/
theorem Guards.run_keeps (h : Guards o exclusive ok during idle) {floor : Floor ω κ}
    {events : List (Event α)}
    (hrun : Admissible o.step (Exclusive o exclusive ok) floor events)
    (hfloor : Guarded exclusive during idle floor) :
    Guarded exclusive during idle (run o.step floor events) := by
  refine Lib.run_keeps ?_ hrun hfloor
  intro floor event hok hfloor
  cases event with
  | start request => exact h.start_keeps hok hfloor
  | advance i => exact h.advance_keeps hok hfloor

end Exclusion

end GhostRecon.Lib
