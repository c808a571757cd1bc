import GhostRecon.Lib.Session

/-!
Two runs side by side. A program is run from two worlds whose stores are
related; the runs agree when both return related values or both raise the same,
and their stores are related again. The rules follow the code statement by
statement, so a read that sees the difference of the stores is a goal of its
own. What the runs do to the external world is not compared.
-/

namespace GhostRecon.Lib

universe u

variable {ε σ ξ α α' β β' : Type u}

/-- The two runs end alike. -/
def Agree (R : σ → σ → Prop) (Q : α → α' → Prop) (first : Tx ε σ ξ α) (second : Tx ε σ ξ α')
    (w w' : World σ ξ) : Prop :=
  match first w, second w' with
  | .ok a v, .ok a' v' => Q a a' ∧ R v.store v'.store
  | .error e v, .error e' v' => e = e' ∧ R v.store v'.store
  | _, _ => False

variable {R : σ → σ → Prop} {Q : α → α' → Prop} {P : β → β' → Prop} {w w' : World σ ξ}

theorem agree_pure {a : α} {a' : α'} (hvalue : Q a a') (hstore : R w.store w'.store) :
    Agree R Q (pure a : Tx ε σ ξ α) (pure a') w w' :=
  ⟨hvalue, hstore⟩

theorem agree_throw {e : ε} (hstore : R w.store w'.store) :
    Agree R Q (throw e : Tx ε σ ξ α) (throw e) w w' :=
  ⟨rfl, hstore⟩

theorem agree_query {f : σ → α} {f' : σ → α'} (hvalue : Q (f w.store) (f' w'.store))
    (hstore : R w.store w'.store) : Agree R Q (query f : Tx ε σ ξ α) (query f') w w' :=
  ⟨hvalue, hstore⟩

theorem agree_write {f f' : σ → σ} {Q : PUnit → PUnit → Prop} (hunit : Q ⟨⟩ ⟨⟩)
    (hstore : R (f w.store) (f' w'.store)) :
    Agree R Q (write f : Tx ε σ ξ PUnit) (write f') w w' :=
  ⟨hunit, hstore⟩

theorem agree_flush {valid : σ → Bool} {violation : ε} {Q : PUnit → PUnit → Prop}
    (hunit : Q ⟨⟩ ⟨⟩) (hvalid : valid w'.store = valid w.store)
    (hstore : R w.store w'.store) :
    Agree R Q (flush valid violation : Tx ε σ ξ PUnit) (flush valid violation) w w' := by
  unfold Agree
  rw [flush_run, flush_run, hvalid]
  cases valid w.store with
  | true => exact ⟨hunit, hstore⟩
  | false => exact ⟨rfl, hstore⟩

/-- The statements after agreeing ones agree from where these left off. -/
theorem agree_bind {first : Tx ε σ ξ α} {first' : Tx ε σ ξ α'} {second : α → Tx ε σ ξ β}
    {second' : α' → Tx ε σ ξ β'} (hfirst : Agree R Q first first' w w')
    (hsecond : ∀ a a' v v', Q a a' → R v.store v'.store → first w = .ok a v →
      first' w' = .ok a' v' → Agree R P (second a) (second' a') v v') :
    Agree R P (first >>= second) (first' >>= second') w w' := by
  unfold Agree at hfirst ⊢
  rw [bind_run, bind_run]
  cases hrun : first w with
  | ok a v =>
    cases hrun' : first' w' with
    | ok a' v' =>
      simp only [hrun, hrun'] at hfirst
      exact hsecond a a' v v' hfirst.1 hfirst.2 hrun hrun'
    | error e' v' => simp [hrun, hrun'] at hfirst
  | error e v =>
    cases hrun' : first' w' with
    | ok a' v' => simp [hrun, hrun'] at hfirst
    | error e' v' =>
      simp only [hrun, hrun'] at hfirst
      exact hfirst

/-- A read leaves both worlds as they are. -/
theorem agree_bind_query {f : σ → α} {f' : σ → α'} {second : α → Tx ε σ ξ β}
    {second' : α' → Tx ε σ ξ β'}
    (h : Agree R P (second (f w.store)) (second' (f' w'.store)) w w') :
    Agree R P (query f >>= second) (query f' >>= second') w w' := by
  unfold Agree at h ⊢
  rw [bind_run, bind_run]
  exact h

/-- A read that may raise, and sees no difference. -/
theorem agree_bind_queryOrRaise {f f' : σ → Except ε α} {second : α → Tx ε σ ξ β}
    {second' : α → Tx ε σ ξ β'} (heq : f' w'.store = f w.store) (hstore : R w.store w'.store)
    (h : ∀ a, f w.store = .ok a → Agree R P (second a) (second' a) w w') :
    Agree R P (queryOrRaise f >>= second) (queryOrRaise f' >>= second') w w' := by
  unfold Agree
  rw [bind_run, bind_run, queryOrRaise_run, queryOrRaise_run, heq]
  cases hf : f w.store with
  | ok a => exact h a hf
  | error e => exact ⟨rfl, hstore⟩

theorem agree_bind_write {f f' : σ → σ} {second : PUnit → Tx ε σ ξ β}
    {second' : PUnit → Tx ε σ ξ β'}
    (h : Agree R P (second ⟨⟩) (second' ⟨⟩) { w with store := f w.store }
      { w' with store := f' w'.store }) :
    Agree R P (write f >>= second) (write f' >>= second') w w' := by
  unfold Agree at h ⊢
  rw [bind_run, bind_run]
  exact h

theorem agree_bind_perform {f f' : ξ → ξ} {second : PUnit → Tx ε σ ξ β}
    {second' : PUnit → Tx ε σ ξ β'}
    (h : Agree R P (second ⟨⟩) (second' ⟨⟩) { w with external := f w.external }
      { w' with external := f' w'.external }) :
    Agree R P (perform f >>= second) (perform f' >>= second') w w' := by
  unfold Agree at h ⊢
  rw [bind_run, bind_run]
  exact h

theorem agree_bind_flush {valid : σ → Bool} {violation : ε} {second : PUnit → Tx ε σ ξ β}
    {second' : PUnit → Tx ε σ ξ β'} (hvalid : valid w'.store = valid w.store)
    (hstore : R w.store w'.store) (h : Agree R P (second ⟨⟩) (second' ⟨⟩) w w') :
    Agree R P (flush valid violation >>= second) (flush valid violation >>= second') w w' := by
  unfold Agree at h ⊢
  rw [bind_run, bind_run, flush_run, flush_run, hvalid]
  cases valid w.store with
  | true => exact h
  | false => exact ⟨rfl, hstore⟩

/-- Scopes whose bodies agree commit or roll back alike. -/
theorem agree_sessionScope {valid : σ → Bool} {violation : ε} {body : Tx ε σ ξ α}
    {body' : Tx ε σ ξ α'} (hvalid : ∀ s s', R s s' → valid s' = valid s)
    (hstore : R w.store w'.store) (h : Agree R Q body body' w w') :
    Agree R Q (sessionScope valid violation body) (sessionScope valid violation body') w w' := by
  unfold Agree at h ⊢
  rw [sessionScope_run, sessionScope_run]
  cases hrun : body w with
  | ok a v =>
    cases hrun' : body' w' with
    | ok a' v' =>
      simp only [hrun, hrun'] at h ⊢
      rw [hvalid _ _ h.2]
      cases valid v.store with
      | true => exact h
      | false => exact ⟨rfl, hstore⟩
    | error e' v' => simp [hrun, hrun'] at h
  | error e v =>
    cases hrun' : body' w' with
    | ok a' v' => simp [hrun, hrun'] at h
    | error e' v' =>
      simp only [hrun, hrun'] at h ⊢
      exact ⟨h.1, hstore⟩

/-- Agreeing runs leave related stores. -/
theorem Agree.after {first : Tx ε σ ξ α} {second : Tx ε σ ξ α'}
    (h : Agree R Q first second w w') :
    R (Lib.after first w).store (Lib.after second w').store := by
  unfold Agree at h
  unfold Lib.after
  cases hrun : first w <;> cases hrun' : second w' <;> simp only [hrun, hrun'] at h ⊢
  · exact h.2
  · exact h.2

end GhostRecon.Lib
