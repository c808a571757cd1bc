import GhostRecon.Incidents.Statuses

/-!
Promotion to the watch list, called again. The target is found again under the key of the
company, but the version of the incident is checked before, and a promotion that corroborates a
candidate has changed it.
-/

namespace GhostRecon.Incidents

open Lib (Id Table after returned)
open Std.Do

set_option mvcgen.warning false

section Targets

variable [Casing] (tools : IncidentTools)

/-- The watch target of a company. -/
def targetOf (company : String) (s : IncidentStore) : Option (Id × WatchTarget) :=
  s.watchTargets.first? fun row =>
    row.targetType == "company" && row.canonicalTargetKey == watchTargetKey tools company

/-- What a promotion leaves when it returns a target: the one that was there, or a new one. -/
structure Promoted (incident : Id) (version : Nat) (w : IncidentWorld) (target : Id)
    (w' : IncidentWorld) (row : SecurityIncident) (company : String) : Prop where
  stored : w.store.incidents[incident]? = some row
  version : row.version = version
  admitted : row.status ≠ .rejected
  watched : row.company tools = some company
  incidents : w'.store.incidents =
    w.store.incidents.modify incident SecurityIncident.afterPromotion
  chosen : (∃ old, targetOf tools company w.store = some (target, old)) ∨
    targetOf tools company w.store = none ∧ target = w.store.watchTargets.length
  found : ∃ old, targetOf tools company w'.store = some (target, old)

variable {tools} {incident target : Id} {version : Nat} {company actor key : String}
  {w w' : IncidentWorld}

theorem createWatchTarget_returns :
    ⦃fun v => ⌜v = w⌝⦄ createWatchTarget tools company actor incident key
      ⦃post⟨fun target v => ⌜v.store.incidents = w.store.incidents ∧
          ((∃ old, targetOf tools company w.store = some (target, old)) ∨
            targetOf tools company w.store = none ∧ target = w.store.watchTargets.length) ∧
          ∃ old, targetOf tools company v.store = some (target, old)⌝,
        fun _ _ => ⌜True⌝⟩⦄ := by
  mvcgen [createWatchTarget, flush, Lib.flush]
  all_goals subst_vars
  · next target row hfound => exact ⟨rfl, Or.inl ⟨row, hfound⟩, row, hfound⟩
  · next hnone _ =>
    exact ⟨rfl, Or.inr ⟨hnone, rfl⟩, _,
      (Table.first?_append_new hnone).trans (if_pos (by simp))⟩

theorem promotion_returned
    (h : promoteIncidentToWatchlist tools incident version actor key w = .ok (some target) w') :
    (∃ row company, Promoted tools incident version w target w' row company) ∧
      w'.store.constraintsOk = true := by
  have hanswers := Lib.sessionScope_answers (R := fun (answer : Option Id) w' =>
    ∀ target, answer = some target →
      ∃ row company, Promoted tools incident version w target w' row company) h ?_
  · exact ⟨hanswers.1 target rfl, hanswers.2⟩
  · have hwatch := fun company w =>
      @createWatchTarget_returns _ tools incident company actor key w
    mvcgen [promotionBody, hwatch]
    all_goals subst_vars
    · intro target hnone
      cases hnone
    · next row hrow _ hversion _ hstatus company hcompany found v hwatched =>
      rintro target ⟨⟩
      have hsame : row.afterPromotion = row := by
        simp [SecurityIncident.afterPromotion, hstatus]
      refine ⟨row, company, hrow, not_ne_iff.mp hversion, by simp [hstatus], hcompany, ?_,
        hwatched.2.1, hwatched.2.2⟩
      rw [hwatched.1, Table.modify_self hrow hsame]
    · next row hrow _ hversion _ hstatus company hcompany found v hwatched =>
      rintro target ⟨⟩
      have hpromoted : row.afterPromotion = row.promoted := by
        simp [SecurityIncident.afterPromotion, hstatus]
      refine ⟨row, company, hrow, not_ne_iff.mp hversion, by simp [hstatus], hcompany, ?_,
        hwatched.2.1, hwatched.2.2⟩
      rw [hwatched.1]
      exact (Table.modify_congr hrow hpromoted).symm

/-- A company that is watched is found again, and nothing is written. -/
theorem createWatchTarget_found {old : WatchTarget}
    (h : targetOf tools company w.store = some (target, old)) :
    createWatchTarget tools company actor incident key w = .ok target w := by
  unfold targetOf at h
  simp only [createWatchTarget, Lib.bind_run, Lib.query_run, h, Lib.pure_run]

/-- The incident of a promotion afterwards. -/
theorem Promoted.stays {row : SecurityIncident}
    (h : Promoted tools incident version w target w' row company) :
    w'.store.incidents[incident]? = some row.afterPromotion := by
  rw [h.incidents, List.getElem?_modify]
  simp [h.stored]

/-- The same promotion again returns the same target and changes nothing exactly when the
incident was corroborated before the first one. -/
theorem promotion_repeats_iff {row : SecurityIncident}
    (hrow : w.store.incidents[incident]? = some row)
    (hfirst : promoteIncidentToWatchlist tools incident version actor key w =
      .ok (some target) w') :
    promoteIncidentToWatchlist tools incident version actor key w' = .ok (some target) w' ↔
      row.status = .corroborated := by
  obtain ⟨⟨stored, company, hpromoted⟩, hvalid⟩ := promotion_returned hfirst
  cases hrow.symm.trans hpromoted.stored
  have hstays := hpromoted.stays
  obtain ⟨old, hfound⟩ := hpromoted.found
  have hversion := hpromoted.version
  unfold promoteIncidentToWatchlist sessionScope
  rw [Lib.sessionScope_run]
  unfold promotionBody
  simp only [Lib.bind_run, Lib.query_run, hstays]
  cases hstatus : row.status with
  | candidate =>
    have hbumped : row.afterPromotion.version ≠ version := by
      simp [SecurityIncident.afterPromotion, hstatus, SecurityIncident.promoted, hversion]
    simp only [if_pos hbumped]
    constructor
    · intro hreturn
      cases hreturn
    · intro hcorroborated
      cases hcorroborated
  | rejected => exact absurd hstatus hpromoted.admitted
  | corroborated =>
    have hsame : row.afterPromotion = row := by
      simp [SecurityIncident.afterPromotion, hstatus]
    simp only [hsame, hversion, ne_eq, not_true_eq_false, if_false, hstatus, hpromoted.watched,
      Lib.bind_run, createWatchTarget_found hfound, Lib.pure_run, hvalid, if_true]

end Targets

/-- Promoting a candidate corroborates it, so the same call again is refused as stale. -/
theorem candidate_promotion_stale :
    ¬ (∀ (tools : IncidentTools) (incident : Id) (version : Nat) (actor key : String)
        (w w' : IncidentWorld) (target : Id),
        promoteIncidentToWatchlist tools incident version actor key w = .ok (some target) w' →
        promoteIncidentToWatchlist tools incident version actor key w' =
          .ok (some target) w') := by
  intro hall
  have hcommitted : returned (promoteIncidentToWatchlist sampleTools 0 1 "analyst" "k")
      (worldWith sampleIncident) = some (some 0) := by decide +kernel
  have hagain := congrArg (fun result => match result with
    | .ok _ _ => true
    | .error _ _ => false) (hall _ _ _ _ _ _ _ _ (Lib.run_of_returned hcommitted))
  revert hagain
  decide +kernel

/-- The promotion of a corroborated incident is repeated. -/
theorem corroborated_promotion_repeats :
    let corroborated := worldWith { sampleIncident with status := .corroborated }
    let promoted := after (promoteIncidentToWatchlist sampleTools 0 1 "analyst" "k") corroborated
    promoteIncidentToWatchlist sampleTools 0 1 "analyst" "k" promoted =
      .ok (some 0) promoted := by
  have hcommitted : returned (promoteIncidentToWatchlist sampleTools 0 1 "analyst" "k")
      (worldWith { sampleIncident with status := .corroborated }) = some (some 0) := by
    decide +kernel
  exact (promotion_repeats_iff rfl (Lib.run_of_returned hcommitted)).mpr rfl

end GhostRecon.Incidents
