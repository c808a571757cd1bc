import GhostRecon.Events.Ordering
import GhostRecon.Incidents.Promotions
import GhostRecon.Lib.Splitting

/-!
The keys under which incidents, events, participants and watched companies are found again,
against the names they are built from. All four keep of a name its runs of small Latin letters
and digits, so they tell two names apart exactly when these runs differ; every name in another
script has none and is the name "unknown".
-/

namespace GhostRecon.Events

open Lib (Id Table returned splitOnP_piece)
open GhostRecon.Incidents

section Slugs

variable [Casing]

/-- `[^a-z0-9]`. -/
def separates (c : Char) : Bool :=
  !(('a' ≤ c ∧ c ≤ 'z') ∨ ('0' ≤ c ∧ c ≤ '9'))

/-- The runs of `[a-z0-9]` in a lower-cased name; a name without any counts as "unknown". -/
def slugWords (value : String) : List (List Char) :=
  let words := ((lower value).toList.splitOnP separates).filter (· ≠ [])
  if words = [] then ["unknown".toList] else words

theorem slugWords_ne_nil (value : String) : slugWords value ≠ [] := by
  unfold slugWords
  dsimp only
  split
  · simp
  · next hwords => exact hwords

theorem slugWords_dashless (value : String) : ∀ word ∈ slugWords value, '-' ∉ word := by
  unfold slugWords
  dsimp only
  split
  · decide
  · intro word hword hdash
    have hpiece := (List.mem_filter.mp hword).1
    have hkept := splitOnP_piece hpiece '-' hdash
    revert hkept
    decide

/-- A slug is its words with dashes between them. -/
theorem slug_toList (value : String) :
    (slug value).toList = ['-'].intercalate (slugWords value) := by
  have hsame : slug value = (nonEmpty ("-".intercalate
      ((((lower value).toList.splitOnP separates).filter (· ≠ [])).map String.ofList))).getD
        "unknown" := rfl
  rw [hsame]
  unfold slugWords
  generalize hwords : ((lower value).toList.splitOnP separates).filter (· ≠ []) = words
  have hlist : ("-".intercalate (words.map String.ofList)).toList = ['-'].intercalate words := by
    simp [String.toList_intercalate, Function.comp_def]
  cases words with
  | nil => simp [nonEmpty]
  | cons first rest =>
    have hfirst : first ≠ [] := by
      have hmem : first ∈ ((lower value).toList.splitOnP separates).filter (· ≠ []) := by
        rw [hwords]
        exact List.mem_cons_self
      simpa using (List.mem_filter.mp hmem).2
    have hnonempty : "-".intercalate ((first :: rest).map String.ofList) ≠ "" := by
      intro hempty
      rw [hempty] at hlist
      cases rest with
      | nil => exact hfirst (by simpa using hlist.symm)
      | cons second rest => simp [List.intercalate] at hlist
    rw [nonEmpty, if_neg hnonempty, Option.getD_some, hlist]
    simp

/-- Two names have one slug exactly when they have the same words. -/
theorem slug_eq_iff (a b : String) : slug a = slug b ↔ slugWords a = slugWords b := by
  constructor
  · intro hslug
    have hlists : ['-'].intercalate (slugWords a) = ['-'].intercalate (slugWords b) := by
      rw [← slug_toList, ← slug_toList, hslug]
    have hsplit := congrArg (List.splitOn '-') hlists
    rwa [List.splitOn_intercalate _ (slugWords_dashless a) (slugWords_ne_nil a),
      List.splitOn_intercalate _ (slugWords_dashless b) (slugWords_ne_nil b)] at hsplit
  · intro hwords
    apply String.toList_injective
    rw [slug_toList, slug_toList, hwords]

theorem slugWords_lower (value : String) : slugWords (lower value) = slugWords value := by
  rw [slugWords, Casing.lower_lower, slugWords]

end Slugs

section Keys

variable [Casing] (tools : EventTools)

/-- The keys that the service builds from two names, all else equal, are different, and a
promotion for the one never returns the watch target of the other. -/
structure KeysApart (a b : String) : Prop where
  incidents : ∀ (article : ArticleCandidate) (groupKey : String) (vector : Option String)
    (geography : List String) (family host : Option String) (authoritative : Bool)
    (domain : Option String),
    (incidentCandidate tools.toIncidentTools article groupKey vector geography family host
        authoritative (some a, domain)).dedupeKey ≠
      (incidentCandidate tools.toIncidentTools article groupKey vector geography family host
        authoritative (some b, domain)).dedupeKey
  events : ∀ candidate : EventCandidate, truthy candidate.externalId = false →
    buildEventDedupeKey { candidate with name := a } ≠
      buildEventDedupeKey { candidate with name := b }
  participants : ∀ (event : Id) (candidate : ParticipantCandidate),
    truthy candidate.sourceParticipantId = false → truthy candidate.profileUrl = false →
    buildParticipantDedupeKey tools event { candidate with publishedName := a } ≠
      buildParticipantDedupeKey tools event { candidate with publishedName := b }
  watchTargets : watchTargetKey tools.toIncidentTools a ≠ watchTargetKey tools.toIncidentTools b
  promotions : ∀ (w : IncidentWorld) (incident target : Id) (version : Nat)
    (actor key : String) (row : SecurityIncident) (other : WatchTarget),
    w.store.incidents[incident]? = some row → row.company tools.toIncidentTools = some a →
    w.store.watchTargets[target]? = some other → other.targetType = "company" →
    other.canonicalTargetKey = watchTargetKey tools.toIncidentTools b →
    returned (promoteIncidentToWatchlist tools.toIncidentTools incident version actor key) w ≠
      some (some target)

variable {tools} {a b : String}

theorem incidentKey_eq_iff (hsha : Function.Injective tools.sha256) {article : ArticleCandidate}
    {groupKey : String} {vector : Option String} {geography : List String}
    {family host : Option String} {authoritative : Bool} {domain : Option String} :
    (incidentCandidate tools.toIncidentTools article groupKey vector geography family host
        authoritative (some a, domain)).dedupeKey =
      (incidentCandidate tools.toIncidentTools article groupKey vector geography family host
        authoritative (some b, domain)).dedupeKey ↔ slug a = slug b := by
  simp only [incidentCandidate]
  rw [String.append_right_inj, hsha.eq_iff, String.append_left_inj, String.append_left_inj,
    String.append_right_inj]

theorem eventKey_eq_iff {candidate : EventCandidate} (hid : truthy candidate.externalId = false) :
    buildEventDedupeKey { candidate with name := a } =
      buildEventDedupeKey { candidate with name := b } ↔ slug a = slug b := by
  simp only [buildEventDedupeKey, hid, Bool.false_eq_true, if_false]
  simp only [String.append_left_inj, String.append_right_inj]

theorem participantKey_eq_iff {event : Id} {candidate : ParticipantCandidate}
    (hid : truthy candidate.sourceParticipantId = false)
    (hurl : truthy candidate.profileUrl = false) :
    buildParticipantDedupeKey tools event { candidate with publishedName := a } =
      buildParticipantDedupeKey tools event { candidate with publishedName := b } ↔
        slug a = slug b := by
  simp [buildParticipantDedupeKey, participantIdentity, hid, hurl, Except.map]

/-- A promotion returns a stored target only under the key of its company. -/
theorem promotion_key {w : IncidentWorld} {incident target : Id} {version : Nat}
    {actor key : String} {row : SecurityIncident} {other : WatchTarget}
    (hrow : w.store.incidents[incident]? = some row)
    (hcompany : row.company tools.toIncidentTools = some a)
    (hother : w.store.watchTargets[target]? = some other)
    (hreturned : returned (promoteIncidentToWatchlist tools.toIncidentTools incident version actor
      key) w = some (some target)) :
    other.canonicalTargetKey = watchTargetKey tools.toIncidentTools a := by
  obtain ⟨⟨stored, company, hpromoted⟩, -⟩ := promotion_returned (Lib.run_of_returned hreturned)
  cases hrow.symm.trans hpromoted.stored
  cases hcompany.symm.trans hpromoted.watched
  obtain ⟨old, hold⟩ | ⟨-, hnew⟩ := hpromoted.chosen
  · obtain ⟨hstored, hkey⟩ := Table.first?_some hold
    cases hother.symm.trans hstored
    simp only [Bool.and_eq_true, beq_iff_eq] at hkey
    exact hkey.2
  · have hlt := (List.getElem?_eq_some_iff.mp hother).1
    rw [hnew] at hlt
    exact absurd hlt (Nat.lt_irrefl _)

theorem watchTargetKey_eq_iff :
    watchTargetKey tools.toIncidentTools a = watchTargetKey tools.toIncidentTools b ↔
      slugWords (strip tools.toIncidentTools a) = slugWords (strip tools.toIncidentTools b) := by
  rw [watchTargetKey, watchTargetKey, slug_eq_iff, slugWords_lower, slugWords_lower]

/-- The services keep two names apart exactly when they differ in their words, and still do once
the surrounding white space is gone. -/
theorem keys_apart_iff (hsha : Function.Injective tools.sha256) :
    KeysApart tools a b ↔ slugWords a ≠ slugWords b ∧
      slugWords (strip tools.toIncidentTools a) ≠ slugWords (strip tools.toIncidentTools b) := by
  constructor
  · intro happart
    constructor
    · intro hwords
      exact happart.events { name := "", eventSeriesKey := "" } rfl
        ((eventKey_eq_iff rfl).mpr ((slug_eq_iff a b).mpr hwords))
    · intro hwords
      exact happart.watchTargets (watchTargetKey_eq_iff.mpr hwords)
  · rintro ⟨hwords, hstripped⟩
    have hslug : slug a ≠ slug b := fun h => hwords ((slug_eq_iff a b).mp h)
    refine ⟨?_, ?_, ?_, ?_, ?_⟩
    · intro article groupKey vector geography family host authoritative domain hkey
      exact hslug ((incidentKey_eq_iff hsha).mp hkey)
    · intro candidate hid hkey
      exact hslug ((eventKey_eq_iff hid).mp hkey)
    · intro event candidate hid hurl hkey
      exact hslug ((participantKey_eq_iff hid hurl).mp hkey)
    · intro hkey
      exact hstripped (watchTargetKey_eq_iff.mp hkey)
    · intro w incident target version actor key row other hrow hcompany hother _ hkey hreturned
      have hown := promotion_key hrow hcompany hother hreturned
      exact hstripped (watchTargetKey_eq_iff.mp (hown.symm.trans hkey))

end Keys

/-- Case folding and removal of punctuation and white space, by what it does to small Cyrillic
letters. -/
structure NameFolding where
  fold : String → String
  keeps : ∀ name : String, (∀ c ∈ name.toList, 1072 ≤ c.toNat ∧ c.toNat ≤ 1103) →
    fold name = name

/-- Two Russian companies have no Latin letter and share every key. -/
theorem russian_names_merged :
    ¬ ∃ folding : NameFolding, ∀ (tools : EventTools) (a b : String),
      Function.Injective tools.sha256 → folding.fold a ≠ folding.fold b →
        KeysApart tools a b := by
  rintro ⟨folding, hall⟩
  have hfirst := folding.keeps "газпром" (by simp)
  have hsecond := folding.keeps "роснефть" (by simp)
  have happart := hall pageTools "газпром" "роснефть" (fun _ _ h => h)
    (by rw [hfirst, hsecond]; decide)
  exact happart.events { name := "", eventSeriesKey := "" } rfl (by decide +kernel)

/-- Two Latin names are kept apart. -/
theorem latin_names_apart : KeysApart pageTools "Acme Corp" "Acme Bank" :=
  (keys_apart_iff fun _ _ h => h).mpr ⟨by decide +kernel, by decide +kernel⟩

end GhostRecon.Events
