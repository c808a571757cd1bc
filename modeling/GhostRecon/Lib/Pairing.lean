import Mathlib.Data.List.Forall2
import Mathlib.Data.List.ReduceOption

/-!
Two lists with gaps, paired by rank: the first name that is there with the first home
that is there, and so on, a single home with every name. Nothing is lost and nothing
mixed up exactly when no home is left over and the ranks agree with the positions.
-/

namespace GhostRecon.Lib

universe u v

variable {α : Type u} {β : Type v}

/-- The entries that are there, with their positions. -/
def placed (entries : List (Option α)) : List (α × Nat) :=
  entries.zipIdx.filterMap fun entry => entry.1.map (·, entry.2)

/-- The home that the name of a rank is paired with. -/
def homeOfRank (homes : List β) (k : Nat) : Option β :=
  (homes[k]?).or (if homes.length = 1 then homes.head? else none)

/-- Names paired with homes by rank, after the gaps are closed in both lists. -/
def pairByRank (names : List (Option α)) (homes : List (Option β)) :
    List (Option α × Option β) :=
  match names.reduceOption, homes.reduceOption with
  | [], [] => [(none, none)]
  | [], homes => homes.map fun home => (none, some home)
  | names, homes => names.zipIdx.map fun entry => (some entry.1, homeOfRank homes entry.2)

/-- Every name is kept, every home is kept, and where the lists are of one length a name
meets no home but the one of its own position. -/
structure Faithful (names : List (Option α)) (homes : List (Option β))
    (contexts : List (Option α × Option β)) : Prop where
  keepsNames : contexts.filterMap Prod.fst = names.reduceOption
  keepsHomes : ∀ home ∈ homes.reduceOption, ∃ context ∈ contexts, context.2 = some home
  ownHomes : names.length = homes.length →
    List.Forall₂ (fun entry context => context.1 = some entry.1 ∧
        ∀ home, context.2 = some home → homes[entry.2]? = some (some home))
      (placed names) (contexts.filter (·.1.isSome))

/-- No home is left over that is not paired already, and where the lists are of one
length the ranks agree with the positions. -/
structure Aligned (names : List (Option α)) (homes : List (Option β)) : Prop where
  spare : names.reduceOption ≠ [] →
    ∀ home ∈ homes.reduceOption.drop names.reduceOption.length,
      home ∈ homes.reduceOption.take names.reduceOption.length
  ranks : names.length = homes.length → ∀ (k : Nat) (entry : α × Nat) (home : β × Nat),
    (placed names)[k]? = some entry → (placed homes)[k]? = some home →
      homes[entry.2]? = some (some home.1)
  single : names.length = homes.length → ∀ home, homes.reduceOption = [home] →
    ∀ entry ∈ placed names, homes[entry.2]? = some (some home)

theorem placed_fst (entries : List (Option α)) :
    (placed entries).map Prod.fst = entries.reduceOption := by
  unfold placed List.reduceOption
  rw [List.map_filterMap]
  have hfst : (fun entry : Option α × Nat => (entry.1.map (·, entry.2)).map Prod.fst) =
      id ∘ Prod.fst := by
    funext entry
    simp [Option.map_map, Function.comp_def]
  rw [hfst, ← List.filterMap_map, List.zipIdx_map_fst]

theorem reduceOption_get (entries : List (Option α)) (k : Nat) :
    entries.reduceOption[k]? = ((placed entries)[k]?).map Prod.fst := by
  rw [← placed_fst, List.getElem?_map]

theorem homeOfRank_some {homes : List β} {k : Nat} {home : β} :
    homeOfRank homes k = some home ↔ homes[k]? = some home ∨ homes = [home] := by
  unfold homeOfRank
  match homes with
  | [] => simp
  | [only] => cases k <;> simp
  | first :: second :: rest => simp

variable {names : List (Option α)} {homes : List (Option β)}

theorem pairByRank_unnamed (hnone : names.reduceOption = []) :
    pairByRank names homes =
      match homes.reduceOption with
      | [] => [(none, none)]
      | homes => homes.map fun home => (none, some home) := by
  unfold pairByRank
  rw [hnone]
  cases homes.reduceOption <;> rfl

theorem pairByRank_named (hsome : names.reduceOption ≠ []) :
    pairByRank names homes = names.reduceOption.zipIdx.map fun entry =>
      (some entry.1, homeOfRank homes.reduceOption entry.2) := by
  unfold pairByRank
  cases hnames : names.reduceOption with
  | nil => exact absurd hnames hsome
  | cons name rest => rfl

theorem reduceOption_map {ι : Type u} (f : ι → Option β) (values : List ι) :
    (values.map f).reduceOption = values.filterMap f := by
  unfold List.reduceOption
  rw [List.filterMap_map]
  rfl

/-- Gaps that are closed already do not count for the ranks. -/
theorem pairByRank_closed {ι κ : Type u} (f : ι → Option κ) (g : κ → Option α)
    (values : List ι) (homes : List (Option β)) :
    pairByRank ((values.filterMap f).map g) homes =
      pairByRank (values.map fun value => (f value).bind g) homes := by
  unfold pairByRank
  rw [reduceOption_map, reduceOption_map, List.filterMap_filterMap]

theorem pairByRank_closed_right {ι κ : Type v} (f : ι → Option κ) (g : κ → Option β)
    (values : List ι) (names : List (Option α)) :
    pairByRank names ((values.filterMap f).map g) =
      pairByRank names (values.map fun value => (f value).bind g) := by
  unfold pairByRank
  rw [reduceOption_map, reduceOption_map, List.filterMap_filterMap]

/-- A list without names is kept whole. -/
theorem faithful_unnamed (hnone : names.reduceOption = []) :
    Faithful names homes (pairByRank names homes) := by
  have hcontexts : ∀ context ∈ pairByRank names homes, context.1 = none := by
    rw [pairByRank_unnamed hnone]
    intro context hcontext
    split at hcontext
    · rw [List.mem_singleton.mp hcontext]
    · obtain ⟨home, -, rfl⟩ := List.mem_map.mp hcontext
      rfl
  refine ⟨?_, ?_, ?_⟩
  · rw [hnone, List.filterMap_eq_nil_iff]
    exact hcontexts
  · intro home hhome
    rw [pairByRank_unnamed hnone]
    split
    · next h => exact absurd hhome (h ▸ List.not_mem_nil)
    · exact ⟨_, List.mem_map.mpr ⟨home, hhome, rfl⟩, rfl⟩
  · intro _
    have hplaced : placed names = [] := by
      rw [← List.map_eq_nil_iff, placed_fst, hnone]
    have hfilter : (pairByRank names homes).filter (·.1.isSome) = [] := by
      rw [List.filter_eq_nil_iff]
      intro context hcontext
      simp [hcontexts context hcontext]
    rw [hplaced, hfilter]
    exact List.Forall₂.nil

theorem keepsNames_named (hsome : names.reduceOption ≠ []) :
    (pairByRank names homes).filterMap Prod.fst = names.reduceOption := by
  rw [pairByRank_named hsome, List.filterMap_map]
  have hfst : (Prod.fst ∘ fun entry : α × Nat =>
      (some entry.1, homeOfRank homes.reduceOption entry.2)) = some ∘ Prod.fst := rfl
  rw [hfst, List.filterMap_eq_map, List.zipIdx_map_fst]

/-- A home is kept when a name has its rank, or when it is there again before. -/
theorem keepsHomes_named (hsome : names.reduceOption ≠ []) :
    (∀ home ∈ homes.reduceOption, ∃ context ∈ pairByRank names homes, context.2 = some home) ↔
      ∀ home ∈ homes.reduceOption.drop names.reduceOption.length,
        home ∈ homes.reduceOption.take names.reduceOption.length := by
  have hpositive : 0 < names.reduceOption.length := List.length_pos_iff.mpr hsome
  rw [pairByRank_named hsome]
  constructor
  · intro hkeeps home hhome
    obtain ⟨context, hcontext, hpaired⟩ := hkeeps home (List.mem_of_mem_drop hhome)
    obtain ⟨⟨name, k⟩, hentry, rfl⟩ := List.mem_map.mp hcontext
    have hk : k < names.reduceOption.length := by
      have hget := List.mem_zipIdx_iff_getElem?.mp hentry
      exact (List.getElem?_eq_some_iff.mp hget).1
    rcases homeOfRank_some.mp hpaired with hrank | honly
    · exact List.mem_of_getElem? (by rw [List.getElem?_take_of_lt hk]; exact hrank)
    · rw [honly, List.take_of_length_le (Nat.succ_le_of_lt hpositive)]
      exact List.mem_singleton_self home
  · intro hspare home hhome
    have htake : home ∈ homes.reduceOption.take names.reduceOption.length := by
      rw [← List.take_append_drop names.reduceOption.length homes.reduceOption] at hhome
      rcases List.mem_append.mp hhome with htake | hdrop
      · exact htake
      · exact hspare home hdrop
    obtain ⟨k, hget⟩ := List.getElem?_of_mem htake
    have hk : k < names.reduceOption.length := by
      by_contra hnot
      rw [List.getElem?_take, if_neg hnot] at hget
      cases hget
    rw [List.getElem?_take_of_lt hk] at hget
    have hname : (names.reduceOption[k], k) ∈ names.reduceOption.zipIdx :=
      List.mem_zipIdx_iff_getElem?.mpr (List.getElem?_eq_getElem hk)
    exact ⟨_, List.mem_map.mpr ⟨_, hname, rfl⟩, homeOfRank_some.mpr (Or.inl hget)⟩

/-- The pairs are those of the positions when each rank is. -/
theorem ownHomes_named (hsome : names.reduceOption ≠ []) :
    List.Forall₂ (fun entry context => context.1 = some entry.1 ∧
        ∀ home, context.2 = some home → homes[entry.2]? = some (some home))
      (placed names) ((pairByRank names homes).filter (·.1.isSome)) ↔
      ∀ (k : Nat) (entry : α × Nat), (placed names)[k]? = some entry →
        ∀ home, homeOfRank homes.reduceOption k = some home →
          homes[entry.2]? = some (some home) := by
  have hcontexts : (pairByRank names homes).filter (·.1.isSome) =
      (placed names).zipIdx.map fun entry =>
        (some entry.1.1, homeOfRank homes.reduceOption entry.2) := by
    rw [pairByRank_named hsome, List.filter_eq_self.mpr, ← placed_fst names, List.zipIdx_map,
      List.map_map]
    · rfl
    · intro context hcontext
      obtain ⟨entry, -, rfl⟩ := List.mem_map.mp hcontext
      rfl
  rw [hcontexts, List.forall₂_iff_get]
  constructor
  · rintro ⟨-, hpairs⟩ k entry hentry home hhome
    obtain ⟨hk, rfl⟩ := List.getElem?_eq_some_iff.mp hentry
    exact (hpairs k hk (by simpa using hk)).2 home (by simpa using hhome)
  · intro hranks
    refine ⟨by simp, ?_⟩
    intro k hk hk'
    refine ⟨by simp, ?_⟩
    intro home hhome
    exact hranks k _ (List.getElem?_eq_getElem hk) home (by simpa using hhome)

/-- Pairing by rank is faithful exactly for aligned lists. -/
theorem faithful_pairByRank_iff :
    Faithful names homes (pairByRank names homes) ↔ Aligned names homes := by
  by_cases hsome : names.reduceOption = []
  · refine iff_of_true (faithful_unnamed hsome) ⟨absurd hsome, ?_, ?_⟩
    · intro _ k entry home hentry
      have hplaced : placed names = [] := by
        rw [← List.map_eq_nil_iff, placed_fst, hsome]
      rw [hplaced] at hentry
      cases hentry
    · intro _ home _ entry hentry
      have hplaced : placed names = [] := by
        rw [← List.map_eq_nil_iff, placed_fst, hsome]
      rw [hplaced] at hentry
      cases hentry
  · constructor
    · rintro ⟨-, hkeeps, hown⟩
      refine ⟨fun _ => (keepsHomes_named hsome).mp hkeeps, ?_, ?_⟩
      · intro hlength k entry home hentry hhome
        refine (ownHomes_named hsome).mp (hown hlength) k entry hentry home.1 ?_
        exact homeOfRank_some.mpr (Or.inl (by rw [reduceOption_get, hhome]; rfl))
      · intro hlength home honly entry hentry
        obtain ⟨k, hk⟩ := List.getElem?_of_mem hentry
        exact (ownHomes_named hsome).mp (hown hlength) k entry hk home
          (homeOfRank_some.mpr (Or.inr honly))
    · rintro ⟨hspare, hranks, hsingle⟩
      refine ⟨keepsNames_named hsome, (keepsHomes_named hsome).mpr (hspare hsome), ?_⟩
      intro hlength
      refine (ownHomes_named hsome).mpr ?_
      intro k entry hentry home hhome
      rcases homeOfRank_some.mp hhome with hrank | honly
      · rw [reduceOption_get] at hrank
        obtain ⟨placedHome, hplaced, rfl⟩ := Option.map_eq_some_iff.mp hrank
        exact hranks hlength k entry placedHome hentry hplaced
      · exact hsingle hlength home honly entry (List.mem_of_getElem? hentry)

end GhostRecon.Lib
