import GhostRecon.Lib.Run
import Mathlib.Data.List.Basic
import Mathlib.Data.List.Nodup
import Mathlib.Tactic

/-!
Append-only relational tables. A row is addressed by its position, so two
live rows can never share an identifier, an insert always takes a fresh one,
and an update touches exactly the addressed row. The queries are the three
shapes an object-relational mapper emits: a primary-key lookup, the first row
that satisfies a filter, and the newest row under an ordering key.
-/

namespace GhostRecon.Lib

universe u v

abbrev Id := Nat

/-- Rows in insertion order; the identifier of a row is its position. -/
abbrev Table (ρ : Type u) := List ρ

namespace Table

variable {ρ : Type u} {κ : Type v}

/-- `SELECT ... WHERE p LIMIT 1`, with the identifier of the chosen row. -/
def first? (t : Table ρ) (p : ρ → Bool) : Option (Id × ρ) :=
  match t.findIdx? p with
  | none => none
  | some i => (t[i]?).map (fun row => (i, row))

/-- `SELECT ... WHERE p`: the matching rows with their ids, in insertion order. -/
def select (t : Table ρ) (p : ρ → Bool) : List (Id × ρ) :=
  (t.zipIdx.filter fun row => p row.1).map Prod.swap

/-- The row at the id is the one row that matches. -/
def Only (t : Table ρ) (p : ρ → Bool) (i : Id) (row : ρ) : Prop :=
  t[i]? = some row ∧ p row = true ∧ ∀ j other, t[j]? = some other → p other = true → j = i

/-- Keep the better of two candidate rows; an earlier row wins a tie. -/
def newer (le : κ → κ → Bool) (key : ρ → κ) (best : Option (ρ × Id)) (row : ρ × Id) :
    Option (ρ × Id) :=
  match best with
  | none => some row
  | some current => if le (key row.1) (key current.1) then some current else some row

/-- `SELECT ... WHERE p ORDER BY key DESC LIMIT 1`. -/
def latest? (t : Table ρ) (p : ρ → Bool) (le : κ → κ → Bool) (key : ρ → κ) :
    Option (Id × ρ) :=
  (((t.zipIdx.filter (fun row => p row.1)).foldl (newer le key) none).map Prod.swap)

/-- A unique constraint on a nullable column: `NULL` never conflicts. -/
def uniqueOn [DecidableEq κ] (t : Table ρ) (key : ρ → Option κ) : Bool :=
  decide (t.filterMap key).Nodup

theorem first?_some {t : Table ρ} {p : ρ → Bool} {i : Id} {row : ρ}
    (h : t.first? p = some (i, row)) : t[i]? = some row ∧ p row = true := by
  unfold first? at h
  split at h
  · cases h
  · next j hj =>
    obtain ⟨hlt, hp, -⟩ := List.findIdx?_eq_some_iff_getElem.mp hj
    rw [List.getElem?_eq_getElem hlt, Option.map_some, Option.some.injEq,
      Prod.mk.injEq] at h
    obtain ⟨rfl, rfl⟩ := h
    exact ⟨List.getElem?_eq_getElem hlt, hp⟩

theorem first?_none {t : Table ρ} {p : ρ → Bool} :
    t.first? p = none ↔ ∀ row ∈ t, p row = false := by
  unfold first?
  rw [← List.findIdx?_eq_none_iff]
  split
  · next h => simp [h]
  · next j hj =>
    obtain ⟨hlt, -, -⟩ := List.findIdx?_eq_some_iff_getElem.mp hj
    simp [hj, List.getElem?_eq_getElem hlt]

/-- A table that has a matching row yields one. -/
theorem first?_isSome_of_mem {t : Table ρ} {p : ρ → Bool} {row : ρ}
    (hrow : row ∈ t) (hp : p row = true) : ∃ found, t.first? p = some found := by
  cases h : t.first? p with
  | some found => exact ⟨found, rfl⟩
  | none => simp [first?_none.mp h row hrow] at hp

/-- A row of a table is a row of every table that has grown from it. -/
theorem get_of_prefix {t t' : Table ρ} (h : t <+: t') (i : Id) (row : ρ)
    (hrow : t[i]? = some row) : t'[i]? = some row := by
  obtain ⟨more, rfl⟩ := h
  obtain ⟨hlt, -⟩ := List.getElem?_eq_some_iff.mp hrow
  rw [List.getElem?_append_left hlt]
  exact hrow

private theorem newer_mem (le : κ → κ → Bool) (key : ρ → κ) (rows : List (ρ × Id))
    (best : Option (ρ × Id)) (found : ρ × Id)
    (h : rows.foldl (newer le key) best = some found) :
    best = some found ∨ found ∈ rows := by
  induction rows generalizing best with
  | nil => exact Or.inl h
  | cons row rest ih =>
    rcases ih (newer le key best row) h with hbest | hrest
    · unfold newer at hbest
      split at hbest
      · exact Or.inr (by simp [Option.some.inj hbest])
      · split at hbest
        · exact Or.inl hbest
        · exact Or.inr (by simp [Option.some.inj hbest])
    · exact Or.inr (List.mem_cons_of_mem row hrest)

theorem latest?_some {t : Table ρ} {p : ρ → Bool} {le : κ → κ → Bool} {key : ρ → κ}
    {i : Id} {row : ρ} (h : t.latest? p le key = some (i, row)) :
    t[i]? = some row ∧ p row = true := by
  unfold latest? at h
  obtain ⟨found, hfound, hswap⟩ := Option.map_eq_some_iff.mp h
  rcases newer_mem le key _ none found hfound with hnone | hmem
  · cases hnone
  · obtain ⟨hzip, hp⟩ := List.mem_filter.mp hmem
    obtain ⟨r, j⟩ := found
    simp only [Prod.swap_prod_mk, Prod.mk.injEq] at hswap
    obtain ⟨rfl, rfl⟩ := hswap
    exact ⟨List.mem_zipIdx_iff_getElem?.mp hzip, hp⟩

section Newest

variable {le : κ → κ → Bool} {key : ρ → κ}

theorem foldl_newer_concat {rows : List (ρ × Id)} {row : ρ × Id} :
    (rows ++ [row]).foldl (newer le key) none =
      newer le key (rows.foldl (newer le key) none) row := by
  rw [List.foldl_append, List.foldl_cons, List.foldl_nil]

theorem foldl_newer_none {rows : List (ρ × Id)}
    (h : rows.foldl (newer le key) none = none) : rows = [] := by
  rcases List.eq_nil_or_concat rows with rfl | ⟨front, last, rfl⟩
  · rfl
  · rw [List.concat_eq_append, foldl_newer_concat] at h
    unfold newer at h
    split at h
    · cases h
    · split at h <;> cases h

/-- The best of some rows beats the rows before it, and is not beaten by the rows
after it. -/
theorem foldl_newer_iff (htotal : ∀ a b, le a b = true ∨ le b a = true)
    (htrans : ∀ a b c, le a b = true → le b c = true → le a c = true)
    {rows : List (ρ × Id)} {found : ρ × Id} :
    rows.foldl (newer le key) none = some found ↔
      ∃ earlier later, rows = earlier ++ found :: later ∧
        (∀ row ∈ earlier, le (key found.1) (key row.1) = false) ∧
        ∀ row ∈ later, le (key row.1) (key found.1) = true := by
  induction rows using List.reverseRecOn generalizing found with
  | nil => simp
  | append_singleton rows row ih =>
    rw [foldl_newer_concat]
    cases hbest : rows.foldl (newer le key) none with
    | none =>
      have hrows := foldl_newer_none hbest
      subst hrows
      rw [newer, Option.some.injEq]
      constructor
      · rintro rfl
        exact ⟨[], [], rfl, by simp, by simp⟩
      · rintro ⟨earlier, later, hsplit, -⟩
        rcases concat_eq_append_cons hsplit with ⟨-, -, hsame⟩ | ⟨front, -, hrows⟩
        · exact hsame
        · simp at hrows
    | some best =>
      obtain ⟨earlier, later, hrows, hearlier, hlater⟩ := ih.mp hbest
      have hmem : best ∈ rows := by
        rw [hrows]
        simp
      rw [newer]
      cases hle : le (key row.1) (key best.1) with
      | true =>
        rw [if_pos rfl, Option.some.injEq]
        constructor
        · rintro rfl
          refine ⟨earlier, later ++ [row], by simp [hrows], hearlier, ?_⟩
          intro other hother
          rcases List.mem_append.mp hother with hold | hnew
          · exact hlater other hold
          · rw [List.mem_singleton.mp hnew]
            exact hle
        · rintro ⟨before, after, hsplit, hbefore, hafter⟩
          rcases concat_eq_append_cons hsplit with ⟨-, hall, hsame⟩ | ⟨front, hfront, hcut⟩
          · rw [← hall, ← hsame] at hbefore
            rw [hbefore best hmem] at hle
            cases hle
          · have hfound := ih.mpr ⟨before, front, hcut, hbefore,
              fun other hother => hafter other (by simp [hfront, hother])⟩
            rw [hbest] at hfound
            exact Option.some.inj hfound
      | false =>
        rw [if_neg Bool.false_ne_true, Option.some.injEq]
        constructor
        · rintro rfl
          refine ⟨rows, [], rfl, ?_, by simp⟩
          intro other hother
          rw [hrows] at hother
          by_contra hbeats
          rw [Bool.not_eq_false] at hbeats
          have hover : le (key row.1) (key best.1) = true := by
            rcases List.mem_append.mp hother with hold | hnew
            · have hworse := (htotal (key best.1) (key other.1)).resolve_left
                (by rw [hearlier other hold]; exact Bool.false_ne_true)
              exact htrans _ _ _ hbeats hworse
            · rcases List.mem_cons.mp hnew with rfl | hlate
              · exact hbeats
              · exact htrans _ _ _ hbeats (hlater other hlate)
          rw [hle] at hover
          cases hover
        · rintro ⟨before, after, hsplit, hbefore, hafter⟩
          rcases concat_eq_append_cons hsplit with ⟨-, -, hsame⟩ | ⟨front, hfront, hcut⟩
          · exact hsame
          · have hfound := ih.mpr ⟨before, front, hcut, hbefore,
              fun other hother => hafter other (by simp [hfront, hother])⟩
            rw [hbest] at hfound
            cases hfound
            have hover := hafter row (by simp [hfront])
            rw [hle] at hover
            cases hover

theorem zipIdx_ordered (t : Table ρ) (p : ρ → Bool) :
    (t.zipIdx.filter fun row => p row.1).Pairwise fun a b => a.2 < b.2 := by
  have hall : t.zipIdx.Pairwise fun a b => a.2 < b.2 := by
    rw [← List.pairwise_map (f := Prod.snd) (R := fun a b : Nat => a < b), List.zipIdx_map_snd]
    exact List.pairwise_lt_range'
  exact hall.filter _

/-- The newest row that satisfies the filter: no matching row is newer, and no
matching row before it is as new. -/
theorem latest?_eq_some_iff (htotal : ∀ a b, le a b = true ∨ le b a = true)
    (htrans : ∀ a b c, le a b = true → le b c = true → le a c = true)
    {t : Table ρ} {p : ρ → Bool} {i : Id} {row : ρ} :
    t.latest? p le key = some (i, row) ↔
      t[i]? = some row ∧ p row = true ∧
        ∀ j other, t[j]? = some other → p other = true →
          if j < i then le (key row) (key other) = false
          else le (key other) (key row) = true := by
  have hfold : t.latest? p le key = some (i, row) ↔
      (t.zipIdx.filter fun row => p row.1).foldl (newer le key) none = some (row, i) := by
    rw [latest?, Option.map_eq_some_iff]
    constructor
    · rintro ⟨⟨found, place⟩, hfound, hswap⟩
      cases hswap
      exact hfound
    · intro hfound
      exact ⟨(row, i), hfound, rfl⟩
  have hmem : ∀ {j : Id} {other : ρ}, (other, j) ∈ t.zipIdx.filter (fun row => p row.1) ↔
      t[j]? = some other ∧ p other = true := by
    intro j other
    rw [List.mem_filter, List.mem_zipIdx_iff_getElem?]
  have hordered := zipIdx_ordered t p
  rw [hfold, foldl_newer_iff htotal htrans]
  constructor
  · rintro ⟨earlier, later, hrows, hearlier, hlater⟩
    rw [hrows] at hordered hmem
    obtain ⟨hrow, hp⟩ := hmem.mp (by simp : (row, i) ∈ earlier ++ (row, i) :: later)
    refine ⟨hrow, hp, ?_⟩
    intro j other hother hpother
    obtain ⟨-, hafter, hbefore⟩ := List.pairwise_append.mp hordered
    rcases List.mem_append.mp (hmem.mpr ⟨hother, hpother⟩) with hold | hnew
    · have hj : j < i := hbefore _ hold _ List.mem_cons_self
      rw [if_pos hj]
      exact hearlier _ hold
    · rcases List.mem_cons.mp hnew with hsame | hlate
      · cases hsame
        rw [if_neg (lt_irrefl i)]
        exact (htotal _ _).elim id id
      · have hj : i < j := (List.pairwise_cons.mp hafter).1 _ hlate
        rw [if_neg (Nat.lt_asymm hj)]
        exact hlater _ hlate
  · rintro ⟨hrow, hp, hbest⟩
    obtain ⟨earlier, later, hrows⟩ := List.append_of_mem (hmem.mpr ⟨hrow, hp⟩)
    rw [hrows] at hordered hmem
    obtain ⟨-, hafter, hbefore⟩ := List.pairwise_append.mp hordered
    refine ⟨earlier, later, hrows, ?_, ?_⟩
    · rintro ⟨other, j⟩ hold
      have hj : j < i := hbefore _ hold _ List.mem_cons_self
      obtain ⟨hother, hpother⟩ := hmem.mp (List.mem_append_left _ hold)
      have hverdict := hbest j other hother hpother
      rw [if_pos hj] at hverdict
      exact hverdict
    · rintro ⟨other, j⟩ hlate
      have hj : i < j := (List.pairwise_cons.mp hafter).1 _ hlate
      obtain ⟨hother, hpother⟩ :=
        hmem.mp (List.mem_append_right _ (List.mem_cons_of_mem _ hlate))
      have hverdict := hbest j other hother hpother
      rw [if_neg (Nat.lt_asymm hj)] at hverdict
      exact hverdict

end Newest

section Select

theorem mem_select {t : Table ρ} {p : ρ → Bool} {i : Id} {row : ρ} :
    (i, row) ∈ t.select p ↔ t[i]? = some row ∧ p row = true := by
  rw [select, List.mem_map]
  constructor
  · rintro ⟨⟨found, place⟩, hfound, hswap⟩
    cases hswap
    rwa [List.mem_filter, List.mem_zipIdx_iff_getElem?] at hfound
  · intro hrow
    refine ⟨(row, i), ?_, rfl⟩
    rwa [List.mem_filter, List.mem_zipIdx_iff_getElem?]

theorem select_ordered (t : Table ρ) (p : ρ → Bool) :
    (t.select p).Pairwise fun a b => a.1 < b.1 := by
  rw [select, List.pairwise_map]
  exact zipIdx_ordered t p

theorem select_nodup (t : Table ρ) (p : ρ → Bool) : ((t.select p).map Prod.fst).Nodup := by
  rw [List.Nodup, List.pairwise_map]
  exact (select_ordered t p).imp fun h => Nat.ne_of_lt h

theorem select_eq_nil {t : Table ρ} {p : ρ → Bool} :
    t.select p = [] ↔ ∀ row ∈ t, p row = false := by
  rw [List.eq_nil_iff_forall_not_mem]
  constructor
  · intro hnone row hrow
    obtain ⟨i, hi⟩ := List.mem_iff_getElem?.mp hrow
    by_contra hp
    exact hnone (i, row) (mem_select.mpr ⟨hi, by simpa using hp⟩)
  · rintro hnone ⟨i, row⟩ hselected
    obtain ⟨hrow, hp⟩ := mem_select.mp hselected
    rw [hnone row (List.mem_of_getElem? hrow)] at hp
    cases hp

/-- A selection of one row is a unique match. -/
theorem select_eq_singleton {t : Table ρ} {p : ρ → Bool} {i : Id} {row : ρ} :
    t.select p = [(i, row)] ↔ t.Only p i row := by
  constructor
  · intro hselect
    obtain ⟨hrow, hp⟩ := mem_select.mp (hselect ▸ List.mem_singleton_self (i, row))
    refine ⟨hrow, hp, ?_⟩
    intro j other hother hpother
    have hmem := mem_select.mpr ⟨hother, hpother⟩
    rw [hselect, List.mem_singleton] at hmem
    exact (Prod.mk.inj hmem).1
  · rintro ⟨hrow, hp, honly⟩
    have hmem : (i, row) ∈ t.select p := mem_select.mpr ⟨hrow, hp⟩
    have hordered := select_ordered t p
    obtain ⟨earlier, later, hsplit⟩ := List.append_of_mem hmem
    have hsame : ∀ found ∈ t.select p, found.1 = i := by
      rintro ⟨j, other⟩ hfound
      obtain ⟨hother, hpother⟩ := mem_select.mp hfound
      exact honly j other hother hpother
    rw [hsplit] at hordered hsame ⊢
    obtain ⟨-, hafter, hbefore⟩ := List.pairwise_append.mp hordered
    have hearlier : earlier = [] := by
      rw [List.eq_nil_iff_forall_not_mem]
      intro found hfound
      have hlt : found.1 < i := hbefore found hfound _ List.mem_cons_self
      exact absurd (hsame found (List.mem_append_left _ hfound)) (Nat.ne_of_lt hlt)
    have hlater : later = [] := by
      rw [List.eq_nil_iff_forall_not_mem]
      intro found hfound
      have hlt : i < found.1 := (List.pairwise_cons.mp hafter).1 found hfound
      have heq := hsame found (List.mem_append_right _ (List.mem_cons_of_mem _ hfound))
      exact absurd heq (Nat.ne_of_gt hlt)
    rw [hearlier, hlater, List.nil_append]

/-- A limit above one row does not hide a second match. -/
theorem take_select_eq_singleton {t : Table ρ} {p : ρ → Bool} {limit : Nat} (h : 2 ≤ limit)
    {i : Id} {row : ρ} : (t.select p).take limit = [(i, row)] ↔ t.Only p i row := by
  rw [← select_eq_singleton]
  constructor
  · intro htake
    have hlength := congrArg List.length htake
    rw [List.length_take, List.length_singleton] at hlength
    have hshort : (t.select p).length ≤ limit := by omega
    rwa [List.take_of_length_le hshort] at htake
  · intro hselect
    rw [hselect]
    exact List.take_of_length_le (by simp; omega)

end Select

/-- A unique constraint admits at most one row for each key. -/
theorem uniqueOn_iff [DecidableEq κ] {t : Table ρ} {key : ρ → Option κ} :
    t.uniqueOn key = true ↔ (t.filterMap key).Nodup := by
  simp [uniqueOn]

/-- Two rows under one key are the same row. -/
theorem uniqueOn_position [DecidableEq κ] {t : Table ρ} {key : ρ → Option κ} {i j : Id}
    {row row' : ρ} {k : κ} (h : t.uniqueOn key = true) (hi : t[i]? = some row)
    (hj : t[j]? = some row') (hrow : key row = some k) (hrow' : key row' = some k) : i = j := by
  have hpairs := List.pairwise_filterMap.mp (uniqueOn_iff.mp h)
  obtain ⟨hilt, rfl⟩ := List.getElem?_eq_some_iff.mp hi
  obtain ⟨hjlt, rfl⟩ := List.getElem?_eq_some_iff.mp hj
  rw [List.pairwise_iff_getElem] at hpairs
  by_contra hne
  rcases Nat.lt_or_gt_of_ne hne with hlt | hlt
  · exact hpairs i j hilt hjlt hlt k hrow k hrow' rfl
  · exact hpairs j i hjlt hilt hlt k hrow' k hrow rfl

/-- After an insert a unique constraint holds exactly when it held before and
the key of the row is new. -/
theorem uniqueOn_concat [DecidableEq κ] {t : Table ρ} {key : ρ → Option κ} {row : ρ} :
    uniqueOn (t ++ [row]) key = true ↔
      t.uniqueOn key = true ∧ ∀ k, key row = some k → ∀ old ∈ t, key old ≠ some k := by
  simp only [uniqueOn_iff]
  cases hk : key row with
  | none => simp [List.filterMap_append, hk]
  | some k =>
    simp only [List.filterMap_append, List.filterMap_cons, hk, List.filterMap_nil,
      List.nodup_append, List.nodup_cons, List.not_mem_nil, not_false_eq_true,
      List.nodup_nil, and_self, List.mem_filterMap, List.mem_cons, or_false, true_and,
      Option.some.injEq, forall_eq']
    constructor
    · rintro ⟨hold, hfresh⟩
      refine ⟨hold, ?_⟩
      intro old hmem heq
      exact hfresh k ⟨old, hmem, heq⟩ k rfl rfl
    · rintro ⟨hold, hfresh⟩
      refine ⟨hold, ?_⟩
      rintro a ⟨old, hmem, heq⟩ b rfl rfl
      exact hfresh old hmem heq

/-- Only the addressed row decides what a modification does. -/
theorem modify_congr {t : Table ρ} {i : Id} {row : ρ} {f g : ρ → ρ}
    (hrow : t[i]? = some row) (h : f row = g row) : t.modify i f = t.modify i g := by
  apply List.ext_getElem?
  intro j
  rw [List.getElem?_modify, List.getElem?_modify]
  by_cases hij : i = j
  · subst hij
    simp [hrow, h]
  · simp [hij]

theorem modify_self {t : Table ρ} {i : Id} {row : ρ} {f : ρ → ρ}
    (hrow : t[i]? = some row) (h : f row = row) : t.modify i f = t := by
  rw [modify_congr (g := id) hrow h, List.modify_id]

/-- An update that keeps every row's key keeps the constraint. -/
theorem uniqueOn_modify [DecidableEq κ] {t : Table ρ} {key : ρ → Option κ} {i : Id}
    {f : ρ → ρ} (hkey : ∀ row, key (f row) = key row) :
    uniqueOn (t.modify i f) key = t.uniqueOn key := by
  have hmap : (t.modify i f).filterMap key = t.filterMap key := by
    induction t generalizing i with
    | nil => cases i <;> rfl
    | cons row rest ih =>
      cases i with
      | zero => simp [List.filterMap_cons, hkey]
      | succ i => simp [List.filterMap_cons, ih]
  simp only [uniqueOn, hmap]

/-- An update that no check sees keeps what holds of all rows. -/
theorem all_modify {t : Table ρ} {i : Id} {f : ρ → ρ} {p : ρ → Bool}
    (h : ∀ row, p (f row) = p row) : (t.modify i f).all p = t.all p := by
  induction t generalizing i with
  | nil => cases i <;> rfl
  | cons row rest ih =>
    cases i with
    | zero => simp [h]
    | succ i => simp [ih]

/-- When a changed row leaves the table in order, the others are, and any other change of that
row is judged by its result alone. -/
theorem all_modify_one {t : Table ρ} {i : Id} {row : ρ} {f g : ρ → ρ} {p : ρ → Bool}
    (hrow : t[i]? = some row) (h : (t.modify i g).all p = true) :
    (t.modify i f).all p = p (f row) := by
  induction t generalizing i with
  | nil => cases hrow
  | cons first rest ih =>
    cases i with
    | zero =>
      obtain rfl : first = row := Option.some.inj hrow
      simp only [List.modify_zero_cons, List.all_cons, Bool.and_eq_true] at h ⊢
      rw [h.2, Bool.and_true]
    | succ i =>
      simp only [List.modify_succ_cons, List.all_cons, Bool.and_eq_true] at h ⊢
      rw [h.1, Bool.true_and]
      exact ih hrow h.2

/-- A unique constraint on a grown table held before. -/
theorem uniqueOn_of_prefix [DecidableEq κ] {t t' : Table ρ} {key : ρ → Option κ}
    (hgrown : t <+: t') (h : t'.uniqueOn key = true) : t.uniqueOn key = true := by
  obtain ⟨more, rfl⟩ := hgrown
  rw [uniqueOn_iff, List.filterMap_append] at h
  exact uniqueOn_iff.mpr (List.nodup_append.mp h).1

theorem modify_last (t : Table ρ) (row : ρ) (f : ρ → ρ) :
    (t ++ [row]).modify t.length f = t ++ [f row] := by
  induction t with
  | nil => rfl
  | cons first rest ih => simpa using ih

/-- A row after an insert is an old one or the new one. -/
theorem get_concat {t : Table ρ} {i : Id} {row new : ρ} (h : (t ++ [new])[i]? = some row) :
    t[i]? = some row ∨ i = t.length ∧ row = new := by
  rw [List.getElem?_append] at h
  split at h
  · exact Or.inl h
  · next hlt =>
    obtain ⟨hindex, hrow⟩ := List.getElem?_eq_some_iff.mp h
    simp only [List.length_singleton] at hindex
    have hle : i ≤ t.length := Nat.le_of_sub_eq_zero (Nat.lt_one_iff.mp hindex)
    refine Or.inr ⟨Nat.le_antisymm hle (Nat.not_lt.mp hlt), ?_⟩
    simpa using hrow.symm

/-- The row at a position after an update. -/
theorem get_modify {t : Table ρ} {e i : Id} {row row' : ρ} {f : ρ → ρ}
    (hrow : t[i]? = some row) (he : e = i → f row = row') (hne : e ≠ i → row = row') :
    (t.modify e f)[i]? = some row' := by
  by_cases hi : e = i
  · subst hi
    simp [hrow, he rfl]
  · simp [hi, hrow, hne hi]

/-- Rows that do not match do not matter to a lookup. -/
theorem first?_append_none {t more : Table ρ} {p : ρ → Bool}
    (h : ∀ row ∈ more, p row = false) : first? (t ++ more) p = t.first? p := by
  have hmore : more.findIdx? p = none := List.findIdx?_eq_none_iff.mpr h
  unfold first?
  rw [List.findIdx?_append, hmore]
  cases hfound : t.findIdx? p with
  | none => rfl
  | some i =>
    obtain ⟨hlt, -, -⟩ := List.findIdx?_eq_some_iff_getElem.mp hfound
    simp [List.getElem?_append_left hlt]

/-- A row that matches where none did is found. -/
theorem first?_append_new {t : Table ρ} {p : ρ → Bool} {row : ρ} (h : t.first? p = none) :
    first? (t ++ [row]) p = if p row then some (t.length, row) else none := by
  have hnone : t.findIdx? p = none := by
    rw [List.findIdx?_eq_none_iff]
    exact first?_none.mp h
  unfold first?
  rw [List.findIdx?_append, hnone]
  cases hp : p row <;> simp [List.findIdx?_cons, hp]

/-- An update that does not touch what a lookup reads. -/
theorem first?_modify {t : Table ρ} {p : ρ → Bool} {i : Id} {f : ρ → ρ}
    (h : ∀ row, p (f row) = p row) :
    first? (t.modify i f) p =
      (t.first? p).map fun found => (found.1, if found.1 = i then f found.2 else found.2) := by
  have hindex : (t.modify i f).findIdx? p = t.findIdx? p := by
    induction t generalizing i with
    | nil => cases i <;> rfl
    | cons row rest ih =>
      cases i with
      | zero => simp [List.findIdx?_cons, h]
      | succ i => simp [List.findIdx?_cons, ih]
  unfold first?
  rw [hindex]
  cases t.findIdx? p with
  | none => rfl
  | some j =>
    simp only [List.getElem?_modify]
    by_cases hij : i = j
    · subst hij
      cases t[i]? <;> simp
    · cases t[j]? <;> simp [hij, Ne.symm hij]

/-- The rows behind a table are those at the positions behind it. -/
theorem rows_behind (t rows : Table ρ) :
    ((List.range rows.length).map (t.length + ·)).filterMap ((t ++ rows)[·]?) = rows := by
  have hget : ((List.range rows.length).map (t.length + ·)).map ((t ++ rows)[·]?) =
      rows.map some := by
    rw [List.map_map]
    apply List.ext_getElem
    · simp
    · intro i hi hi'
      have hlt : i < rows.length := by simpa using hi
      simp [List.getElem?_append_right, List.getElem?_eq_getElem hlt]
  calc ((List.range rows.length).map (t.length + ·)).filterMap ((t ++ rows)[·]?)
      = (((List.range rows.length).map (t.length + ·)).map ((t ++ rows)[·]?)).filterMap id := by
        exact (List.filterMap_map (f := fun i => (t ++ rows)[i]?) (g := id)).symm
    _ = rows := by
        rw [hget, List.filterMap_map]
        exact List.filterMap_some

/-- The first match of a table stays the first when the table grows. -/
theorem first?_of_prefix {t t' : Table ρ} {p : ρ → Bool} {found : Id × ρ}
    (h : t <+: t') (hfound : t.first? p = some found) : t'.first? p = some found := by
  obtain ⟨more, rfl⟩ := h
  obtain ⟨i, row⟩ := found
  obtain ⟨hrow, -⟩ := first?_some hfound
  have hindex : t.findIdx? p = some i := by
    unfold first? at hfound
    split at hfound
    · cases hfound
    · next j hj =>
      obtain ⟨_, -, heq⟩ := Option.map_eq_some_iff.mp hfound
      rw [hj, (Prod.mk.inj heq).1]
  have hboth : (t ++ more).findIdx? p = some i := by
    rw [List.findIdx?_append, hindex]
    rfl
  have hplace : (t ++ more)[i]? = some row :=
    get_of_prefix (List.prefix_append t more) i row hrow
  simp [first?, hboth, hplace]

end Table

end GhostRecon.Lib
