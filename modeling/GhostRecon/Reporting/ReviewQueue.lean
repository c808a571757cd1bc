import GhostRecon.Governance.ReviewDecisions
import GhostRecon.Lib.Paging
import GhostRecon.Lib.Run

/-!
The review queue as the console reads it. The cursor is the number of matching
reviews before the next page, counted anew for every page, and a decided review no
longer matches: a reader who walks the open reviews while others decide passes over
as many reviews as were decided behind him.
-/

namespace GhostRecon

open Lib (Id Table Reader)

section Text

/-- A run of decimal digits, with single underscores between them. -/
def decimalDigits (chars : List Char) : Option Nat :=
  let groups := chars.splitOn '_'
  if groups.all fun group => !group.isEmpty && group.all Char.isDigit then
    some (Nat.ofDigitChars 10 groups.flatten 0)
  else none

/-- `int(text)`. -/
def pyInt (text : String) : Option Int :=
  match (stripChars isPySpace text).toList with
  | '+' :: rest => (decimalDigits rest).map Int.ofNat
  | '-' :: rest => (decimalDigits rest).map fun n => -Int.ofNat n
  | chars => (decimalDigits chars).map Int.ofNat

/-- The pattern language of `LIKE`. -/
def likeMatch : List Char → List Char → Bool
  | [], text => text.isEmpty
  | '%' :: pattern, text => text.tails.any (likeMatch pattern)
  | '_' :: pattern, text =>
    match text with
    | [] => false
    | _ :: rest => likeMatch pattern rest
  | '\\' :: c :: pattern, text =>
    match text with
    | [] => false
    | d :: rest => c == d && likeMatch pattern rest
  | c :: pattern, text =>
    match text with
    | [] => false
    | d :: rest => c == d && likeMatch pattern rest

theorem digit_plain {c : Char} (hdigit : c.isDigit = true) :
    isPySpace c = false ∧ c ∉ ['+', '-', '_'] := by
  have hrange : 48 ≤ c.toNat ∧ c.toNat ≤ 57 := by
    rw [Char.isDigit, Bool.and_eq_true, decide_eq_true_eq, decide_eq_true_eq] at hdigit
    exact ⟨UInt32.le_iff_toNat_le.mp hdigit.1, UInt32.le_iff_toNat_le.mp hdigit.2⟩
  have hc : c = Char.ofNat c.toNat := (Char.ofNat_toNat c).symm
  generalize c.toNat = k at hrange hc
  subst hc
  obtain ⟨hlow, hhigh⟩ := hrange
  interval_cases k <;> decide

theorem stripChars_none {drop : Char → Bool} {text : String}
    (h : ∀ c ∈ text.toList, drop c = false) : stripChars drop text = text := by
  have hfront : ∀ chars : List Char, (∀ c ∈ chars, drop c = false) →
      chars.dropWhile drop = chars := by
    intro chars hchars
    cases chars with
    | nil => rfl
    | cons c rest => rw [List.dropWhile_cons_of_neg (by simp [hchars c])]
  have hback : ∀ c ∈ text.toList.reverse, drop c = false := by
    intro c hc
    exact h c (List.mem_reverse.mp hc)
  rw [stripChars, hfront _ h, hfront _ hback, List.reverse_reverse, String.ofList_toList]

theorem decimalDigits_toDigits (n : Nat) : decimalDigits (Nat.toDigits 10 n) = some n := by
  have hdigits : ∀ c ∈ Nat.toDigits 10 n, c.isDigit = true := fun c hc =>
    Nat.isDigit_of_mem_toDigits (by decide) (by decide) hc
  have hgroups : (Nat.toDigits 10 n).splitOn '_' = [Nat.toDigits 10 n] := by
    apply List.splitOn_eq_singleton
    intro hc
    exact (digit_plain (hdigits '_' hc)).2 (by simp)
  have hnonempty : (Nat.toDigits 10 n).isEmpty = false := by simp
  have hall : (Nat.toDigits 10 n).all Char.isDigit = true := List.all_eq_true.mpr hdigits
  simp [decimalDigits, hgroups, hnonempty, hall]

theorem pyInt_toString (n : Nat) : pyInt (toString n) = some (n : Int) := by
  have hlist : (toString n).toList = Nat.toDigits 10 n := Nat.toList_repr
  have hplain : ∀ c ∈ (toString n).toList, isPySpace c = false ∧ c ∉ ['+', '-', '_'] := by
    intro c hc
    rw [hlist] at hc
    exact digit_plain (Nat.isDigit_of_mem_toDigits (by decide) (by decide) hc)
  unfold pyInt
  rw [stripChars_none fun c hc => (hplain c hc).1]
  split
  · next rest hrest => exact absurd (by simp) (hplain '+' (by rw [hrest]; simp)).2
  · next rest hrest => exact absurd (by simp) (hplain '-' (by rw [hrest]; simp)).2
  · rw [hlist, decimalDigits_toDigits]
    rfl

end Text

section Queue

variable [Casing]

/-- `_like`, for a comparison that is made in lower case; the empty pattern when there
is nothing to look for. -/
def likePattern (value : String) : List Char :=
  let text := stripChars isPySpace value
  if text = "" then [] else '%' :: (lower text).toList ++ ['%']

/-- `column.ilike(pattern)`. -/
def ilike (column : String) (pattern : List Char) : Bool :=
  likeMatch pattern (lower column).toList

/-- `_fuzzy`. -/
def fuzzy (column value : String) : Bool :=
  ilike column (likePattern value)

structure ReviewQueueQuery where
  status : Option String := some "open"
  candidateType : Option String := none
  targetType : Option String := none
  limit : Nat := 100
  deriving DecidableEq, Repr

/-- A filter that is not asked for lets everything through. -/
def filterOn (wanted : Option String) (column : String) : Bool :=
  !truthy wanted || fuzzy column (wanted.getD "")

/-- The filters on what a decision does not change. -/
def ReviewQueueQuery.ofType (q : ReviewQueueQuery) (row : QueuedReview) : Bool :=
  filterOn q.candidateType row.candidateType && filterOn q.targetType row.targetType

def ReviewQueueQuery.selects (q : ReviewQueueQuery) (row : QueuedReview) : Bool :=
  filterOn q.status row.status && q.ofType row

/-- `ORDER BY created_at, id`. -/
def earlier (a b : QueuedReview) : Bool :=
  decide (a.createdAt < b.createdAt) || a.createdAt == b.createdAt && decide (a.id ≤ b.id)

/-- The reviews the query selects, in order. -/
def ReviewQueueQuery.rows (q : ReviewQueueQuery) (s : ReviewDesk) : List QueuedReview :=
  (s.candidates.insertionSort fun a b => earlier a b).filter q.selects

def parseCursor (cursor : Option String) : Except PyError Nat :=
  match cursor with
  | none | some "" => .ok 0
  | some text =>
    match pyInt text with
    | none => .error (.valueError "cursor must be a non-negative integer offset")
    | some offset =>
      if offset < 0 then .error (.valueError "cursor must be a non-negative integer offset")
      else .ok offset.toNat

def nextCursor (rows : List QueuedReview) (limit offset : Nat) : Option String :=
  if rows.length ≤ limit then none else some (toString (offset + limit))

structure ReportingReviewQueue where
  candidates : List QueuedReview
  nextCursor : Option String

def getReportingReviewQueue (q : ReviewQueueQuery) (cursor : Option String) (s : ReviewDesk) :
    Except PyError ReportingReviewQueue := do
  let offset ← parseCursor cursor
  let rows := ((q.rows s).drop offset).take (q.limit + 1)
  return { candidates := rows.take q.limit, nextCursor := nextCursor rows q.limit offset }

omit [Casing] in
theorem parseCursor_toString (n : Nat) : parseCursor (some (toString n)) = .ok n := by
  have hread := pyInt_toString n
  unfold parseCursor
  split
  · next hnone => cases hnone
  · next hempty =>
    rw [Option.some.inj hempty] at hread
    have hnone : pyInt "" = none := by decide +kernel
    rw [hnone] at hread
    cases hread
  · next text _ htext =>
    rw [← Option.some.inj htext, hread]
    simp

end Queue

section Walk

variable [Casing] (tools : PolicyTools) (q : ReviewQueueQuery)

/-- A reader of the queue, and the desk whose reviews others decide meanwhile. -/
structure QueueWalk where
  desk : ReviewWorld
  cursor : Option String := none
  reader : Reader String := {}

inductive QueueEvent where
  /-- The reader asks for the next page. -/
  | page
  | decision (call : DecisionCall)

/-- The reader follows the cursor until there is none. -/
def queueStep (w : QueueWalk) : QueueEvent → QueueWalk
  | .page =>
    if w.reader.more then
      match getReportingReviewQueue q w.cursor w.desk.store with
      | .error _ => w
      | .ok page =>
        { w with
          cursor := page.nextCursor
          reader :=
            { pages := w.reader.pages ++ [page.candidates.map (·.id)]
              more := page.nextCursor.isSome } }
    else w
  | .decision call => { w with desk := call.run tools w.desk }

/-- The condition on a decision: while the walk goes on, it names no review before the
reader's place. -/
def QueueEvent.behindNone (q : ReviewQueueQuery) (w : QueueWalk) : QueueEvent → Bool
  | .page => true
  | .decision call =>
    !w.reader.more ||
      ((q.rows w.desk.store).take (w.reader.place q.limit)).all fun row => row.id ∉ call.names

/-- Nothing was read yet, and no two reviews share an identifier. -/
structure QueueWalk.Opening (w : QueueWalk) : Prop where
  valid : w.desk.store.constraintsOk = true
  cursor : w.cursor = none
  reader : w.reader = {}

/-- The reader is in step with the queue, and the cursor is his place in it. -/
structure QueueWalk.InStep (w : QueueWalk) : Prop where
  rows : w.reader.InStep q.limit ((q.rows w.desk.store).map (·.id))
  cursor : w.reader.more = true → parseCursor w.cursor = .ok (w.reader.place q.limit)

variable {tools q}

/-- A decided review does not match the open queue. -/
theorem closed_unselected {row : QueuedReview} (hopen : q.status = some "open")
    (hclosed : row.status = "approved" ∨ row.status = "rejected") : q.selects row = false := by
  have hpattern : likePattern "open" = "%open%".toList := by
    have hplain : stripChars isPySpace "open" = "open" := by decide +kernel
    rw [likePattern, hplain, if_neg (by decide), Casing.lower_plain "open" (by decide)]
    decide +kernel
  have htruthy : truthy (some "open") = true := by decide +kernel
  have hfilter : filterOn q.status row.status = false := by
    rw [hopen, filterOn, htruthy, Option.getD_some, fuzzy, hpattern, ilike]
    rcases hclosed with hstatus | hstatus
    · rw [hstatus, Casing.lower_plain "approved" (by decide)]
      decide +kernel
    · rw [hstatus, Casing.lower_plain "rejected" (by decide)]
      decide +kernel
  rw [ReviewQueueQuery.selects, hfilter, Bool.false_and]

theorem open_selected {row : QueuedReview} (hopen : q.status = some "open")
    (hstatus : row.status = "open") : q.selects row = q.ofType row := by
  have hpattern : likePattern "open" = "%open%".toList := by
    have hplain : stripChars isPySpace "open" = "open" := by decide +kernel
    rw [likePattern, hplain, if_neg (by decide), Casing.lower_plain "open" (by decide)]
    decide +kernel
  have htruthy : truthy (some "open") = true := by decide +kernel
  have hfilter : filterOn q.status row.status = true := by
    rw [hopen, filterOn, htruthy, Option.getD_some, fuzzy, hpattern, ilike, hstatus,
      Casing.lower_plain "open" (by decide)]
    decide +kernel
  rw [ReviewQueueQuery.selects, hfilter, Bool.true_and]

/-- A page is what comes after the reader's place, and there is a cursor exactly when
there is more. -/
theorem getReportingReviewQueue_ok {cursor : Option String} {s : ReviewDesk} {offset : Nat}
    (h : parseCursor cursor = .ok offset) :
    getReportingReviewQueue q cursor s =
      .ok { candidates := ((q.rows s).drop offset).take q.limit
            nextCursor :=
              if q.limit < ((q.rows s).drop offset).length then
                some (toString (offset + q.limit))
              else none } := by
  have hcut : (((q.rows s).drop offset).take (q.limit + 1)).take q.limit =
      ((q.rows s).drop offset).take q.limit := by
    rw [List.take_take, Nat.min_eq_left (Nat.le_succ q.limit)]
  have hmore : (((q.rows s).drop offset).take (q.limit + 1)).length ≤ q.limit ↔
      ¬ q.limit < ((q.rows s).drop offset).length := by
    rw [List.length_take]
    omega
  unfold getReportingReviewQueue
  rw [h]
  simp only [bind, Except.bind, pure, Except.pure, nextCursor, hcut, hmore, ite_not]

theorem queueStep_page_inStep {w : QueueWalk} (h : w.InStep q) :
    (queueStep tools q w .page).InStep q := by
  cases hmore : w.reader.more with
  | false =>
    have hsame : queueStep tools q w .page = w := by simp [queueStep, hmore]
    rw [hsame]
    exact h
  | true =>
    have hpage := getReportingReviewQueue_ok (q := q) (s := w.desk.store) (h.cursor hmore)
    have hstep : (queueStep tools q w .page).reader =
        w.reader.read q.limit ((q.rows w.desk.store).map (·.id)) := by
      rw [queueStep, if_pos hmore, hpage, Reader.read, if_pos hmore]
      simp only [List.map_take, List.map_drop, List.length_drop, List.length_map]
      congr 1
      split <;> simp_all
    have hdesk : (queueStep tools q w .page).desk = w.desk := by
      rw [queueStep, if_pos hmore, hpage]
    refine ⟨?_, ?_⟩
    · rw [hstep, hdesk]
      exact h.rows.read_keeps
    · intro hnext
      have hplace : (queueStep tools q w .page).reader.place q.limit =
          w.reader.place q.limit + q.limit := by
        rw [hstep, Reader.read, if_pos hmore]
        simp [Reader.place, Nat.add_mul]
      rw [hplace]
      rw [queueStep, if_pos hmore, hpage] at hnext ⊢
      dsimp only at hnext ⊢
      split at hnext
      · next hlong =>
        rw [if_pos hlong]
        exact parseCursor_toString _
      · cases hnext

/-- Decided reviews leave the open queue, the others keep their order. -/
theorem rows_decided {s s' : ReviewDesk} {names : List String} (hopen : q.status = some "open")
    (h : Decided names s.candidates s'.candidates) :
    ((q.rows s').map (·.id)).Sublist ((q.rows s).map (·.id)) ∧
      ∀ row ∈ q.rows s, row.id ∉ names → row ∈ q.rows s' := by
  obtain ⟨decided, hcandidates, hcloses⟩ := h
  have hkeys : ∀ row, (decided row).id = row.id ∧ (decided row).createdAt = row.createdAt := by
    intro row
    rcases hcloses row with hsame | ⟨-, -, hid, hcreated⟩
    · rw [hsame]
      exact ⟨rfl, rfl⟩
    · exact ⟨hid, hcreated⟩
  have hrows : q.rows s' =
      ((s.candidates.insertionSort fun a b => earlier a b).filter
        (q.selects ∘ decided)).map decided := by
    rw [ReviewQueueQuery.rows, hcandidates, 
      ← List.map_insertionSort (fun a b => earlier a b = true), List.filter_map]
    intro a _ b _
    simp [earlier, hkeys]
  have hselects : ∀ row, q.selects (decided row) = true → q.selects row = true := by
    intro row hselected
    rcases hcloses row with hsame | ⟨-, hstatus, -⟩
    · rwa [hsame] at hselected
    · rw [closed_unselected hopen hstatus] at hselected
      cases hselected
  constructor
  · have hids : (q.rows s').map (·.id) =
        ((s.candidates.insertionSort fun a b => earlier a b).filter
          (q.selects ∘ decided)).map (·.id) := by
      rw [hrows, List.map_map]
      exact List.map_congr_left fun row _ => (hkeys row).1
    rw [hids]
    apply List.Sublist.map
    exact List.monotone_filter_right _ fun row => hselects row
  · intro row hrow hnot
    obtain ⟨hmem, hselected⟩ := List.mem_filter.mp hrow
    rw [hrows]
    have hsame : decided row = row := by
      rcases hcloses row with hsame | ⟨hnamed, -⟩
      · exact hsame
      · exact absurd hnamed hnot
    refine List.mem_map.mpr ⟨row, List.mem_filter.mpr ⟨hmem, ?_⟩, hsame⟩
    rw [Function.comp_apply, hsame]
    exact hselected

theorem queueStep_decision_inStep {w : QueueWalk} {call : DecisionCall}
    (hopen : q.status = some "open")
    (hcondition : QueueEvent.behindNone q w (.decision call) = true) (h : w.InStep q) :
    (queueStep tools q w (.decision call)).InStep q := by
  obtain ⟨hlost, hstay⟩ := rows_decided hopen (call.run_decided tools w.desk)
  refine ⟨h.rows.lose hlost ?_, h.cursor⟩
  intro hmore id hid
  rw [← List.map_take] at hid
  obtain ⟨row, hrow, rfl⟩ := List.mem_map.mp hid
  have hbehind : ∀ row ∈ (q.rows w.desk.store).take (w.reader.place q.limit),
      row.id ∉ call.names := by
    simpa [QueueEvent.behindNone, hmore] using hcondition
  exact List.mem_map.mpr
    ⟨row, hstay row (List.mem_of_mem_take hrow) (hbehind row hrow), rfl⟩

theorem queueStep_inStep {w : QueueWalk} {event : QueueEvent} (hopen : q.status = some "open")
    (hcondition : event.behindNone q w = true) (h : w.InStep q) :
    (queueStep tools q w event).InStep q := by
  cases event with
  | page => exact queueStep_page_inStep h
  | decision call => exact queueStep_decision_inStep hopen hcondition h

theorem QueueWalk.Opening.inStep {w : QueueWalk} (h : w.Opening) : w.InStep q where
  rows := by
    rw [h.reader]
    apply Reader.InStep.start
    have hvalid := h.valid
    simp only [ReviewDesk.constraintsOk, Bool.and_eq_true] at hvalid
    have hids : (w.desk.store.candidates.map (·.id)).Nodup := by
      have hunique := Table.uniqueOn_iff.mp hvalid.1.1.1.1
      rwa [List.filterMap_eq_map'] at hunique
    have hsorted :
        ((w.desk.store.candidates.insertionSort fun a b => earlier a b).map (·.id)).Nodup :=
      ((List.perm_insertionSort _ _).map _).nodup_iff.mpr hids
    exact hsorted.sublist (List.filter_sublist.map _)
  cursor := by
    intro _
    rw [h.cursor, h.reader]
    simp [parseCursor, Reader.place]

/-- When nobody decides a review behind the reader, every review that is open when the
walk is over, and so was open all along, was on exactly one page. -/
theorem open_reviews_on_one_page (tools : PolicyTools) (q : ReviewQueueQuery)
    (w : QueueWalk) (events : List QueueEvent) (hopening : w.Opening)
    (hopen : q.status = some "open")
    (hrun : Lib.Admissible (queueStep tools q) (fun w event => event.behindNone q w = true) w
      events)
    (hover : (Lib.run (queueStep tools q) w events).reader.more = false) :
    ∀ row ∈ (Lib.run (queueStep tools q) w events).desk.store.candidates,
      row.status = "open" → q.ofType row = true →
        ((Lib.run (queueStep tools q) w events).reader.pages.filter (row.id ∈ ·)).length = 1 := by
  have hinStep := Lib.run_keeps (I := fun w : QueueWalk => w.InStep q)
    (fun _ _ hcondition => queueStep_inStep hopen hcondition) hrun hopening.inStep
  intro row hrow hstatus htype
  apply hinStep.rows.on_one_page hover
  apply List.mem_map_of_mem
  rw [ReviewQueueQuery.rows, List.mem_filter, List.mem_insertionSort]
  exact ⟨hrow, by rw [open_selected hopen hstatus, htype]⟩

end Walk

section Passed

/-- An open review of a contact. -/
def openAt (id : String) (createdAt : Time) : QueuedReview where
  candidateType := "contact"
  targetType := "contact"
  targetId := createdAt
  reasonCode := "manual"
  reason := "check"
  idempotencyKey := ("contact", createdAt, "manual")
  id
  createdAt

def threeOpen : QueueWalk where
  desk := { store := { candidates := [openAt "r1" 1, openAt "r2" 2, openAt "r3" 3] }
            external := () }

def queueTools : PolicyTools where
  snapshotHash _ := "hash"
  shown _ := ""

def rejecting (id : String) : QueueEvent :=
  .decision (.decide .rejected 10 id { version := 1, reasonCode := "no" } "bob" ("reject:" ++ id))

/-- The second of three reviews is open all the time and on no page: the first one was
rejected after its page. -/
theorem passed_over :
    (Lib.run (queueStep queueTools { limit := 1 }) threeOpen
        [.page, rejecting "r1", .page]).reader.more = false ∧
      (Lib.run (queueStep queueTools { limit := 1 }) threeOpen
        [.page, rejecting "r1", .page]).reader.pages = [["r1"], ["r3"]] ∧
      (Lib.run (queueStep queueTools { limit := 1 }) threeOpen
        [.page, rejecting "r1", .page]).desk.store.candidates.map
          (fun row => (row.id, row.status)) =
        [("r1", "rejected"), ("r2", "open"), ("r3", "open")] := by
  refine ⟨?_, ?_, ?_⟩ <;> decide +kernel

/-- The last one may be rejected while the first page is read. -/
theorem rejected_ahead :
    threeOpen.Opening ∧ ∀ row ∈ (Lib.run (queueStep queueTools { limit := 1 }) threeOpen
        [.page, rejecting "r3", .page]).desk.store.candidates,
      row.status = "open" → ReviewQueueQuery.ofType { limit := 1 } row = true →
        ((Lib.run (queueStep queueTools { limit := 1 }) threeOpen
          [.page, rejecting "r3", .page]).reader.pages.filter (row.id ∈ ·)).length = 1 :=
  have hopening : threeOpen.Opening :=
    { valid := by decide +kernel, cursor := rfl, reader := rfl }
  ⟨hopening, open_reviews_on_one_page queueTools { limit := 1 } threeOpen
    [.page, rejecting "r3", .page] hopening rfl (by decide +kernel) (by decide +kernel)⟩

end Passed

end GhostRecon
