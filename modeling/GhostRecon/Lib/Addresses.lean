import GhostRecon.Lib.Splitting

/-!
The textual forms of internet addresses. A short address is four decimal octets between dots. A
long one is eight hexadecimal groups between colons, of which one run of zeros may be left out
and the last two may stand as a short address; a scope may follow behind a percent sign. Every
form has characters of its own, and a scope is the only place for any other.
-/

namespace GhostRecon.Lib

section Texts

def isDecimal (c : Char) : Bool :=
  '0' ≤ c && c ≤ '9'

def isHexadecimal (c : Char) : Bool :=
  isDecimal c || ('a' ≤ c && c ≤ 'f') || ('A' ≤ c && c ≤ 'F')

def figureValue (c : Char) : Nat :=
  if c ≤ '9' then c.toNat - '0'.toNat
  else if c ≤ 'F' then c.toNat - 'A'.toNat + 10
  else c.toNat - 'a'.toNat + 10

/-- The number that figures write in a base. -/
def numeral (base : Nat) (text : List Char) : Nat :=
  text.foldl (fun n c => n * base + figureValue c) 0

/-- A decimal octet, without zeros in front. -/
def octet (text : List Char) : Option Nat :=
  if text ≠ [] ∧ text.all isDecimal ∧ text.length ≤ 3 ∧ (text.head? = some '0' → text = ['0']) ∧
      numeral 10 text ≤ 255 then
    some (numeral 10 text)
  else none

/-- A short address: four octets. -/
def ipv4Value (text : List Char) : Option Nat :=
  match (text.splitOn '.').mapM octet with
  | some [a, b, c, d] => some (((a * 256 + b) * 256 + c) * 256 + d)
  | _ => none

/-- A group of a long address. -/
def hextet (text : List Char) : Option Nat :=
  if text ≠ [] ∧ text.all isHexadecimal ∧ text.length ≤ 4 then some (numeral 16 text) else none

/-- The parts of a long address, with a short address at their end as two groups. -/
def embedShort (parts : List (List Char)) : Option (List (List Char)) :=
  match parts.getLast? with
  | none => some parts
  | some final =>
    if '.' ∈ final then
      (ipv4Value final).map fun value =>
        parts.dropLast ++ [Nat.toDigits 16 (value / 65536), Nat.toDigits 16 (value % 65536)]
    else some parts

/-- The places of the empty parts that are neither the first nor the last. -/
def skips (parts : List (List Char)) : List Nat :=
  (List.range parts.length).filter fun i =>
    0 < i && i + 1 < parts.length && parts[i]? == some []

/-- The groups on one side of a run that is left out; an empty part at the end of the address
must be the only one. -/
def side (parts : List (List Char)) (ending : Option (List Char)) : Option (List (List Char)) :=
  if ending = some [] then
    if parts.length = 1 then some [] else none
  else some parts

def joinGroups (groups : List Nat) : Nat :=
  groups.foldl (fun value group => value * 65536 + group) 0

/-- The groups of a long address, from its parts. -/
def ipv6Groups (parts : List (List Char)) : Option (List Nat) :=
  match skips parts with
  | [] => if parts.length = 8 then parts.mapM hextet else none
  | [skip] => do
    let high ← side (parts.take skip) (parts.take skip).head?
    let low ← side (parts.drop (skip + 1)) (parts.drop (skip + 1)).getLast?
    if 8 ≤ high.length + low.length then none
    else
      let first ← high.mapM hextet
      let second ← low.mapM hextet
      return first ++ List.replicate (8 - (high.length + low.length)) 0 ++ second
  | _ => none

/-- A long address without its scope. -/
def ipv6Value (text : List Char) : Option Nat :=
  if (text.splitOn ':').length < 3 then none
  else
    match embedShort (text.splitOn ':') with
    | none => none
    | some parts => if 9 < parts.length then none else (ipv6Groups parts).map joinGroups

inductive Address where
  | v4 (value : Nat)
  | v6 (value : Nat) (scope : Option (List Char))
  deriving DecidableEq

/-- A long address, with its scope behind the first percent sign. -/
def ipv6Address (text : List Char) : Option Address :=
  if '/' ∈ text then none
  else
    match text.dropWhile (· ≠ '%') with
    | [] => (ipv6Value text).map (.v6 · none)
    | _ :: scope =>
      if scope = [] ∨ '%' ∈ scope then none
      else (ipv6Value (text.takeWhile (· ≠ '%'))).map (.v6 · (some scope))

/-- The address of a text in any of its forms. -/
def ipAddress (text : List Char) : Option Address :=
  match ipv4Value text with
  | some value => some (.v4 value)
  | none => ipv6Address text

end Texts

section Networks

/-- The addresses that share the first bits of one. -/
structure Network where
  address : Nat
  length : Nat

def Network.contains (network : Network) (width value : Nat) : Bool :=
  value >>> (width - network.length) == network.address >>> (width - network.length)

def privateNetworks4 : List Network :=
  [⟨0x00000000, 8⟩, ⟨0x0a000000, 8⟩, ⟨0x7f000000, 8⟩, ⟨0xa9fe0000, 16⟩, ⟨0xac100000, 12⟩,
   ⟨0xc0000000, 24⟩, ⟨0xc00000aa, 31⟩, ⟨0xc0000200, 24⟩, ⟨0xc0a80000, 16⟩, ⟨0xc6120000, 15⟩,
   ⟨0xc6336400, 24⟩, ⟨0xcb007100, 24⟩, ⟨0xf0000000, 4⟩, ⟨0xffffffff, 32⟩]

def globalNetworks4 : List Network :=
  [⟨0xc0000009, 32⟩, ⟨0xc000000a, 32⟩]

def privateNetworks6 : List Network :=
  [⟨1, 128⟩, ⟨0, 128⟩, ⟨0xffff <<< 32, 96⟩, ⟨0x0064ff9b0001 <<< 80, 48⟩, ⟨0x0100 <<< 112, 64⟩,
   ⟨0x2001 <<< 112, 23⟩, ⟨0x20010db8 <<< 96, 32⟩, ⟨0x2002 <<< 112, 16⟩, ⟨0x3fff <<< 112, 20⟩,
   ⟨0xfc00 <<< 112, 7⟩, ⟨0xfe80 <<< 112, 10⟩]

def globalNetworks6 : List Network :=
  [⟨(0x20010001 <<< 96) + 1, 128⟩, ⟨(0x20010001 <<< 96) + 2, 128⟩, ⟨0x20010003 <<< 96, 32⟩,
   ⟨0x200100040112 <<< 80, 48⟩, ⟨0x20010020 <<< 96, 28⟩, ⟨0x20010030 <<< 96, 28⟩]

/-- The short address that a long one stands for. -/
def mapped (value : Nat) : Option Nat :=
  if value >>> 32 = 0xffff then some (value % 2 ^ 32) else none

def isPrivate4 (value : Nat) : Bool :=
  privateNetworks4.any (·.contains 32 value) && !globalNetworks4.any (·.contains 32 value)

def Address.isPrivate : Address → Bool
  | .v4 value => isPrivate4 value
  | .v6 value _ =>
    match mapped value with
    | some short => isPrivate4 short
    | none =>
      privateNetworks6.any (·.contains 128 value) && !globalNetworks6.any (·.contains 128 value)

def Address.isLoopback : Address → Bool
  | .v4 value => Network.contains ⟨0x7f000000, 8⟩ 32 value
  | .v6 value _ => value == 1

def Address.isLinkLocal : Address → Bool
  | .v4 value => Network.contains ⟨0xa9fe0000, 16⟩ 32 value
  | .v6 value _ => Network.contains ⟨0xfe80 <<< 112, 10⟩ 128 value

end Networks

section Characters

variable {text piece : List Char}

/-- Where every element can be read, what is read of each is among the values. -/
theorem mapM_option_mem {α β : Type} {read : α → Option β} {items : List α} {values : List β}
    (h : items.mapM read = some values) :
    ∀ item ∈ items, ∃ value ∈ values, read item = some value := by
  induction items generalizing values with
  | nil =>
    intro item hitem
    cases hitem
  | cons first rest ih =>
    rw [List.mapM_cons] at h
    cases hfirst : read first with
    | none =>
      rw [hfirst] at h
      cases h
    | some value =>
      cases hrest : rest.mapM read with
      | none =>
        rw [hfirst, hrest] at h
        cases h
      | some others =>
        rw [hfirst, hrest] at h
        cases h
        intro item hitem
        rcases List.mem_cons.mp hitem with rfl | hitem
        · exact ⟨value, List.mem_cons_self, hfirst⟩
        · obtain ⟨other, hother, hread⟩ := ih hrest item hitem
          exact ⟨other, List.mem_cons_of_mem _ hother, hread⟩

theorem mem_splitOn (cut : Char) {c : Char} (hc : c ∈ text) :
    c = cut ∨ ∃ piece ∈ text.splitOn cut, c ∈ piece := by
  obtain hcut | hpiece := mem_splitOnP (p := (· == cut)) hc
  · exact Or.inl (beq_iff_eq.mp hcut)
  · exact Or.inr hpiece

theorem octet_decimal {value : Nat} (h : octet piece = some value) :
    ∀ c ∈ piece, isDecimal c = true := by
  unfold octet at h
  split at h
  · next hpiece => exact List.all_eq_true.mp hpiece.2.1
  · cases h

/-- A short address has decimal figures and dots alone. -/
theorem ipv4Value_characters {value : Nat} (h : ipv4Value text = some value) :
    ∀ c ∈ text, c = '.' ∨ isDecimal c = true := by
  unfold ipv4Value at h
  split at h
  · next hoctets =>
    intro c hc
    obtain hcut | ⟨piece, hpiece, hmem⟩ := mem_splitOn '.' hc
    · exact Or.inl hcut
    · obtain ⟨value, -, hvalue⟩ := mapM_option_mem hoctets piece hpiece
      exact Or.inr (octet_decimal hvalue c hmem)
  · cases h

/-- A short address has a dot. -/
theorem ipv4Value_dot {value : Nat} (h : ipv4Value text = some value) : '.' ∈ text := by
  by_contra hdot
  have hone : text.splitOn '.' = [text] := List.splitOn_eq_singleton hdot
  unfold ipv4Value at h
  rw [hone, List.mapM_cons] at h
  cases hoctet : octet text with
  | none =>
    rw [hoctet] at h
    cases h
  | some value =>
    rw [hoctet] at h
    cases h

theorem hextet_hexadecimal {value : Nat} (h : hextet piece = some value) :
    ∀ c ∈ piece, isHexadecimal c = true := by
  unfold hextet at h
  split at h
  · next hpiece => exact List.all_eq_true.mp hpiece.2.1
  · cases h

/-- A side has its groups, and an empty part only where it is the only one. -/
theorem side_mem {parts groups : List (List Char)} {ending : Option (List Char)}
    (hending : ending = parts.head? ∨ ending = parts.getLast?)
    (h : side parts ending = some groups) : ∀ part ∈ parts, part = [] ∨ part ∈ groups := by
  unfold side at h
  split at h
  · next hempty =>
    split at h
    · next hlength =>
      obtain ⟨part, rfl⟩ := List.length_eq_one_iff.mp hlength
      intro part' hpart
      rw [List.mem_singleton.mp hpart]
      left
      rcases hending with rfl | rfl
      · exact Option.some.inj hempty
      · exact Option.some.inj hempty
    · cases h
  · cases h
    intro part hpart
    exact Or.inr hpart

/-- The place that is skipped is empty. -/
theorem skips_empty {parts : List (List Char)} {skip : Nat} (h : skip ∈ skips parts) :
    parts[skip]? = some [] := by
  unfold skips at h
  have hempty := (List.mem_filter.mp h).2
  simp only [Bool.and_eq_true, beq_iff_eq] at hempty
  exact hempty.2

/-- The parts of a long address are hexadecimal. -/
theorem ipv6Groups_hexadecimal {parts : List (List Char)} {groups : List Nat}
    (h : ipv6Groups parts = some groups) :
    ∀ part ∈ parts, ∀ c ∈ part, isHexadecimal c = true := by
  unfold ipv6Groups at h
  split at h
  · split at h
    · intro part hpart
      obtain ⟨value, -, hvalue⟩ := mapM_option_mem h part hpart
      exact hextet_hexadecimal hvalue
    · cases h
  · next skip hskips =>
    have hskip : parts[skip]? = some [] := by
      apply skips_empty
      rw [hskips]
      exact List.mem_singleton_self skip
    obtain ⟨high, hhigh, h⟩ := Option.bind_eq_some_iff.mp h
    obtain ⟨low, hlow, h⟩ := Option.bind_eq_some_iff.mp h
    split at h
    · cases h
    · obtain ⟨first, hfirst, h⟩ := Option.bind_eq_some_iff.mp h
      obtain ⟨second, hsecond, h⟩ := Option.bind_eq_some_iff.mp h
      have hside : ∀ {parts groups : List (List Char)} {values : List Nat},
          (∀ part ∈ parts, part = [] ∨ part ∈ groups) → groups.mapM hextet = some values →
          ∀ part ∈ parts, ∀ c ∈ part, isHexadecimal c = true := by
        intro parts groups values hparts hvalues part hpart
        rcases hparts part hpart with rfl | hmem
        · intro c hc
          cases hc
        · obtain ⟨value, -, hvalue⟩ := mapM_option_mem hvalues part hmem
          exact hextet_hexadecimal hvalue
      intro part hpart
      obtain ⟨hlt, hempty⟩ := List.getElem?_eq_some_iff.mp hskip
      have hsplit : parts = parts.take skip ++ parts[skip] :: parts.drop (skip + 1) := by
        rw [List.getElem_cons_drop, List.take_append_drop]
      rw [hsplit] at hpart
      rcases List.mem_append.mp hpart with hpart | hpart
      · exact hside (side_mem (Or.inl rfl) hhigh) hfirst part hpart
      · rcases List.mem_cons.mp hpart with rfl | hpart
        · rw [hempty]
          intro c hc
          cases hc
        · exact hside (side_mem (Or.inr rfl) hlow) hsecond part hpart
  · cases h

/-- What is not of the short address at the end is a part still. -/
theorem embedShort_characters {parts groups : List (List Char)}
    (h : embedShort parts = some groups)
    (hgroups : ∀ part ∈ groups, ∀ c ∈ part, isHexadecimal c = true) :
    ∀ part ∈ parts, ∀ c ∈ part, c = '.' ∨ isHexadecimal c = true := by
  unfold embedShort at h
  split at h
  · cases h
    intro part hpart c hc
    exact Or.inr (hgroups part hpart c hc)
  · next final hfinal =>
    split at h
    · obtain ⟨value, hvalue, rfl⟩ := Option.map_eq_some_iff.mp h
      obtain ⟨front, rfl⟩ := List.getLast?_eq_some_iff.mp hfinal
      rw [List.dropLast_concat] at hgroups
      intro part hpart c hc
      rcases List.mem_append.mp hpart with hpart | hpart
      · exact Or.inr (hgroups part (List.mem_append_left _ hpart) c hc)
      · rw [List.mem_singleton.mp hpart] at hc
        rcases ipv4Value_characters hvalue c hc with hdot | hdecimal
        · exact Or.inl hdot
        · right
          unfold isHexadecimal
          rw [hdecimal]
          rfl
    · cases h
      intro part hpart c hc
      exact Or.inr (hgroups part hpart c hc)

/-- A long address without a scope has hexadecimal figures, colons and dots alone. -/
theorem ipv6Value_characters {value : Nat} (h : ipv6Value text = some value) :
    ∀ c ∈ text, c = ':' ∨ c = '.' ∨ isHexadecimal c = true := by
  unfold ipv6Value at h
  split at h
  · cases h
  · split at h
    · cases h
    · next groups hgroups =>
      split at h
      · cases h
      · obtain ⟨values, hvalues, -⟩ := Option.map_eq_some_iff.mp h
        intro c hc
        obtain hcut | ⟨piece, hpiece, hmem⟩ := mem_splitOn ':' hc
        · exact Or.inl hcut
        · exact Or.inr (embedShort_characters hgroups (ipv6Groups_hexadecimal hvalues) piece
            hpiece c hmem)

/-- The scope of a long address is what stands behind its first percent sign. -/
theorem ipv6Address_cases {address : Address} (h : ipv6Address text = some address) :
    (∃ value, address = .v6 value none ∧
      ∀ c ∈ text, c = ':' ∨ c = '.' ∨ isHexadecimal c = true) ∨
    ∃ value front scope, address = .v6 value (some scope) ∧ text = front ++ '%' :: scope := by
  unfold ipv6Address at h
  split at h
  · cases h
  · split at h
    · obtain ⟨value, hvalue, rfl⟩ := Option.map_eq_some_iff.mp h
      exact Or.inl ⟨value, rfl, ipv6Value_characters hvalue⟩
    · next cut scope hscope =>
      split at h
      · cases h
      · obtain ⟨value, -, rfl⟩ := Option.map_eq_some_iff.mp h
        have hcut : cut = '%' := by
          have hhead := List.head?_dropWhile_not (· ≠ '%') text
          rw [hscope] at hhead
          simpa using hhead
        right
        refine ⟨value, text.takeWhile (· ≠ '%'), scope, rfl, ?_⟩
        rw [hcut] at hscope
        rw [← hscope, List.takeWhile_append_dropWhile]

theorem ipAddress_cases {address : Address} (h : ipAddress text = some address) :
    (∃ value, address = .v4 value ∧ ipv4Value text = some value) ∨
      ∃ value scope, address = .v6 value scope ∧ ipv6Address text = some (.v6 value scope) := by
  unfold ipAddress at h
  split at h
  · next value hvalue =>
    cases h
    exact Or.inl ⟨value, rfl, hvalue⟩
  · right
    obtain ⟨value, rfl, -⟩ | ⟨value, _, scope, rfl, -⟩ := ipv6Address_cases h
    · exact ⟨value, none, rfl, h⟩
    · exact ⟨value, some scope, rfl, h⟩

end Characters

end GhostRecon.Lib
