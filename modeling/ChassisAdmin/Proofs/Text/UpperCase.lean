import ChassisAdmin.Text.UpperCase
import Mathlib

/-!
# Upper case, and agreement up to the case of ASCII letters

What the table of upper cases leads to is in upper case itself
(`upperCase_upperCase`).  For the runs of single mappings this is a matter of
intervals.  The upper case of a run lies below each run, above it, or between its
characters (`CaseRun.clear`), so the table is checked one pair of runs at a time
and not one character at a time.

Texts that agree up to the case of ASCII letters have one upper case
(`upperCase_congr`).  The converse fails.  A text agrees so with its upper case
exactly if it is in upper case outside ASCII (`equalIgnoringCase_upperCase_iff`).
-/

namespace ChassisAdmin.Text

variable {c d : Char} {s a b : String} {r r' : CaseRun} {n : Nat}

/-! ## The table -/

namespace CaseRun

theorem contains_iff :
    r.contains n = true ↔ r.first ≤ n ∧ n ≤ r.last ∧ (n - r.first) % r.stride = 0 := by
  simp [contains, and_assoc]

/-- The upper case of the first character of a run. -/
def upperFirst (r : CaseRun) : Nat := (r.first + r.shift).toNat

/-- The upper case of the last character of a run. -/
def upperLast (r : CaseRun) : Nat := (r.last + r.shift).toNat

/-- Whether the upper case of a run is certain to lie outside another run. -/
def clear (r r' : CaseRun) : Bool :=
  Nat.blt r.upperLast r'.first || Nat.blt r'.last r.upperFirst ||
    (r.first == r.last || r.stride == 2) && r'.stride == 2 && (r.upperFirst + r'.first) % 2 == 1

/-- A character of a run goes to a character outside another run. -/
theorem not_contains_of_clear (h : r.clear r' = true) (hn : r.contains n = true)
    (hvalid : 0 ≤ r.first + r.shift) : r'.contains (n + r.shift).toNat = false := by
  obtain ⟨hfirst, hlast, hstride⟩ := contains_iff.1 hn
  rw [Bool.eq_false_iff, Ne, contains_iff]
  rintro ⟨hfirst', hlast', hstride'⟩
  simp only [clear, upperFirst, upperLast, Nat.blt_eq, Bool.or_eq_true, Bool.and_eq_true,
    beq_iff_eq] at h
  rcases h with (h | h) | ⟨⟨hsingle | hevery, hevery'⟩, hodd⟩
  · omega
  · omega
  · rw [hevery'] at hstride'
    omega
  · rw [hevery'] at hstride'
    rw [hevery] at hstride
    omega

/-- The upper case of a run is made of characters, none of which has another upper case. -/
structure Closed (r : CaseRun) : Prop where
  valid : 0 ≤ r.first + r.shift ∧ r.last + r.shift < 0xD800 ∨
    0xDFFF < r.first + r.shift ∧ r.last + r.shift < 0x110000
  runs : (caseRuns.all r.clear) = true
  expansions : (caseExpansions.all fun e => Nat.blt r.upperLast e.1 || Nat.blt e.1 r.upperFirst) = true

end CaseRun

theorem closed_caseRuns : ∀ r ∈ caseRuns, r.Closed := by
  have hvalid : ∀ r ∈ caseRuns, 0 ≤ r.first + r.shift ∧ r.last + r.shift < 0xD800 ∨
      0xDFFF < r.first + r.shift ∧ r.last + r.shift < 0x110000 := by decide +kernel
  have hruns : (caseRuns.all fun r => caseRuns.all r.clear) = true := by decide +kernel
  have hexpansions : (caseRuns.all fun r => caseExpansions.all fun e =>
      Nat.blt r.upperLast e.1 || Nat.blt e.1 r.upperFirst) = true := by decide +kernel
  exact fun r hr =>
    ⟨hvalid r hr, List.all_eq_true.1 hruns r hr, List.all_eq_true.1 hexpansions r hr⟩

theorem upperChar_caseExpansions :
    ∀ e ∈ caseExpansions, e.2 ≠ [] ∧ ∀ n ∈ e.2, upperChar (Char.ofNat n) = [Char.ofNat n] := by
  decide +kernel

/-! ## Upper case of characters -/

theorem toNat_ofNat_of_closed (h : r.Closed) (hn : r.contains n = true) :
    (Char.ofNat (n + r.shift).toNat).toNat = (n + r.shift).toNat := by
  obtain ⟨hfirst, hlast, -⟩ := CaseRun.contains_iff.1 hn
  rw [Char.toNat_ofNat, if_pos]
  rcases h.valid with hvalid | hvalid
  · exact .inl (by omega)
  · exact .inr ⟨by omega, by omega⟩

theorem toNat_toUpper_lt (h : c.toNat < 128) : c.toUpper.toNat < 128 := by
  by_cases hlower : c.isLower = true
  · rw [Char.toUpper_eq_of_isLower hlower, Char.toNat_ofNat]
    split <;> omega
  · rwa [Char.toUpper_eq_of_not_isLower hlower]

theorem toNat_le_of_isUpper (h : c.isUpper = true) : c.toNat ≤ 90 := by
  simp only [Char.isUpper, UInt32.le_iff_toNat_le, decide_eq_true_eq] at h
  exact h.2

theorem toNat_toLower_lt (h : c.toNat < 128) : c.toLower.toNat < 128 := by
  by_cases hupper : c.isUpper = true
  · have hle := toNat_le_of_isUpper hupper
    rw [Char.toLower_eq_of_isUpper hupper, Char.toNat_ofNat]
    split <;> omega
  · rwa [Char.toLower_eq_of_not_isUpper hupper]

theorem upperChar_of_lt (h : c.toNat < 128) : upperChar c = [c.toUpper] := if_pos h

theorem isLower_eq_contains (c : Char) :
    c.isLower = (⟨0x61, 0x7A, 1, -32⟩ : CaseRun).contains c.toNat := by
  rw [Bool.eq_iff_iff, CaseRun.contains_iff]
  simp [Char.isLower, UInt32.le_iff_toNat_le, Nat.mod_one]

/-- What is in no run and has no expansion is in upper case. -/
theorem upperChar_eq_self (hruns : ∀ r ∈ caseRuns, r.contains c.toNat = false)
    (hexpansions : ∀ e ∈ caseExpansions, e.1 ≠ c.toNat) : upperChar c = [c] := by
  unfold upperChar
  split
  · have hlower : ¬c.isLower = true := by
      rw [isLower_eq_contains, hruns _ List.mem_cons_self]
      decide
    rw [Char.toUpper_eq_of_not_isLower hlower]
  · have hexpansion : caseExpansions.find? (·.1 == c.toNat) = none :=
      List.find?_eq_none.2 fun e he => by simpa using hexpansions e he
    have hrun : caseRuns.find? (·.contains c.toNat) = none :=
      List.find?_eq_none.2 fun r hr => by simp [hruns r hr]
    rw [hexpansion, hrun]

theorem upperChar_caseRuns (hr : r ∈ caseRuns) (hn : r.contains n = true) :
    upperChar (Char.ofNat (n + r.shift).toNat) = [Char.ofNat (n + r.shift).toNat] := by
  have hclosed := closed_caseRuns r hr
  have hvalid : 0 ≤ r.first + r.shift := hclosed.valid.elim (·.1) fun h => by omega
  have htoNat := toNat_ofNat_of_closed hclosed hn
  obtain ⟨hfirst, hlast, -⟩ := CaseRun.contains_iff.1 hn
  refine upperChar_eq_self (fun r' hr' => ?_) (fun e he heq => ?_)
  · rw [htoNat]
    exact CaseRun.not_contains_of_clear (List.all_eq_true.1 hclosed.runs r' hr') hn hvalid
  · rw [htoNat] at heq
    have houtside := List.all_eq_true.1 hclosed.expansions e he
    simp only [CaseRun.upperFirst, CaseRun.upperLast, Nat.blt_eq, Bool.or_eq_true] at houtside
    omega

/-- The upper case of a character is in upper case. -/
theorem upperChar_of_mem_upperChar (h : d ∈ upperChar c) : upperChar d = [d] := by
  have hupper := h
  unfold upperChar at h
  split at h
  · next hascii =>
    obtain rfl := List.mem_singleton.1 h
    rw [upperChar_of_lt (toNat_toUpper_lt hascii), Char.toUpper_toUpper_eq_toUpper]
  · next hascii =>
    split at h
    · next e he =>
      obtain ⟨n, hn, rfl⟩ := List.mem_map.1 h
      exact (upperChar_caseExpansions e (List.mem_of_find?_eq_some he)).2 n hn
    · next hexpansion =>
      split at h
      · next r hr =>
        obtain rfl := List.mem_singleton.1 h
        have hcontains : r.contains c.toNat = true :=
          List.find?_some (p := fun r : CaseRun => r.contains c.toNat) hr
        exact upperChar_caseRuns (List.mem_of_find?_eq_some hr) hcontains
      · next hrun =>
        obtain rfl := List.mem_singleton.1 h
        simp only [upperChar, if_neg hascii, hexpansion, hrun]

theorem upperChar_ne_nil (c : Char) : upperChar c ≠ [] := by
  unfold upperChar
  split
  · exact List.cons_ne_nil _ _
  · split
    · next e he =>
      rw [Ne, List.map_eq_nil_iff]
      exact (upperChar_caseExpansions e (List.mem_of_find?_eq_some he)).1
    · split <;> exact List.cons_ne_nil _ _

theorem upperChar_toLower (c : Char) : upperChar c.toLower = upperChar c := by
  by_cases hupper : c.isUpper = true
  · have hascii : c.toNat < 128 := Nat.lt_of_le_of_lt (toNat_le_of_isUpper hupper) (by decide)
    rw [upperChar_of_lt hascii, upperChar_of_lt (toNat_toLower_lt hascii),
      Char.toUpper_toLower_eq_toUpper]
  · rw [Char.toLower_eq_of_not_isUpper hupper]

/-- A character agrees with its upper case up to the case of ASCII letters if it is ASCII or in
upper case. -/
theorem map_toLower_upperChar_iff (c : Char) :
    (upperChar c).map Char.toLower = [c.toLower] ↔ (128 ≤ c.toNat → upperChar c = [c]) := by
  constructor
  · intro h hc
    obtain ⟨d, hd, hlower⟩ := List.map_eq_singleton_iff.1 h
    have hupper : ¬c.isUpper = true := fun hupper => by
      have hle := toNat_le_of_isUpper hupper
      omega
    have hupper' : ¬d.isUpper = true := fun hupper' => by
      have hlt := toNat_toLower_lt (Nat.lt_of_le_of_lt (toNat_le_of_isUpper hupper') (by decide))
      rw [hlower, Char.toLower_eq_of_not_isUpper hupper] at hlt
      omega
    rw [Char.toLower_eq_of_not_isUpper hupper, Char.toLower_eq_of_not_isUpper hupper'] at hlower
    rw [hd, hlower]
  · intro h
    rcases Nat.lt_or_ge c.toNat 128 with hc | hc
    · rw [upperChar_of_lt hc, List.map_singleton, Char.toLower_toUpper_eq_toLower]
    · rw [h hc, List.map_singleton]

/-! ## Upper case of texts -/

theorem upperCase_upperCase (s : String) : upperCase (upperCase s) = upperCase s := by
  have hchar (c : Char) : (upperChar c).flatMap upperChar = upperChar c := by
    have hself := List.flatMap_congr fun d (hd : d ∈ upperChar c) => upperChar_of_mem_upperChar hd
    rw [hself, List.flatMap_singleton']
  rw [upperCase, upperCase, String.toList_ofList, List.flatMap_assoc]
  simp only [hchar]

theorem upperCase_congr (h : equalIgnoringCase a b = true) : upperCase a = upperCase b := by
  have hlower (s : String) : s.toList.flatMap upperChar =
      (s.toList.map Char.toLower).flatMap upperChar := by
    rw [List.flatMap_map]
    simp only [upperChar_toLower]
  rw [upperCase, upperCase, hlower, hlower, beq_iff_eq.1 h]

/-- A text whose characters outside ASCII are in upper case. -/
def UpperOutsideAscii (s : String) : Prop :=
  ∀ c ∈ s.toList, 128 ≤ c.toNat → upperChar c = [c]

instance : DecidablePred UpperOutsideAscii :=
  fun s => List.decidableBAll (fun c : Char => 128 ≤ c.toNat → upperChar c = [c]) s.toList

theorem length_le_length_flatMap {α β : Type} {f : α → List β} (hf : ∀ x, f x ≠ [])
    (xs : List α) : xs.length ≤ (xs.flatMap f).length := by
  induction xs with
  | nil => exact Nat.le_refl _
  | cons x xs ih =>
    have hpos := List.length_pos_iff.2 (hf x)
    rw [List.flatMap_cons, List.length_append, List.length_cons]
    omega

/-- Where no member has an empty image, the images joined are one for each member exactly if each
image is one. -/
theorem flatMap_eq_map_iff {α β : Type} {f : α → List β} {g : α → β} (hf : ∀ x, f x ≠ [])
    (xs : List α) : xs.flatMap f = xs.map g ↔ ∀ x ∈ xs, f x = [g x] := by
  induction xs with
  | nil => simp
  | cons x xs ih =>
    rw [List.flatMap_cons, List.map_cons, List.forall_mem_cons, ← ih]
    constructor
    · intro h
      have hlength := congrArg List.length h
      have hpos := List.length_pos_iff.2 (hf x)
      have hle := length_le_length_flatMap hf xs
      rw [List.length_append, List.length_cons, List.length_map] at hlength
      obtain ⟨y, hy⟩ := List.length_eq_one_iff.1 (show (f x).length = 1 by omega)
      rw [hy, List.singleton_append, List.cons.injEq] at h
      rw [hy, h.1]
      exact ⟨rfl, h.2⟩
    · rintro ⟨hx, hxs⟩
      rw [hx, hxs, List.singleton_append]

/-- A text agrees with its upper case up to the case of ASCII letters exactly if it is in upper case
outside ASCII. -/
theorem equalIgnoringCase_upperCase_iff (s : String) :
    equalIgnoringCase (upperCase s) s = true ↔ UpperOutsideAscii s := by
  have hne (c : Char) : (upperChar c).map Char.toLower ≠ [] :=
    mt List.map_eq_nil_iff.1 (upperChar_ne_nil c)
  rw [equalIgnoringCase, beq_iff_eq, upperCase, String.toList_ofList, List.map_flatMap,
    flatMap_eq_map_iff hne]
  exact forall₂_congr fun c _ => map_toLower_upperChar_iff c

end ChassisAdmin.Text
