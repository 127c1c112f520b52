import ChassisAdmin.Proofs.Fabric.Binding
import Mathlib.Data.List.Sort

/-!
# The numbers in the keys of rows

A key ends in a number if the decimal digits at its end, of whatever script, are
ASCII digits (`EndsInNumber`).  Zeros may stand in front of them.  A key that ends
in the digits of another script, or in both kinds, ends in no number.

The number of a row is the number that its key ends in, if an ASIC can have it
(`asicOfKey?_eq_some_iff`).  So the ASICs of a card are the numbers that end the
keys of its rows, and a row whose key ends in no number or in one too great is as
good as absent (`exists_bound_numbers`).
-/

namespace ChassisAdmin.Fabric

open Store (Memory)

/-! ## Keys -/

/-- The longest run of decimal digits at the end of a key has ASCII digits only and writes a
number. -/
def EndsInNumber (key : String) (n : Nat) : Prop :=
  ∃ digits, Text.LongestEnd Text.isDecimalDigit key.toList digits ∧ digits ≠ [] ∧
    (∀ c ∈ digits, c.isDigit = true) ∧ Nat.ofDigitChars 10 digits 0 = n

variable {m : Memory} {card key : String} {n : Nat}

theorem asicOfKey?_eq_some_iff : asicOfKey? key = some n ↔ EndsInNumber key n ∧ n ≤ maxAsic := by
  rw [asicOfKey?, Option.filter_eq_some_iff, decide_eq_true_iff, Text.natOfDigits_eq_some_iff]
  refine and_congr_left fun _ => ?_
  constructor
  · intro h
    exact ⟨_, Text.longestEnd_trailingRun _ _, h⟩
  · rintro ⟨digits, hend, h⟩
    rwa [Text.longestEnd_iff.1 hend]

theorem asicOfKey?_eq_none_iff : asicOfKey? key = none ↔ ∀ n ≤ maxAsic, ¬EndsInNumber key n := by
  rw [Option.eq_none_iff_forall_ne_some]
  refine forall_congr' fun n => ?_
  rw [ne_eq, asicOfKey?_eq_some_iff, not_and']

/-! ## Rows -/

/-- A row whose key has no line feed binds an ASIC where the key begins with the name of the table
and ends in the number of the ASIC. -/
theorem binds_iff (hkeys : ∀ key, (m.records.get? key).isSome = true → '\n' ∉ key.toList) :
    Binds m card key n ↔
      (∃ fields, m.records.get? key = some fields ∧ fields.get? nameField = some card) ∧
        table.toList <+: key.toList ∧ EndsInNumber key n ∧ n ≤ maxAsic := by
  rw [← asicOfKey?_eq_some_iff]
  constructor
  · rintro ⟨⟨rest, hrest, -⟩, hname, hends⟩
    exact ⟨Option.bind_eq_some_iff.1 hname, ⟨rest, hrest.symm⟩, hends⟩
  · rintro ⟨⟨fields, hfields, hname⟩, ⟨rest, hrest⟩, hends⟩
    have hfeed : '\n' ∉ key.toList := hkeys key (Option.isSome_of_eq_some hfields)
    refine ⟨⟨rest, hrest.symm, fun hmem => hfeed ?_⟩, ?_, hends⟩
    · exact hrest ▸ List.mem_append_right _ hmem
    · exact Option.bind_eq_some_iff.2 ⟨fields, hfields, hname⟩

/-- The database without what stands under a raw key. -/
def without (m : Memory) (key : String) : Memory := { m with records := m.records.erase key }

theorem binds_without_iff {absent : String} (h : asicOfKey? absent = none) :
    Binds (without m absent) card key n ↔ Binds m card key n := by
  have hcard : key ≠ absent → cardOf? (without m absent) key = cardOf? m key := by
    intro hne
    rw [cardOf?, cardOf?, without, Keyed.get?_erase, if_neg hne.symm]
  have hne : ∀ {m' : Memory}, Binds m' card key n → key ≠ absent := by
    rintro m' hbinds rfl
    cases h.symm.trans hbinds.ends
  constructor
  · intro hbinds
    exact ⟨hbinds.inTable, hcard (hne hbinds) ▸ hbinds.names, hbinds.ends⟩
  · intro hbinds
    exact ⟨hbinds.inTable, (hcard (hne hbinds)).trans hbinds.names, hbinds.ends⟩

/-- A row that binds no ASIC to any card can be left out. -/
theorem bound_without {asics : List Nat} (hbound : Bound m card asics)
    (h : asicOfKey? key = none) : Bound (without m key) card asics := by
  obtain ⟨hsorted, hmem⟩ := sorted_and_mem_iff_of_bound hbound
  obtain ⟨asics', hbound', hsorted', hmem'⟩ := exists_bound (without m key) card
  have heq : asics' = asics := by
    refine hsorted'.eq_of_mem_iff hsorted fun n => ?_
    rw [hmem, hmem']
    exact exists_congr fun _ => binds_without_iff h
  exact heq ▸ hbound'

/-- Where no key has a line feed, looking for the ASICs of a card always comes to a list: the
numbers that end the keys of the rows of the card, ascending and each of them once.  Any row can be
left out whose key ends in no number or in one that no ASIC can have. -/
theorem exists_bound_numbers (m : Memory) (card : String)
    (hkeys : ∀ key, (m.records.get? key).isSome = true → '\n' ∉ key.toList) :
    ∃ asics, Bound m card asics ∧ asics.Pairwise (· < ·) ∧
      (∀ n, n ∈ asics ↔ ∃ key,
        (∃ fields, m.records.get? key = some fields ∧ fields.get? nameField = some card) ∧
          table.toList <+: key.toList ∧ EndsInNumber key n ∧ n ≤ maxAsic) ∧
      ∀ key, (∀ n ≤ maxAsic, ¬EndsInNumber key n) → Bound (without m key) card asics := by
  obtain ⟨asics, hbound, hsorted, hmem⟩ := exists_bound m card
  refine ⟨asics, hbound, hsorted, fun n => ?_, fun key h => ?_⟩
  · rw [hmem]
    exact exists_congr fun _ => binds_iff hkeys
  · exact bound_without hbound (asicOfKey?_eq_none_iff.2 h)

/-- Rows of a card, two of which bind one ASIC and two of which bind none. -/
def mixedRows : Memory := Memory.empty.seed <|
  ["asic9", "asic09", "asic10", "asic4294967296", "asic٣4"].map fun key =>
    (table, key, [(nameField, "FABRIC-CARD0")])

theorem noFeed_mixedRows (key : String) (hkey : (mixedRows.records.get? key).isSome = true) :
    '\n' ∉ key.toList := by
  have hall : ∀ key ∈ mixedRows.records.keys, '\n' ∉ key.toList := by decide
  exact hall key ((Keyed.mem_keys_iff _ key).2 hkey)

/-- Both rows of ASIC 9 count once.  The rows with the number that is too
great and with the digit of another script can be left out. -/
theorem bound_numbers_mixedRows :
    Bound mixedRows "FABRIC-CARD0" [9, 10] ∧
      Bound (without mixedRows (Store.rawKey table "asic4294967296")) "FABRIC-CARD0" [9, 10] ∧
      Bound (without mixedRows (Store.rawKey table "asic٣4")) "FABRIC-CARD0" [9, 10] := by
  have hbound : Bound mixedRows "FABRIC-CARD0" [9, 10] := by
    unfold Bound
    rfl
  obtain ⟨asics, hbound', -, -, habsent⟩ :=
    exists_bound_numbers mixedRows "FABRIC-CARD0" noFeed_mixedRows
  obtain rfl : asics = [9, 10] := Except.ok.inj (congrArg Prod.fst (hbound'.symm.trans hbound))
  refine ⟨hbound, habsent _ ?_, habsent _ ?_⟩
  · exact asicOfKey?_eq_none_iff.1 (by decide)
  · exact asicOfKey?_eq_none_iff.1 (by decide)

end ChassisAdmin.Fabric
