import ChassisAdmin.Fabric
import ChassisAdmin.Proofs.Program
import ChassisAdmin.Proofs.Text.Glob
import ChassisAdmin.Proofs.Text.Numerals
import ChassisAdmin.Store.Memory

/-!
# Rows that bind an ASIC to a card

The ASICs of a card are looked up in CHASSIS_STATE_DB, and looking them up
always comes to a list and changes nothing (`exists_bound`).  `Binds` says which
rows count, and `sorted_and_mem_iff_of_bound` that the list has the numbers of
these rows, in ascending order and each of them once.

The number of a row is read off the end of its key.  The key that is made from a
number is one that the number is read off (`asicOfKey?_rowRawKey`), but it is not
the only one: zeros may stand in front of the number, and anything may stand
between it and the name of the table.
-/

namespace ChassisAdmin.Fabric

open Store (Memory)

/-! ## Keys of rows -/

theorem toList_rowRawKey (n : Nat) :
    (rowRawKey n).toList = "CHASSIS_FABRIC_ASIC_TABLE|asic".toList ++ Text.digits n := by
  simp [rowRawKey, Store.rawKey, rowKey, table, Store.separator, Text.decimal]

/-- The number of an ASIC is read off the key that is made from it. -/
theorem asicOfKey?_rowRawKey {n : Nat} (h : n ≤ maxAsic) : asicOfKey? (rowRawKey n) = some n := by
  have hrun : Text.trailingRun Text.isDecimalDigit (rowRawKey n).toList = Text.digits n := by
    rw [toList_rowRawKey]
    refine Text.trailingRun_append ?_ ?_
    · exact fun _ hc => Text.isDecimalDigit_of_isDigit (Text.isDigit_of_mem_digits hc)
    · intro c hc
      obtain rfl : 'c' = c := Option.some.inj hc
      rfl
  rw [asicOfKey?, hrun, Text.natOfDigits_digits, Option.filter_some, if_pos (by simpa using h)]

theorem rowRawKey_injective {n k : Nat} (h : rowRawKey n = rowRawKey k) : n = k := by
  have hchars := congrArg String.toList h
  rw [toList_rowRawKey, toList_rowRawKey] at hchars
  exact Text.digits_injective (List.append_cancel_left hchars)

/-! ## Ascending lists -/

theorem mem_insertAsic {n k : Nat} {l : List Nat} : k ∈ insertAsic n l ↔ k = n ∨ k ∈ l := by
  induction l with
  | nil => rw [insertAsic, List.mem_singleton]; simp
  | cons m l ih =>
    unfold insertAsic
    split
    · exact List.mem_cons
    · split
      · next h => simp [h]
      · rw [List.mem_cons, ih, List.mem_cons]
        exact or_left_comm

theorem pairwise_insertAsic (n : Nat) {l : List Nat} (h : l.Pairwise (· < ·)) :
    (insertAsic n l).Pairwise (· < ·) := by
  induction l with
  | nil => exact List.pairwise_singleton _ n
  | cons m l ih =>
    obtain ⟨hm, hl⟩ := List.pairwise_cons.1 h
    unfold insertAsic
    split
    · next hlt =>
      refine List.pairwise_cons.2 ⟨?_, h⟩
      rintro k hk
      rcases List.mem_cons.1 hk with rfl | hk
      · exact hlt
      · exact Nat.lt_trans hlt (hm k hk)
    · split
      · exact h
      · refine List.pairwise_cons.2 ⟨?_, ih hl⟩
        intro k hk
        rcases mem_insertAsic.1 hk with rfl | hk
        · omega
        · exact hm k hk

/-! ## Bound ASICs -/

/-- The ASICs bound to a card in CHASSIS_STATE_DB. -/
def Bound (m : Memory) (card : String) (asics : List Nat) : Prop :=
  (binding card).onMemory m = (.ok asics, m)

/-- The card that the row under a raw key names. -/
def cardOf? (m : Memory) (key : String) : Option String :=
  (m.records.get? key).bind (·.get? nameField)

/-- The row under a raw key binds an ASIC to a card. -/
structure Binds (m : Memory) (card key : String) (asic : Nat) : Prop where
  /-- The key begins with the name of the table and has no line feed after it. -/
  inTable : ∃ rest, key.toList = table.toList ++ rest ∧ '\n' ∉ rest
  /-- The row names the card. -/
  names : cardOf? m key = some card
  /-- The key ends in the number of the ASIC. -/
  ends : asicOfKey? key = some asic

variable {m : Memory} {card key : String} {asic : Nat} {asics : List Nat}

theorem le_maxAsic_of_asicOfKey? (h : asicOfKey? key = some asic) : asic ≤ maxAsic := by
  simpa using (Option.filter_eq_some_iff.1 h).2

theorem Binds.isSome (h : Binds m card key asic) : (m.records.get? key).isSome = true := by
  obtain ⟨fields, hfields, -⟩ := Option.bind_eq_some_iff.1 h.names
  exact Option.isSome_of_eq_some hfields

/-- Going through raw keys adds the ASICs that they bind to those found before. -/
theorem exists_onMemory_collect (card : String) (keys : List String) {found : List Nat}
    (hfound : found.Pairwise (· < ·)) (m : Memory) :
    ∃ asics, (collect card keys found).onMemory m = (.ok asics, m) ∧ asics.Pairwise (· < ·) ∧
      ∀ asic, asic ∈ asics ↔
        asic ∈ found ∨ ∃ key ∈ keys, cardOf? m key = some card ∧ asicOfKey? key = some asic := by
  -- Keys come in the order of their texts, so the list is kept ascending by its insertions alone.
  induction keys generalizing found with
  | nil => exact ⟨found, rfl, hfound, fun asic => by simp⟩
  | cons key keys ih =>
    have hget : (Store.hget key nameField).onMemory m = (.ok (cardOf? m key), m) := rfl
    rw [collect, Store.Client.onMemory, Attempt.runWith_bind_ok hget]
    split
    · next hname =>
      split
      · next n hn =>
        obtain ⟨asics, hrun, hsorted, hmem⟩ := ih (pairwise_insertAsic n hfound)
        refine ⟨asics, hrun, hsorted, fun asic => ?_⟩
        rw [hmem, mem_insertAsic]
        simp only [List.mem_cons, exists_eq_or_imp, hname, hn, true_and, Option.some.injEq]
        rw [eq_comm, or_assoc, or_left_comm]
      · next hn =>
        obtain ⟨asics, hrun, hsorted, hmem⟩ := ih hfound
        refine ⟨asics, hrun, hsorted, fun asic => ?_⟩
        rw [hmem]
        simp [hn]
    · next hname =>
      obtain ⟨asics, hrun, hsorted, hmem⟩ := ih hfound
      refine ⟨asics, hrun, hsorted, fun asic => ?_⟩
      rw [hmem]
      simp [hname]

theorem literal_table : ∀ c ∈ table.toList, c ≠ '*' ∧ c ≠ '?' := by
  have h : table.toList.all (fun c => c ≠ '*' ∧ c ≠ '?') = true := rfl
  simpa using h

theorem mem_matching_iff : key ∈ m.matching (table ++ "*") ↔
    (m.records.get? key).isSome = true ∧ ∃ rest, key.toList = table.toList ++ rest ∧ '\n' ∉ rest := by
  rw [Memory.matching, List.mem_filter, Keyed.mem_keys_iff,
    Text.Glob.isMatch_append_star_iff literal_table]

/-- The rows that are looked at and count are the rows that bind. -/
theorem exists_mem_matching_iff :
    (∃ key ∈ m.matching (table ++ "*"), cardOf? m key = some card ∧ asicOfKey? key = some asic) ↔
      ∃ key, Binds m card key asic := by
  constructor
  · rintro ⟨key, hkey, hname, hasic⟩
    exact ⟨key, (mem_matching_iff.1 hkey).2, hname, hasic⟩
  · rintro ⟨key, h⟩
    exact ⟨key, mem_matching_iff.2 ⟨h.isSome, h.inTable⟩, h.names, h.ends⟩

/-- Looking for the ASICs of a card always finds the numbers of the rows that bind one, in
ascending order, and changes nothing. -/
theorem exists_bound (m : Memory) (card : String) :
    ∃ asics, Bound m card asics ∧ asics.Pairwise (· < ·) ∧
      ∀ asic, asic ∈ asics ↔ ∃ key, Binds m card key asic := by
  have hkeys : (Store.keys (table ++ "*")).onMemory m = (.ok _, m) := rfl
  obtain ⟨asics, hrun, hsorted, hmem⟩ :=
    exists_onMemory_collect card (m.matching (table ++ "*")) List.Pairwise.nil m
  refine ⟨asics, (Attempt.runWith_bind_ok hkeys _).trans hrun, hsorted, fun asic => ?_⟩
  rw [hmem, ← exists_mem_matching_iff]
  simp

theorem sorted_and_mem_iff_of_bound (h : Bound m card asics) :
    asics.Pairwise (· < ·) ∧ ∀ asic, asic ∈ asics ↔ ∃ key, Binds m card key asic := by
  obtain ⟨asics', h', hbinds⟩ := exists_bound m card
  obtain rfl : asics = asics' := Except.ok.inj (congrArg Prod.fst (h.symm.trans h'))
  exact hbinds

/-- A row under the key that is made from a number binds that ASIC to the card it names. -/
theorem binds_rowRawKey_iff {n : Nat} (h : n ≤ maxAsic) :
    Binds m card (rowRawKey n) asic ↔ cardOf? m (rowRawKey n) = some card ∧ asic = n := by
  constructor
  · rintro ⟨-, hname, hasic⟩
    rw [asicOfKey?_rowRawKey h] at hasic
    exact ⟨hname, (Option.some.inj hasic).symm⟩
  · rintro ⟨hname, rfl⟩
    refine ⟨⟨"|asic".toList ++ Text.digits asic, ?_, ?_⟩, hname, asicOfKey?_rowRawKey h⟩
    · rw [toList_rowRawKey, ← List.append_assoc]
      rfl
    · intro hmem
      rcases List.mem_append.1 hmem with hmem | hmem
      · exact absurd hmem (by decide)
      · exact absurd (Text.isDigit_of_mem_digits hmem) (by decide)

example : asicOfKey? "CHASSIS_FABRIC_ASIC_TABLE|asic03" = some 3 ∧
    rowRawKey 3 = "CHASSIS_FABRIC_ASIC_TABLE|asic3" := by decide

end ChassisAdmin.Fabric
