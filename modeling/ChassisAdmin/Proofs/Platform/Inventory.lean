import ChassisAdmin.Platform.Detect
import ChassisAdmin.Proofs.Fields
import ChassisAdmin.Proofs.Text.ByteOrder
import ChassisAdmin.Proofs.Text.Numerals
import Mathlib.Data.List.Dedup

/-!
# The order of the DPUs

The description of a platform lists the DPUs in any order, and their names are
put in an order of their own: by the stem of a name, and names with one stem by
the number after it.  `Numbered` says how a name is divided, without telling how
the division is found.  Every name is divided, and in one way only
(`exists_numbered`, `Numbered.unique`).

The names are sorted by `mayPrecede`, which goes by the parts of names as they
are computed.  It is transitive and total whatever they are.  For numbers that
fit it is the order meant (`InOrder.of_mayPrecede`).  `InOrder` holds both ways
only of names with the same parts, so where the parts tell the DPUs apart, no
other order of the names ascends (`Inventory.eq_of_toldApart`).
-/

namespace ChassisAdmin.Platform

variable {a b name : String}

/-! ## The parts of a name -/

/-- A name is a stem and the digits of a number, as many as there are at its end.  Without digits
the number is 0. -/
def Numbered (name stem : String) (number : Nat) : Prop :=
  ∃ run, Text.LongestEnd Char.isDigit name.toList run ∧
    name.toList = stem.toList ++ run ∧ number = Text.digitsValue run

/-- The number that the digits at the end of a name make, however great. -/
def nameNumber (name : String) : Nat :=
  Text.digitsValue (Text.trailingRun Char.isDigit name.toList)

/-- The longest run of digits at its end divides a name. -/
theorem numbered_iff {stem : String} {number : Nat} :
    Numbered name stem number ↔ stem = nameStem name ∧ number = nameNumber name := by
  have happend := Text.beforeTrailingRun_append Char.isDigit name.toList
  constructor
  · rintro ⟨run, hrun, hname, rfl⟩
    obtain rfl := Text.longestEnd_iff.1 hrun
    refine ⟨String.toList_inj.1 ?_, rfl⟩
    rw [nameStem, String.toList_ofList]
    exact List.append_cancel_right (hname.symm.trans happend.symm)
  · rintro ⟨rfl, rfl⟩
    refine ⟨_, Text.longestEnd_trailingRun _ _, ?_, rfl⟩
    rw [nameStem, String.toList_ofList, happend]

theorem exists_numbered (name : String) : ∃ stem number, Numbered name stem number :=
  ⟨_, _, numbered_iff.2 ⟨rfl, rfl⟩⟩

theorem Numbered.unique {s t : String} {n k : Nat} (h : Numbered name s n)
    (h' : Numbered name t k) : s = t ∧ n = k := by
  obtain ⟨hs, hn⟩ := numbered_iff.1 h
  obtain ⟨ht, hk⟩ := numbered_iff.1 h'
  exact ⟨hs.trans ht.symm, hn.trans hk.symm⟩

/-- Digits count for what they are worth if that fits, and none count as 0. -/
theorem getD_natOfDigits {run : List Char} (hdigits : ∀ c ∈ run, c.isDigit = true)
    (hfits : Text.digitsValue run ≤ maxIndex) :
    ((Text.natOfDigits run).filter (· ≤ maxIndex)).getD 0 = Text.digitsValue run := by
  by_cases hrun : run = []
  · rw [hrun]
    rfl
  · have hvalue : Text.natOfDigits run = some (Text.digitsValue run) :=
      Text.natOfDigits_eq_some_iff.2 ⟨hrun, hdigits, rfl⟩
    rw [hvalue, Option.filter_some, if_pos (decide_eq_true hfits), Option.getD_some]

theorem nameIndex_of_lt (h : nameNumber name < 2 ^ 32) : nameIndex name = nameNumber name :=
  getD_natOfDigits (Text.longestEnd_trailingRun Char.isDigit name.toList).satisfies
    (Nat.le_of_lt_succ h)

/-! ## The order of names -/

/-- One name stands before another or with it: its stem has the lower bytes, or the stems are the
same and its number is not the greater. -/
inductive InOrder (a b : String) : Prop where
  /-- The stems decide. -/
  | stem {s t : String} {n k : Nat} (ha : Numbered a s n) (hb : Numbered b t k)
      (h : Text.Utf8.encode s < Text.Utf8.encode t)
  /-- The numbers decide. -/
  | number {s : String} {n k : Nat} (ha : Numbered a s n) (hb : Numbered b s k) (h : n ≤ k)

theorem mayPrecede_iff : mayPrecede a b = true ↔
    nameStem a < nameStem b ∨ nameStem a = nameStem b ∧ nameIndex a ≤ nameIndex b := by
  simp [mayPrecede]

theorem mayPrecede_trans (a b c : String) (hab : mayPrecede a b = true)
    (hbc : mayPrecede b c = true) : mayPrecede a c = true := by
  rw [mayPrecede_iff] at hab hbc ⊢
  rcases hab with hab | ⟨hab, hnum⟩
  · rcases hbc with hbc | ⟨hbc, -⟩
    · exact .inl (String.lt_trans hab hbc)
    · rw [hbc] at hab
      exact .inl hab
  · rcases hbc with hbc | ⟨hbc, hnum'⟩
    · rw [← hab] at hbc
      exact .inl hbc
    · exact .inr ⟨hab.trans hbc, hnum.trans hnum'⟩

theorem mayPrecede_total (a b : String) : (mayPrecede a b || mayPrecede b a) = true := by
  rw [Bool.or_eq_true, mayPrecede_iff, mayPrecede_iff]
  by_cases hstem : nameStem a = nameStem b
  · exact (Nat.le_total (nameIndex a) (nameIndex b)).imp (fun h => .inr ⟨hstem, h⟩)
      (fun h => .inr ⟨hstem.symm, h⟩)
  · by_cases hlt : nameStem a < nameStem b
    · exact .inl (.inl hlt)
    · exact .inr (.inl (Keyed.lt_of_not_lt_of_ne hlt hstem))

theorem inOrder_iff : InOrder a b ↔
    Text.Utf8.encode (nameStem a) < Text.Utf8.encode (nameStem b) ∨
      nameStem a = nameStem b ∧ nameNumber a ≤ nameNumber b := by
  constructor
  · rintro (⟨ha, hb, h⟩ | ⟨ha, hb, h⟩)
    · obtain ⟨rfl, -⟩ := numbered_iff.1 ha
      obtain ⟨rfl, -⟩ := numbered_iff.1 hb
      exact .inl h
    · obtain ⟨rfl, rfl⟩ := numbered_iff.1 ha
      obtain ⟨hstem, rfl⟩ := numbered_iff.1 hb
      exact .inr ⟨hstem, h⟩
  · rintro (h | ⟨hstem, h⟩)
    · exact .stem (numbered_iff.2 ⟨rfl, rfl⟩) (numbered_iff.2 ⟨rfl, rfl⟩) h
    · exact .number (numbered_iff.2 ⟨rfl, rfl⟩) (numbered_iff.2 ⟨hstem, rfl⟩) h

instance : DecidableRel InOrder := fun _ _ => decidable_of_iff _ inOrder_iff.symm

/-- Sorting by the computed parts is sorting by the parts of names, if the numbers fit. -/
theorem InOrder.of_mayPrecede (ha : nameNumber a < 2 ^ 32) (hb : nameNumber b < 2 ^ 32)
    (h : mayPrecede a b = true) : InOrder a b := by
  rw [mayPrecede_iff, nameIndex_of_lt ha, nameIndex_of_lt hb] at h
  exact inOrder_iff.2 (h.imp_left Text.Utf8.encode_lt)

/-- Two names each of which may stand before the other have the same parts. -/
theorem InOrder.parts_eq (hab : InOrder a b) (hba : InOrder b a) :
    nameStem a = nameStem b ∧ nameNumber a = nameNumber b := by
  have hirrefl (s : String) : ¬Text.Utf8.encode s < Text.Utf8.encode s := List.lt_irrefl _
  rcases inOrder_iff.1 hab with hlt | ⟨heq, hle⟩
  · rcases inOrder_iff.1 hba with hlt' | ⟨heq, -⟩
    · exact absurd (List.lt_trans hlt hlt') (hirrefl _)
    · rw [heq] at hlt
      exact absurd hlt (hirrefl _)
  · rcases inOrder_iff.1 hba with hlt | ⟨-, hle'⟩
    · rw [heq] at hlt
      exact absurd hlt (hirrefl _)
    · exact ⟨heq, Nat.le_antisymm hle hle'⟩

/-! ## The names of a description -/

/-- How a description spells the DPUs, each once. -/
def spellings (v : Json.Value) : List String :=
  ((((v.member? "DPUS").bind (·.members?)).getD []).map (·.1)).dedup

/-- What a platform is known to be by its name and its description. -/
def described (name : Option String) (v : Json.Value) : Platform :=
  describe { standard with name := name } v

theorem dpus_described (name : Option String) (v : Json.Value) : (described name v).dpus =
    orderedNames ((((v.member? "DPUS").bind (·.members?)).getD []).map (·.1)) := by
  unfold described describe
  cases (v.member? "DPUS").bind (·.members?) with
  | none => simp [orderedNames, standard, Keyed.ofList, Keyed.keys, Keyed.empty]
  | some members => rfl

theorem smartswitch_described (name : Option String) (v : Json.Value) :
    (described name v).smartswitch = !(described name v).dpus.isEmpty := by
  unfold described describe
  cases (v.member? "DPUS").bind (·.members?) <;> rfl

theorem perm_orderedNames (names : List String) :
    (orderedNames names).Perm (names.dedup.map Text.upperCase) := by
  have hkeys : (Keyed.ofList (names.map fun s => (s, ()))).keys.Perm names.dedup := by
    refine (List.perm_ext_iff_of_nodup (Keyed.nodup_keys _) names.nodup_dedup).2 fun s => ?_
    rw [Keyed.mem_keys_ofList, List.map_map, List.mem_dedup]
    exact iff_of_eq (congrArg (s ∈ ·) (List.map_id _))
  exact (List.mergeSort_perm _ _).trans (hkeys.map _)

theorem pairwise_orderedNames (names : List String) :
    (orderedNames names).Pairwise fun a b => mayPrecede a b = true :=
  List.pairwise_mergeSort mayPrecede_trans mayPrecede_total _

/-! ## Every inventory -/

/-- A list of the DPUs that a description spells, in order. -/
structure Inventory (v : Json.Value) (dpus : List String) : Prop where
  perm : dpus.Perm ((spellings v).map Text.upperCase)
  ordered : dpus.Pairwise InOrder

/-- The numbers at the end of the names that a description gives the DPUs fit. -/
def Fits (v : Json.Value) : Prop :=
  ∀ spelling ∈ spellings v,
    ∃ stem number, Numbered (Text.upperCase spelling) stem number ∧ number < 2 ^ 32

/-- No two DPUs of a description have the same stem and number. -/
def ToldApart (v : Json.Value) : Prop :=
  ∀ x ∈ spellings v, ∀ y ∈ spellings v, ∀ stem number,
    Numbered (Text.upperCase x) stem number → Numbered (Text.upperCase y) stem number → x = y

theorem fits_iff {v : Json.Value} :
    Fits v ↔ ∀ spelling ∈ spellings v, nameNumber (Text.upperCase spelling) < 2 ^ 32 := by
  refine forall₂_congr fun spelling _ => ⟨?_, fun h => ⟨_, _, numbered_iff.2 ⟨rfl, rfl⟩, h⟩⟩
  rintro ⟨stem, number, hname, h⟩
  rwa [← (numbered_iff.1 hname).2]

theorem toldApart_iff {v : Json.Value} : ToldApart v ↔ ∀ x ∈ spellings v, ∀ y ∈ spellings v,
    nameStem (Text.upperCase x) = nameStem (Text.upperCase y) →
      nameNumber (Text.upperCase x) = nameNumber (Text.upperCase y) → x = y := by
  refine forall₂_congr fun x _ => forall₂_congr fun y _ => ⟨fun h hstem hnumber => ?_, ?_⟩
  · exact h _ _ (numbered_iff.2 ⟨rfl, rfl⟩) (numbered_iff.2 ⟨hstem, hnumber⟩)
  · intro h stem number hx hy
    obtain ⟨hxstem, hxnumber⟩ := numbered_iff.1 hx
    obtain ⟨hystem, hynumber⟩ := numbered_iff.1 hy
    exact h (hxstem.symm.trans hystem) (hxnumber.symm.trans hynumber)

instance (v : Json.Value) : Decidable (Fits v) := decidable_of_iff _ fits_iff.symm

instance (v : Json.Value) : Decidable (ToldApart v) := decidable_of_iff _ toldApart_iff.symm

/-- One list only has the DPUs in order, if their parts tell them apart. -/
theorem Inventory.eq_of_toldApart {v : Json.Value} {dpus dpus' : List String} (hv : ToldApart v)
    (h : Inventory v dpus) (h' : Inventory v dpus') : dpus = dpus' := by
  refine List.Perm.eq_of_pairwise (fun a b ha hb hab hba => ?_) h.ordered h'.ordered
    (h.perm.trans h'.perm.symm)
  obtain ⟨x, hx, rfl⟩ := List.mem_map.1 (h.perm.mem_iff.1 ha)
  obtain ⟨y, hy, rfl⟩ := List.mem_map.1 (h'.perm.mem_iff.1 hb)
  obtain ⟨hstem, hnumber⟩ := hab.parts_eq hba
  rw [toldApart_iff.1 hv x hx y hy hstem hnumber]

theorem inventory_described (name : Option String) {v : Json.Value} (hv : Fits v) :
    Inventory v (described name v).dpus := by
  have hperm : (described name v).dpus.Perm ((spellings v).map Text.upperCase) := by
    rw [dpus_described]
    exact perm_orderedNames _
  have hfits : ∀ d ∈ (described name v).dpus, nameNumber d < 2 ^ 32 := by
    intro d hd
    obtain ⟨spelling, hspelling, rfl⟩ := List.mem_map.1 (hperm.mem_iff.1 hd)
    exact fits_iff.1 hv spelling hspelling
  have hsorted : (described name v).dpus.Pairwise fun a b => mayPrecede a b = true := by
    rw [dpus_described]
    exact pairwise_orderedNames _
  exact ⟨hperm, hsorted.imp_of_mem fun ha hb h => .of_mayPrecede (hfits _ ha) (hfits _ hb) h⟩

/-- Descriptions with the same spellings have the same inventories. -/
theorem Inventory.of_perm {v v' : Json.Value} {dpus : List String}
    (hsame : (spellings v').Perm (spellings v)) (h : Inventory v' dpus) : Inventory v dpus :=
  ⟨h.perm.trans (hsame.map _), h.ordered⟩

/-- The DPUs of a platform are those that its description spells, in order, and a smartswitch has
some.  If their parts tell them apart, there is one order only, which is that of every description
with the same spellings. -/
theorem inventory_of_fits (name : Option String) {v : Json.Value} (hv : Fits v) :
    Inventory v (described name v).dpus ∧
    ((described name v).smartswitch = true ↔ (described name v).dpus ≠ []) ∧
    (ToldApart v →
      (∀ dpus, Inventory v dpus → (described name v).dpus = dpus) ∧
      ∀ name' v', (spellings v').Perm (spellings v) →
        (described name' v').dpus = (described name v).dpus) := by
  have hinventory := inventory_described name hv
  refine ⟨hinventory, ?_, fun hapart => ⟨fun dpus => hinventory.eq_of_toldApart hapart,
    fun name' v' hsame => ?_⟩⟩
  · rw [smartswitch_described, Bool.not_eq_true', List.isEmpty_eq_false_iff]
  · have hv' : Fits v' := fun spelling h => hv spelling (hsame.mem_iff.1 h)
    exact ((inventory_described name' hv').of_perm hsame).eq_of_toldApart hapart hinventory

/-- A description of three DPUs, the one with the most digits first. -/
def threeDpus : Json.Value :=
  .object [("DPUS", .object [("dpu10", .null), ("dpu2", .null), ("dpu1", .null)])]

theorem inventory_of_fits_threeDpus :
    Fits threeDpus ∧ ToldApart threeDpus ∧
      (described none threeDpus).dpus = ["DPU1", "DPU2", "DPU10"] ∧
      (described none threeDpus).smartswitch = true ∧
      ∀ name v, (spellings v).Perm (spellings threeDpus) →
        (described name v).dpus = ["DPU1", "DPU2", "DPU10"] := by
  have hfits : Fits threeDpus := by decide
  have hapart : ToldApart threeDpus := by decide
  obtain ⟨-, hswitch, hunique⟩ := inventory_of_fits none hfits
  obtain ⟨honly, hsame⟩ := hunique hapart
  have hdpus : (described none threeDpus).dpus = ["DPU1", "DPU2", "DPU10"] :=
    honly _ ⟨by decide, by decide⟩
  have hsome : (described none threeDpus).dpus ≠ [] := by
    rw [hdpus]
    exact List.cons_ne_nil _ _
  exact ⟨hfits, hapart, hdpus, hswitch.2 hsome, fun name v h => (hsame name v h).trans hdpus⟩

end ChassisAdmin.Platform
