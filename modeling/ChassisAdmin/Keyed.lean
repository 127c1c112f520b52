/-!
# Maps from texts, in order

A finite map from texts to values, kept as a list in ascending order of the
texts.  The order of texts is that of their characters' code points, which is
also the order of their bytes in UTF-8.  The order is part of the type, so the
list of keys never repeats a key and two maps with the same entries are equal.

`get?_insert` and `get?_erase` say what the two changes do, seen through `get?`.
-/

namespace ChassisAdmin

/-- A finite map from texts, its entries in ascending order. -/
structure Keyed (α : Type) where
  /-- The entries. -/
  toList : List (String × α)
  /-- The entries ascend. -/
  ascending : toList.Pairwise (·.1 < ·.1)

namespace Keyed

variable {α : Type}

/-- Puts an entry into its place in ascending entries, in place of an entry with the same key. -/
def insertEntry (k : String) (v : α) : List (String × α) → List (String × α)
  | [] => [(k, v)]
  | e :: l =>
      if k < e.1 then (k, v) :: e :: l
      else if k = e.1 then (k, v) :: l
      else e :: insertEntry k v l

/-- Takes the entry of a key out. -/
def eraseEntry (k : String) : List (String × α) → List (String × α)
  | [] => []
  | e :: l => if e.1 = k then l else e :: eraseEntry k l

theorem mem_insertEntry {k : String} {v : α} {l : List (String × α)} {e : String × α}
    (h : e ∈ insertEntry k v l) : e = (k, v) ∨ e ∈ l := by
  induction l with
  | nil => simpa [insertEntry] using h
  | cons f l ih =>
    unfold insertEntry at h
    split at h
    · simpa using h
    · split at h
      · rcases List.mem_cons.1 h with h | h
        · exact .inl h
        · exact .inr (List.mem_cons_of_mem _ h)
      · rcases List.mem_cons.1 h with h | h
        · exact .inr (h ▸ List.mem_cons_self)
        · exact (ih h).imp_right (List.mem_cons_of_mem _)

theorem lt_of_not_lt_of_ne {a b : String} (h : ¬a < b) (hne : a ≠ b) : b < a := by
  grind

theorem pairwise_insertEntry (k : String) (v : α) {l : List (String × α)}
    (h : l.Pairwise (·.1 < ·.1)) : (insertEntry k v l).Pairwise (·.1 < ·.1) := by
  induction l with
  | nil => simp [insertEntry]
  | cons e l ih =>
    obtain ⟨he, hl⟩ := List.pairwise_cons.1 h
    unfold insertEntry
    split
    · next hk =>
      refine List.pairwise_cons.2 ⟨fun f hf => ?_, h⟩
      rcases List.mem_cons.1 hf with rfl | hf
      · exact hk
      · exact String.lt_trans hk (he f hf)
    · split
      · next hk =>
        subst hk
        exact List.pairwise_cons.2 ⟨he, hl⟩
      · next hlt hne =>
        refine List.pairwise_cons.2 ⟨fun f hf => ?_, ih hl⟩
        rcases mem_insertEntry hf with rfl | hf
        · exact lt_of_not_lt_of_ne hlt hne
        · exact he f hf

theorem sublist_eraseEntry (k : String) (l : List (String × α)) : (eraseEntry k l).Sublist l := by
  induction l with
  | nil => exact .slnil
  | cons e l ih =>
    unfold eraseEntry
    split
    · exact .cons _ (.refl _)
    · exact .cons_cons _ ih

/-- The map with no entry. -/
def empty : Keyed α := ⟨[], .nil⟩

instance : Inhabited (Keyed α) := ⟨empty⟩

/-- The value of a key. -/
def get? (m : Keyed α) (k : String) : Option α := (m.toList.find? (·.1 == k)).map (·.2)

/-- The map with a value given to a key. -/
def insert (m : Keyed α) (k : String) (v : α) : Keyed α :=
  ⟨insertEntry k v m.toList, pairwise_insertEntry k v m.ascending⟩

/-- The map without a key. -/
def erase (m : Keyed α) (k : String) : Keyed α :=
  ⟨eraseEntry k m.toList, m.ascending.sublist (sublist_eraseEntry k m.toList)⟩

/-- The keys, in ascending order. -/
def keys (m : Keyed α) : List String := m.toList.map (·.1)

/-- The map of entries put in one after the other, so that of two with one key the later stays. -/
def ofList (l : List (String × α)) : Keyed α := l.foldl (fun m e => m.insert e.1 e.2) empty

theorem find?_insertEntry (k : String) (v : α) (l : List (String × α)) (j : String) :
    ((insertEntry k v l).find? (·.1 == j)).map (·.2) =
      if k = j then some v else (l.find? (·.1 == j)).map (·.2) := by
  induction l with
  | nil => by_cases h : k = j <;> simp [insertEntry, h]
  | cons e l ih =>
    unfold insertEntry
    split
    · by_cases h : k = j <;> simp [h]
    · split
      · next hk =>
        by_cases h : k = j
        · simp [h]
        · have he : (e.1 == j) = false := by simp [← hk, h]
          simp [h, he]
      · next hne =>
        by_cases h : e.1 = j
        · have hkj : k ≠ j := fun hc => hne (hc.trans h.symm)
          simp [h, hkj]
        · have he : (e.1 == j) = false := by simp [h]
          simp only [List.find?_cons, he]
          exact ih

theorem get?_insert (m : Keyed α) (k : String) (v : α) (j : String) :
    (m.insert k v).get? j = if k = j then some v else m.get? j :=
  find?_insertEntry k v m.toList j

theorem find?_eraseEntry (k : String) {l : List (String × α)} (h : l.Pairwise (·.1 < ·.1))
    (j : String) :
    ((eraseEntry k l).find? (·.1 == j)).map (·.2) =
      if k = j then none else (l.find? (·.1 == j)).map (·.2) := by
  induction l with
  | nil => simp [eraseEntry]
  | cons e l ih =>
    obtain ⟨he, hl⟩ := List.pairwise_cons.1 h
    unfold eraseEntry
    split
    · next hk =>
      by_cases hj : k = j
      · subst hj
        have : l.find? (·.1 == k) = none := by
          refine List.find?_eq_none.2 fun f hf => ?_
          have hlt := he f hf
          have hne : f.1 ≠ k := fun hc => String.lt_irrefl k (by rwa [hk, hc] at hlt)
          simp [hne]
        simp [this]
      · have : (e.1 == j) = false := by simp [hk, hj]
        simp [hj, this]
    · next hk =>
      by_cases hj : e.1 = j
      · have hkj : k ≠ j := fun hc => hk (hj.trans hc.symm)
        simp [hj, hkj]
      · have : (e.1 == j) = false := by simp [hj]
        simp only [List.find?_cons, this]
        exact ih hl

theorem get?_erase (m : Keyed α) (k j : String) :
    (m.erase k).get? j = if k = j then none else m.get? j :=
  find?_eraseEntry k m.ascending j

theorem get?_empty (k : String) : (empty : Keyed α).get? k = none := rfl

theorem mem_keys_iff (m : Keyed α) (k : String) : k ∈ m.keys ↔ (m.get? k).isSome = true := by
  simp [keys, get?]

theorem mem_keys_insert (m : Keyed α) (k : String) (v : α) (j : String) :
    j ∈ (m.insert k v).keys ↔ j = k ∨ j ∈ m.keys := by
  rw [mem_keys_iff, get?_insert, mem_keys_iff]
  split
  · next h => simp [h]
  · next h => simp [Ne.symm h]

/-- The keys of a map are those of the entries that were put in. -/
theorem mem_keys_ofList (l : List (String × α)) (k : String) :
    k ∈ (ofList l).keys ↔ k ∈ l.map (·.1) := by
  have hfold (m : Keyed α) :
      k ∈ (l.foldl (fun m e => m.insert e.1 e.2) m).keys ↔ k ∈ l.map (·.1) ∨ k ∈ m.keys := by
    induction l generalizing m with
    | nil => simp
    | cons e l ih =>
      rw [List.foldl_cons, ih, mem_keys_insert, List.map_cons, List.mem_cons, or_assoc]
      exact or_left_comm
  exact (hfold empty).trans (or_iff_left List.not_mem_nil)

end Keyed

end ChassisAdmin
