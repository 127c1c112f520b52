import ChassisAdmin.Proofs.Fields

/-!
# Field lists as maps

A field list that is changed field by field behaves as a finite map of texts.
Setting a field and taking one out leave all other fields as they are, whatever
the list (`setLaws_set`, `removes_remove`).  Where names are distinct they stay
so, and then a list and the map with the same fields go through any changes
alike (`ReadsAs.changed`).

With a name that occurs twice this fails.  Taking the name out of the list leaves
its second field (`has_remove_iff`), and a map has none to leave.
-/

namespace ChassisAdmin.Fields

variable {l : Fields} {m : Keyed String} {f : String}

/-! ## One change -/

/-- What a list with a field set has in common with the list before. -/
structure SetLaws (l : Fields) (f v : String) (l' : Fields) : Prop where
  value : l'.get? f = some v
  others : ∀ g, g ≠ f → l'.get? g = l.get? g
  kept : l.has f = true → l'.names = l.names
  added : l.has f = false → l'.names = l.names ++ [f]

/-- Taking a field out of a list answers with the value of the first field of that name.  This field
goes, and what stands before it and after it stays in order. -/
inductive Removes (l : Fields) (f : String) : Option String × Fields → Prop where
  | absent (h : f ∉ l.names) : Removes l f (none, l)
  | present {before after : Fields} {v : String} (hl : l = before ++ (f, v) :: after)
      (hbefore : f ∉ before.names) : Removes l f (some v, before ++ after)

theorem setLaws_set (l : Fields) (f v : String) : SetLaws l f v (l.set f v) where
  value := get?_set_self l f v
  others _ h := get?_set_of_ne l v h
  kept h := by rw [names_set, if_pos h]
  added h := by simp [names_set, h]

theorem Removes.cons {e : String × String} {r : Option String × Fields} (h : Removes l f r)
    (he : e.1 ≠ f) : Removes (e :: l) f (r.1, e :: r.2) := by
  cases h with
  | absent h =>
    refine .absent ?_
    simp only [names, List.map_cons, List.mem_cons, not_or]
    exact ⟨he.symm, h⟩
  | @present before after v hl hbefore =>
    have hcons : e :: l = (e :: before) ++ (f, v) :: after := by
      rw [hl]
      rfl
    refine .present hcons ?_
    simp only [names, List.map_cons, List.mem_cons, not_or]
    exact ⟨he.symm, hbefore⟩

theorem removes_remove (l : Fields) (f : String) : Removes l f (l.remove f) := by
  induction l with
  | nil => exact .absent List.not_mem_nil
  | cons e l ih =>
    by_cases he : e.1 = f
    · have h : remove (e :: l) f = (some e.2, [] ++ l) := by simp [remove, get?_cons, erase, he]
      rw [h]
      exact .present (by rw [← he]; rfl) List.not_mem_nil
    · have h : remove (e :: l) f = ((remove l f).1, e :: (remove l f).2) := by
        simp [remove, get?_cons, erase, he]
      rw [h]
      exact ih.cons he

theorem count_names_erase (l : Fields) (f : String) :
    (l.erase f).names.count f = l.names.count f - 1 := by
  induction l with
  | nil => rfl
  | cons e l ih =>
    unfold erase
    split
    · next he => simp [names, he]
    · next he => simpa [names, List.count_cons, he] using ih

/-- A field that is taken out is still there if its name occurred twice. -/
theorem has_remove_iff (l : Fields) (f : String) :
    (l.remove f).2.has f = true ↔ 1 < l.names.count f := by
  rw [remove, has_iff_mem_names, ← List.count_pos_iff, count_names_erase]
  omega

/-! ## Changes in a row -/

/-- A change to a record. -/
inductive Change where
  /-- Gives a field a value. -/
  | set (f v : String)
  /-- Takes a field out. -/
  | remove (f : String)
  deriving DecidableEq, Repr

namespace Change

/-- A change to a field list, with what it answers. -/
def onList : Change → Fields → Option String × Fields
  | set f v, l => (none, l.set f v)
  | remove f, l => l.remove f

/-- A change to a map, with what it answers. -/
def onMap : Change → Keyed String → Option String × Keyed String
  | set f v, m => (none, m.insert f v)
  | remove f, m => (m.get? f, m.erase f)

/-- Makes changes one after the other and keeps their answers. -/
def inTurn {σ : Type} (make : Change → σ → Option String × σ) :
    List Change → σ → List (Option String) × σ
  | [], s => ([], s)
  | c :: cs, s => ((make c s).1 :: (inTurn make cs (make c s).2).1, (inTurn make cs (make c s).2).2)

end Change

/-- A list with distinct names and a map of which every field reads alike. -/
structure ReadsAs (l : Fields) (m : Keyed String) : Prop where
  nodup : l.names.Nodup
  get? : ∀ f, l.get? f = m.get? f

/-- One change answers alike on both and keeps them alike. -/
theorem ReadsAs.changed (h : ReadsAs l m) (c : Change) :
    (c.onList l).1 = (c.onMap m).1 ∧ ReadsAs (c.onList l).2 (c.onMap m).2 := by
  cases c with
  | set f v =>
    refine ⟨rfl, nodup_set h.nodup f v, fun g => ?_⟩
    simp only [Change.onList, Change.onMap, Keyed.get?_insert]
    by_cases hg : g = f
    · rw [hg, get?_set_self, if_pos rfl]
    · rw [get?_set_of_ne l v hg, if_neg (Ne.symm hg), h.get?]
  | remove f =>
    refine ⟨h.get? f, nodup_erase h.nodup f, fun g => ?_⟩
    simp only [Change.onList, Change.onMap, remove, Keyed.get?_erase]
    by_cases hg : g = f
    · rw [hg, get?_erase_self h.nodup, if_pos rfl]
    · rw [get?_erase_of_ne l hg, if_neg (Ne.symm hg), h.get?]

theorem ReadsAs.inTurn (h : ReadsAs l m) (changes : List Change) :
    (Change.inTurn Change.onList changes l).1 = (Change.inTurn Change.onMap changes m).1 ∧
      ReadsAs (Change.inTurn Change.onList changes l).2
        (Change.inTurn Change.onMap changes m).2 := by
  induction changes generalizing l m with
  | nil => exact ⟨rfl, h⟩
  | cons c changes ih =>
    obtain ⟨hanswer, hchanged⟩ := h.changed c
    obtain ⟨hanswers, hafter⟩ := ih hchanged
    exact ⟨congrArg₂ List.cons hanswer hanswers, hafter⟩

/-! ## The map of a list -/

/-- The map with the fields of a list.  Of fields with one name it has the first. -/
def toMap : Fields → Keyed String
  | [] => .empty
  | e :: l => (toMap l).insert e.1 e.2

theorem get?_toMap (l : Fields) (f : String) : l.toMap.get? f = l.get? f := by
  induction l with
  | nil => rfl
  | cons e l ih => rw [toMap, Keyed.get?_insert, get?_cons, ih]

/-- The list and its map go through changes alike. -/
def Tracks (l : Fields) (changes : List Change) : Prop :=
  (Change.inTurn Change.onList changes l).1 = (Change.inTurn Change.onMap changes l.toMap).1 ∧
    ∀ f, (Change.inTurn Change.onList changes l).2.get? f =
      (Change.inTurn Change.onMap changes l.toMap).2.get? f

theorem nodup_of_tracks (h : ∀ changes, l.Tracks changes) : l.names.Nodup := by
  refine List.nodup_iff_count_le_one.2 fun f => ?_
  have hgone : (l.remove f).2.get? f = none := by
    refine ((h [.remove f]).2 f).trans ?_
    simp [Change.inTurn, Change.onMap, Keyed.get?_erase]
  by_contra hcount
  have hleft := (has_remove_iff l f).2 (by omega)
  rw [has_eq_isSome, hgone] at hleft
  cases hleft

/-- A field list behaves as a map.  A field that is set has its value and all others keep theirs, a
field that is taken out leaves all others in order, and names that are distinct stay distinct.  Any
changes give the values and the answers that they give on the map with the same fields, as long as
the names are distinct and only then. -/
theorem map_laws (l : Fields) :
    (∀ f v, SetLaws l f v (l.set f v)) ∧
    (∀ f, (l.remove f).1 = l.get? f ∧ (∀ g, g ≠ f → (l.remove f).2.get? g = l.get? g) ∧
      Removes l f (l.remove f)) ∧
    (l.names.Nodup → ∀ changes, (Change.inTurn Change.onList changes l).2.names.Nodup ∧
      ∀ f, ((Change.inTurn Change.onList changes l).2.remove f).2.has f = false) ∧
    (l.names.Nodup ↔ ∀ changes, l.Tracks changes) := by
  have hrun (h : l.names.Nodup) (changes : List Change) :=
    ReadsAs.inTurn ⟨h, fun f => (get?_toMap l f).symm⟩ changes
  refine ⟨setLaws_set l, fun f => ⟨rfl, fun g hg => get?_erase_of_ne l hg, removes_remove l f⟩,
    fun h changes => ?_, fun h changes => ?_, nodup_of_tracks⟩
  · have hnodup := (hrun h changes).2.nodup
    refine ⟨hnodup, fun f => ?_⟩
    rw [has_eq_isSome, remove, get?_erase_self hnodup]
    rfl
  · exact ⟨(hrun h changes).1, (hrun h changes).2.get?⟩

/-- A record of a module with a change under way. -/
def underWay : Fields :=
  [("admin_status", "down"), ("state_transition_in_progress", "True"),
    ("transition_start_time", "2025-01-01T12:00:00.000000")]

theorem map_laws_underWay :
    underWay.names.Nodup ∧
      (∀ changes, (Change.inTurn Change.onList changes underWay).2.names.Nodup ∧
        ∀ f, ((Change.inTurn Change.onList changes underWay).2.remove f).2.has f = false) ∧
      ∀ changes, underWay.Tracks changes := by
  have hnodup : underWay.names.Nodup := by decide
  obtain ⟨-, -, hdistinct, htracks⟩ := map_laws underWay
  exact ⟨hnodup, hdistinct hnodup, htracks.1 hnodup⟩

example : Change.inTurn Change.onList
    [.set "state_transition_in_progress" "False", .remove "transition_start_time"] underWay =
      ([none, some "2025-01-01T12:00:00.000000"],
        [("admin_status", "down"), ("state_transition_in_progress", "False")]) := by decide

example : remove [("a", "1"), ("b", "2"), ("a", "3")] "a" = (some "1", [("b", "2"), ("a", "3")]) := by
  decide

end ChassisAdmin.Fields
