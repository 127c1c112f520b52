/-!
# Field lists

A record of a database is a list of named fields.  The order of the fields is
kept and a name may occur more than once, since records are also made by other
programs.  The first field of a name is the one that counts: `get?` reads it,
`set` replaces it where it stands and `erase` takes it out.

`get?_set` and `get?_erase` say how the two changes look through `get?`.  On a
list whose names are distinct both changes keep the names distinct, and then a
field list is a finite map.
-/

namespace ChassisAdmin

/-- The fields of a record, in order. -/
abbrev Fields := List (String × String)

namespace Fields

/-- The value of a field, if the list has the field. -/
def get? (l : Fields) (f : String) : Option String := (l.find? (·.1 == f)).map (·.2)

/-- The value of a field, or a default. -/
def getD (l : Fields) (f default : String) : String := (l.get? f).getD default

/-- Whether the list has a field. -/
def has (l : Fields) (f : String) : Bool := l.any (·.1 == f)

/-- Gives a field a value: in place where the list has the field, else at the end. -/
def set : Fields → String → String → Fields
  | [], f, v => [(f, v)]
  | e :: l, f, v => if e.1 = f then (e.1, v) :: l else e :: set l f v

/-- Takes a field out. -/
def erase : Fields → String → Fields
  | [], _ => []
  | e :: l, f => if e.1 = f then l else e :: erase l f

/-- Takes a field out and returns the value it had. -/
def remove (l : Fields) (f : String) : Option String × Fields := (l.get? f, l.erase f)

/-- The names of the fields, in order. -/
def names (l : Fields) : List String := l.map (·.1)

@[simp] theorem get?_nil (f : String) : get? [] f = none := rfl

theorem get?_cons (e : String × String) (l : Fields) (f : String) :
    get? (e :: l) f = if e.1 = f then some e.2 else get? l f := by
  by_cases h : e.1 = f <;> simp [get?, h]

theorem get?_set_self (l : Fields) (f v : String) : (l.set f v).get? f = some v := by
  induction l with
  | nil => simp [set, get?_cons]
  | cons e l ih =>
    unfold set
    split <;> simp_all [get?_cons]

theorem get?_set_of_ne (l : Fields) {f g : String} (v : String) (h : g ≠ f) :
    (l.set f v).get? g = l.get? g := by
  induction l with
  | nil => simp [set, get?_cons, h.symm]
  | cons e l ih =>
    unfold set
    split
    · next he => simp [get?_cons, he, h.symm]
    · rw [get?_cons, get?_cons, ih]

theorem get?_erase_of_ne (l : Fields) {f g : String} (h : g ≠ f) :
    (l.erase f).get? g = l.get? g := by
  induction l with
  | nil => rfl
  | cons e l ih =>
    unfold erase
    split
    · next he => rw [get?_cons, if_neg (by rw [he]; exact h.symm)]
    · rw [get?_cons, get?_cons, ih]

theorem has_eq_isSome (l : Fields) (f : String) : l.has f = (l.get? f).isSome := by
  induction l with
  | nil => rfl
  | cons e l ih => by_cases h : e.1 = f <;> simp_all [has, get?]

theorem names_set (l : Fields) (f v : String) :
    (l.set f v).names = if l.has f then l.names else l.names ++ [f] := by
  induction l with
  | nil => rfl
  | cons e l ih =>
    unfold set
    by_cases h : e.1 = f
    · simp [h, has, names]
    · have hb : has (e :: l) f = has l f := by simp [has, h]
      rw [if_neg h, hb, names, List.map_cons, ← names, ih]
      cases has l f <;> rfl

theorem erase_sublist (l : Fields) (f : String) : (l.erase f).Sublist l := by
  induction l with
  | nil => exact .slnil
  | cons e l ih =>
    unfold erase
    split
    · exact .cons _ (.refl _)
    · exact .cons_cons _ ih

theorem has_iff_mem_names (l : Fields) (f : String) : l.has f = true ↔ f ∈ l.names := by
  simp [has, names]

theorem get?_eq_none_iff (l : Fields) (f : String) : l.get? f = none ↔ f ∉ l.names := by
  rw [← has_iff_mem_names, has_eq_isSome]
  cases l.get? f <;> simp

theorem names_erase_sublist (l : Fields) (f : String) : (l.erase f).names.Sublist l.names :=
  (erase_sublist l f).map _

/-! ## Distinct names -/

theorem nodup_set {l : Fields} (h : l.names.Nodup) (f v : String) : (l.set f v).names.Nodup := by
  rw [names_set]
  split
  · exact h
  · next hf =>
    refine List.nodup_append.2 ⟨h, by simp, ?_⟩
    rintro a ha b hb rfl
    exact hf ((has_iff_mem_names l f).2 (List.mem_singleton.1 hb ▸ ha))

theorem nodup_erase {l : Fields} (h : l.names.Nodup) (f : String) : (l.erase f).names.Nodup :=
  h.sublist (names_erase_sublist l f)

/-- Where names are distinct a field that is taken out is gone. -/
theorem get?_erase_self {l : Fields} (h : l.names.Nodup) (f : String) :
    (l.erase f).get? f = none := by
  induction l with
  | nil => rfl
  | cons e l ih =>
    obtain ⟨he, hl⟩ := List.nodup_cons.1 h
    unfold erase
    split
    · next hef => exact (get?_eq_none_iff l f).2 (hef ▸ he)
    · next hef => rw [get?_cons, if_neg hef, ih hl]

example : set [("a", "1"), ("b", "2"), ("a", "3")] "a" "9" =
    [("a", "9"), ("b", "2"), ("a", "3")] := by decide

end Fields

end ChassisAdmin
