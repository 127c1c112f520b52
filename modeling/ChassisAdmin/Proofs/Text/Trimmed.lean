import ChassisAdmin.Proofs.Text.Lines
import Mathlib.Data.List.TakeWhile

/-!
# What trimming takes away

Trimming divides a text into blanks, a part that neither begins nor ends with a
blank, and blanks again (`exists_blank_append_trim`), and every such division is
the one that trimming makes (`trim_eq`).  So blanks at the ends do not matter,
trimming twice is trimming once, and a carriage return at the end of a line is
trimmed with the rest.
-/

namespace ChassisAdmin.Text

variable {l cs blanks before after : List Char}

/-- A text of blanks. -/
def Blank (cs : List Char) : Prop := ∀ c ∈ cs, isBlank c = true

instance (cs : List Char) : Decidable (Blank cs) := List.decidableBAll _ cs

theorem Blank.append (h : Blank before) (h' : Blank after) : Blank (before ++ after) :=
  List.forall_mem_append.2 ⟨h, h'⟩

theorem Blank.reverse (h : Blank blanks) : Blank blanks.reverse :=
  fun c hc => h c (List.mem_reverse.1 hc)

theorem not_isBlank_of_mem_head?_trim (cs : List Char) {c : Char} (hc : c ∈ (trim cs).head?) :
    isBlank c = false := by
  have hprefix : trim cs <+: trimStart cs := by
    rw [trim, trimEnd, ← List.reverse_suffix, List.reverse_reverse]
    exact List.dropWhile_suffix _
  obtain ⟨rest, hrest⟩ := hprefix
  have hmem : (cs.dropWhile isBlank).head? = some c := by
    rw [← trimStart, ← hrest, List.head?_append, Option.mem_def.1 hc, Option.some_or]
  have hhead := List.head?_dropWhile_not isBlank cs
  rw [hmem] at hhead
  exact hhead

theorem exists_blank_append_trim (cs : List Char) :
    ∃ before after, Blank before ∧ Blank after ∧ cs = before ++ trim cs ++ after := by
  have hbefore : Blank (cs.takeWhile isBlank) := fun c hc => List.mem_takeWhile_imp hc
  have hafter : Blank ((trimStart cs).reverse.takeWhile isBlank) :=
    fun c hc => List.mem_takeWhile_imp hc
  refine ⟨_, _, hbefore, hafter.reverse, ?_⟩
  rw [trim, trimEnd, List.append_assoc, ← List.reverse_append, List.takeWhile_append_dropWhile,
    List.reverse_reverse, trimStart, List.takeWhile_append_dropWhile]

theorem trim_subset (cs : List Char) : trim cs ⊆ cs := by
  obtain ⟨before, after, -, -, hcs⟩ := exists_blank_append_trim cs
  intro c hc
  rw [hcs]
  exact List.mem_append_left _ (List.mem_append_right _ hc)

theorem trimEnd_subset (cs : List Char) : trimEnd cs ⊆ cs := fun _ hc =>
  List.mem_reverse.1 ((List.dropWhile_sublist _).subset (List.mem_reverse.1 hc))

theorem trimEnd_append (hafter : Blank after) (hlast : ∀ c ∈ l.getLast?, isBlank c = false) :
    trimEnd (l ++ after) = l := by
  rw [trimEnd, List.reverse_append, List.dropWhile_append_of_pos hafter.reverse]
  cases hl : l.reverse with
  | nil => exact (List.reverse_eq_nil_iff.1 hl).symm
  | cons c r =>
    have hc : c ∈ l.getLast? := by rw [← List.head?_reverse, hl]; rfl
    rw [List.dropWhile_cons_of_neg (by simp [hlast c hc]), ← hl, List.reverse_reverse]

theorem trim_eq (hbefore : Blank before) (hafter : Blank after)
    (hhead : ∀ c ∈ l.head?, isBlank c = false) (hlast : ∀ c ∈ l.getLast?, isBlank c = false) :
    trim (before ++ l ++ after) = l := by
  have hstart : trimStart (before ++ l ++ after) = if l = [] then [] else l ++ after := by
    rw [trimStart, List.append_assoc, List.dropWhile_append_of_pos hbefore]
    cases l with
    | nil => exact List.dropWhile_eq_nil_iff.2 hafter
    | cons c l => exact List.dropWhile_cons_of_neg (by simp [hhead c rfl])
  rw [trim, hstart]
  split
  · next hl => exact hl.symm
  · exact trimEnd_append hafter hlast

theorem trim_append_of_blank (cs : List Char) (h : Blank blanks) :
    trim (cs ++ blanks) = trim cs := by
  obtain ⟨before, after, hbefore, hafter, hcs⟩ := exists_blank_append_trim cs
  calc trim (cs ++ blanks)
      = trim (before ++ trim cs ++ (after ++ blanks)) := by rw [← List.append_assoc, ← hcs]
    _ = trim cs := trim_eq hbefore (hafter.append h) (fun _ => not_isBlank_of_mem_head?_trim cs)
        fun _ => not_isBlank_of_mem_getLast?_trim cs

theorem trim_blank_append (h : Blank blanks) (cs : List Char) :
    trim (blanks ++ cs) = trim cs := by
  obtain ⟨before, after, hbefore, hafter, hcs⟩ := exists_blank_append_trim cs
  calc trim (blanks ++ cs)
      = trim (blanks ++ before ++ trim cs ++ after) := by
        rw [List.append_assoc, List.append_assoc, ← List.append_assoc before, ← hcs]
    _ = trim cs := trim_eq (h.append hbefore) hafter (fun _ => not_isBlank_of_mem_head?_trim cs)
        fun _ => not_isBlank_of_mem_getLast?_trim cs

theorem trim_trim (cs : List Char) : trim (trim cs) = trim cs := by
  have hnil : Blank [] := List.forall_mem_nil _
  have h := trim_eq hnil hnil (fun _ => not_isBlank_of_mem_head?_trim cs)
    fun _ => not_isBlank_of_mem_getLast?_trim cs
  rwa [List.nil_append, List.append_nil] at h

theorem trim_dropReturn (cs : List Char) : trim (dropReturn cs) = trim cs := by
  unfold dropReturn
  split
  · next r hr =>
    have hreturn : Blank ['\r'] := List.forall_mem_singleton.2 (by decide)
    have hcs : cs = r.reverse ++ ['\r'] := by rw [← List.reverse_reverse cs, hr, List.reverse_cons]
    rw [hcs, trim_append_of_blank _ hreturn]
  · rfl

/-- Nothing but blanks can stand in front of a text that is what trimming leaves of both. -/
theorem blank_of_trim_append (h : trim (l ++ cs) = cs) : Blank l := by
  have hblank {blanks : List Char} (h : Blank blanks) : blanks.countP (!isBlank ·) = 0 :=
    List.countP_eq_zero.2 fun c hc => by simp [h c hc]
  obtain ⟨before, after, hbefore, hafter, heq⟩ := exists_blank_append_trim (l ++ cs)
  have hcount := congrArg (List.countP (!isBlank ·)) heq
  rw [h, List.countP_append, List.countP_append, List.countP_append, hblank hbefore,
    hblank hafter] at hcount
  have hl : l.countP (!isBlank ·) = 0 := by omega
  simpa [Blank] using List.countP_eq_zero.1 hl

end ChassisAdmin.Text
