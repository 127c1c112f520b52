import ChassisAdmin.Proofs.Text.Trimmed

/-!
# Entries of a file

A line with an equals sign is an entry.  Its key is what stands before the first
equals sign, without the blanks around it, and its value is what stands after it
(`splitOnce_eq_some_iff`).  A line that is trimmed before it is divided has the
same key, and a value without the blanks at its end (`splitOnce_trim`).  These
do not matter where the value is a list of trimmed items (`map_trim_pieces`).

A word without blanks that occurs in a line occurs in it trimmed as well
(`occursIn_trim`).
-/

namespace ChassisAdmin.Text

variable {sep : Char} {a b cs part : List Char}

/-! ## The first separator -/

theorem splitOnce_eq_some_iff :
    splitOnce sep cs = some (a, b) ↔ cs = a ++ sep :: b ∧ sep ∉ a := by
  induction cs generalizing a with
  | nil => simp [splitOnce]
  | cons c cs ih =>
    unfold splitOnce
    by_cases hc : c = sep
    · cases a with
      | nil => simp [hc]
      | cons d a =>
        simp only [hc, if_true, List.cons_append, List.cons.injEq, List.mem_cons, not_or]
        constructor
        · intro h
          cases h
        · rintro ⟨⟨hd, -⟩, hne, -⟩
          exact absurd hd hne
    · rw [if_neg hc, Option.map_eq_some_iff]
      constructor
      · rintro ⟨⟨a, b⟩, h, ⟨⟩⟩
        obtain ⟨rfl, ha⟩ := ih.1 h
        exact ⟨rfl, List.not_mem_cons_of_ne_of_not_mem (Ne.symm hc) ha⟩
      · rintro ⟨hcs, ha⟩
        cases a with
        | nil => exact absurd (List.cons.inj hcs).1 hc
        | cons d a =>
          obtain ⟨rfl, rfl⟩ := List.cons.inj hcs
          exact ⟨(a, b), ih.2 ⟨rfl, fun h => ha (List.mem_cons_of_mem _ h)⟩, rfl⟩

theorem splitOnce_eq_none_iff : splitOnce sep cs = none ↔ sep ∉ cs := by
  induction cs with
  | nil => simp [splitOnce]
  | cons c cs ih =>
    unfold splitOnce
    by_cases hc : c = sep
    · simp [hc]
    · rw [if_neg hc, Option.map_eq_none_iff, ih, List.mem_cons, not_or]
      exact (and_iff_right (Ne.symm hc)).symm

/-! ## Trimming around a separator -/

theorem dropWhile_append_cons {p : Char → Bool} {c : Char} (hc : p c = false)
    (l r : List Char) : (l ++ c :: r).dropWhile p = l.dropWhile p ++ c :: r := by
  induction l with
  | nil => exact List.dropWhile_cons_of_neg (by simp [hc])
  | cons d l ih =>
    rw [List.cons_append, List.dropWhile_cons, List.dropWhile_cons]
    split
    · exact ih
    · rfl

theorem trim_append_cons (hsep : isBlank sep = false) (a b : List Char) :
    trim (a ++ sep :: b) = trimStart a ++ sep :: trimEnd b := by
  rw [trim, trimStart, dropWhile_append_cons hsep, ← trimStart, trimEnd, List.reverse_append,
    List.reverse_cons, List.append_assoc, List.singleton_append, dropWhile_append_cons hsep,
    List.reverse_append, List.reverse_cons, List.reverse_reverse, List.append_assoc,
    List.singleton_append, ← trimEnd]

theorem trimStart_subset (cs : List Char) : trimStart cs ⊆ cs :=
  (List.dropWhile_sublist _).subset

/-- A trimmed line is divided at the same separator. -/
theorem splitOnce_trim (hsep : isBlank sep = false) (cs : List Char) :
    splitOnce sep (trim cs) = (splitOnce sep cs).map fun r => (trimStart r.1, trimEnd r.2) := by
  cases h : splitOnce sep cs with
  | none =>
    have hcs := splitOnce_eq_none_iff.1 h
    exact splitOnce_eq_none_iff.2 fun hmem => hcs (trim_subset cs hmem)
  | some r =>
    obtain ⟨rfl, ha⟩ := splitOnce_eq_some_iff.1 h
    exact splitOnce_eq_some_iff.2
      ⟨trim_append_cons hsep r.1 r.2, fun hmem => ha (trimStart_subset _ hmem)⟩

theorem exists_trimEnd_append (cs : List Char) : ∃ after, Blank after ∧ cs = trimEnd cs ++ after := by
  have hafter : Blank (cs.reverse.takeWhile isBlank) := fun c hc => List.mem_takeWhile_imp hc
  refine ⟨_, hafter.reverse, ?_⟩
  rw [trimEnd, ← List.reverse_append, List.takeWhile_append_dropWhile, List.reverse_reverse]

/-- Blanks at the end of a text do not show in its trimmed pieces. -/
theorem map_trim_pieces (hsep : isBlank sep = false) (cs : List Char) :
    (pieces sep (trimEnd cs)).map trim = (pieces sep cs).map trim := by
  obtain ⟨after, hafter, hcs⟩ := exists_trimEnd_append cs
  obtain ⟨front, last, hpieces⟩ := exists_pieces_eq_concat sep (trimEnd cs)
  have hlast : sep ∉ last :=
    not_mem_of_mem_pieces (hpieces ▸ List.mem_append_right front (List.mem_singleton_self last))
  have hwhole : sep ∉ last ++ after := by
    rw [List.mem_append, not_or]
    refine ⟨hlast, fun hmem => ?_⟩
    rw [hafter sep hmem] at hsep
    cases hsep
  have hcut : pieces sep cs = front ++ [last ++ after] := by
    have happend := pieces_append_of_eq hpieces after
    rwa [← hcs, pieces_of_not_mem hwhole] at happend
  simp [hpieces, hcut, trim_append_of_blank last hafter]

/-! ## Words in a line -/

theorem occursIn_iff : occursIn part cs = true ↔ part <:+: cs := by
  induction cs with
  | nil => simp [occursIn]
  | cons c cs ih =>
    rw [occursIn, Bool.or_eq_true, List.isPrefixOf_iff_prefix, ih, List.infix_cons_iff]

theorem infix_of_blank_append (hpart : ∀ c ∈ part, isBlank c = false) {blanks : List Char}
    (hblanks : Blank blanks) (h : part <:+: blanks ++ cs) : part <:+: cs := by
  induction blanks with
  | nil => exact h
  | cons c blanks ih =>
    obtain ⟨hc, hblanks⟩ := List.forall_mem_cons.1 hblanks
    rcases List.infix_cons_iff.1 h with hprefix | h
    · rcases List.prefix_cons_iff.1 hprefix with rfl | ⟨rest, rfl, -⟩
      · exact List.nil_infix
      · rw [hpart c List.mem_cons_self] at hc
        cases hc
    · exact ih hblanks h

theorem infix_of_append_blank (hpart : ∀ c ∈ part, isBlank c = false) {blanks : List Char}
    (hblanks : Blank blanks) (h : part <:+: cs ++ blanks) : part <:+: cs := by
  rw [← List.reverse_infix, List.reverse_append] at h
  exact List.reverse_infix.1
    (infix_of_blank_append (fun c hc => hpart c (List.mem_reverse.1 hc)) hblanks.reverse h)

/-- A word without blanks occurs in a line where it occurs in the trimmed line. -/
theorem occursIn_trim (hpart : ∀ c ∈ part, isBlank c = false) (cs : List Char) :
    occursIn part (trim cs) = occursIn part cs := by
  obtain ⟨before, after, hbefore, hafter, hcs⟩ := exists_blank_append_trim cs
  rw [Bool.eq_iff_iff, occursIn_iff, occursIn_iff]
  constructor
  · intro h
    rw [hcs]
    exact h.trans ⟨before, after, rfl⟩
  · intro h
    rw [hcs] at h
    exact infix_of_blank_append hpart hbefore (infix_of_append_blank hpart hafter h)

/-! ## Keys -/

/-- The key of a line that is an entry. -/
def keyOf (line : List Char) : Option (List Char) := (splitOnce '=' line).map fun r => trim r.1

/-- The key of a line occurs in it. -/
theorem occursIn_of_keyOf {line key : List Char} (h : keyOf line = some key) :
    occursIn key line = true := by
  obtain ⟨⟨a, b⟩, hsplit, rfl⟩ := Option.map_eq_some_iff.1 h
  obtain ⟨rfl, -⟩ := splitOnce_eq_some_iff.1 hsplit
  obtain ⟨before, after, -, -, ha⟩ := exists_blank_append_trim a
  have htrim : trim a <:+: a := ⟨before, after, ha.symm⟩
  exact occursIn_iff.2 (List.infix_append_of_infix_left htrim)

end ChassisAdmin.Text
