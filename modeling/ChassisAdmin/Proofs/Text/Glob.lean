import Mathlib.Data.List.Forall2
import ChassisAdmin.Text.Glob

/-!
# What a glob matches

The matcher keeps the remainders that a pattern can leave of a text.  Seen from
the text, a pattern cuts it into consecutive pieces, one for each of its
characters.  `Takes` says which piece a character can take, and `isMatch_iff`
that a text matches exactly when it can be cut up so, with nothing left over.

`isMatch_append_star_iff` is the case of all table scans: a literal text and a
star after it.
-/

namespace ChassisAdmin.Text.Glob

/-! ## Cutting texts -/

section Cut

variable {α : Type} {takes : α → List α → Prop} {p : α} {lit pattern text : List α}

/-- A text can be cut into pieces that the members of a pattern take, one piece each. -/
def Cut (takes : α → List α → Prop) (pattern text : List α) : Prop :=
  ∃ pieces, List.Forall₂ takes pattern pieces ∧ text = pieces.flatten

theorem cut_nil_iff : Cut takes [] text ↔ text = [] := by
  constructor
  · rintro ⟨pieces, hpieces, rfl⟩
    cases hpieces
    rfl
  · rintro rfl
    exact ⟨[], .nil, rfl⟩

theorem cut_cons_iff : Cut takes (p :: pattern) text ↔
    ∃ piece rest, text = piece ++ rest ∧ takes p piece ∧ Cut takes pattern rest := by
  constructor
  · rintro ⟨_, hpieces, rfl⟩
    cases hpieces with
    | cons hpiece hpieces => exact ⟨_, _, List.flatten_cons, hpiece, _, hpieces, rfl⟩
  · rintro ⟨piece, _, rfl, hpiece, pieces, hpieces, rfl⟩
    exact ⟨piece :: pieces, .cons hpiece hpieces, List.flatten_cons.symm⟩

/-- Members at the front of a pattern that take themselves and nothing else stand at the front of
the text. -/
theorem cut_literal_append_iff (hlit : ∀ c ∈ lit, ∀ piece, takes c piece ↔ piece = [c]) :
    Cut takes (lit ++ pattern) text ↔ ∃ rest, text = lit ++ rest ∧ Cut takes pattern rest := by
  induction lit generalizing text with
  | nil => exact ⟨fun h => ⟨text, rfl, h⟩, fun ⟨_, hrest, h⟩ => hrest ▸ h⟩
  | cons c lit ih =>
    obtain ⟨hc, hlit⟩ := List.forall_mem_cons.1 hlit
    simp only [List.cons_append, cut_cons_iff, hc, ih hlit]
    constructor
    · rintro ⟨_, _, rfl, rfl, rest, rfl, h⟩
      exact ⟨rest, rfl, h⟩
    · rintro ⟨rest, rfl, h⟩
      exact ⟨_, _, rfl, rfl, rest, rfl, h⟩

end Cut

/-! ## What patterns match -/

/-- A piece of a text that one character of a pattern can take. -/
def Takes (p : Char) (piece : List Char) : Prop :=
  if p = '*' then '\n' ∉ piece
  else if p = '?' then ∃ c, c ≠ '\n' ∧ piece = [c]
  else piece = [p]

variable {p : Char} {piece pattern text r : List Char} {texts : List (List Char)}

theorem takes_other_iff (hstar : p ≠ '*') (hq : p ≠ '?') : Takes p piece ↔ piece = [p] := by
  rw [Takes, if_neg hstar, if_neg hq]

theorem mem_remaindersOfRun_iff :
    r ∈ remaindersOfRun text ↔ ∃ piece, text = piece ++ r ∧ '\n' ∉ piece := by
  induction text with
  | nil =>
    simp only [remaindersOfRun, List.mem_singleton]
    constructor
    · rintro rfl
      exact ⟨[], rfl, by simp⟩
    · rintro ⟨piece, h, -⟩
      exact (List.append_eq_nil_iff.1 h.symm).2
  | cons c cs ih =>
    rw [remaindersOfRun, List.mem_cons]
    constructor
    · rintro (rfl | h)
      · exact ⟨[], rfl, by simp⟩
      · split at h
        · cases h
        · next hc =>
          obtain ⟨piece, rfl, hp⟩ := ih.1 h
          exact ⟨c :: piece, rfl, by simpa using ⟨Ne.symm hc, hp⟩⟩
    · rintro ⟨piece, h, hp⟩
      cases piece with
      | nil => exact .inl h.symm
      | cons d piece =>
        obtain ⟨rfl, rfl⟩ := List.cons.inj h
        obtain ⟨hc, hp⟩ := not_or.1 (mt List.mem_cons.2 hp)
        rw [if_neg (Ne.symm hc)]
        exact .inr (ih.2 ⟨piece, rfl, hp⟩)

theorem mem_step_iff : r ∈ step p text ↔ ∃ piece, text = piece ++ r ∧ Takes p piece := by
  unfold step Takes
  by_cases hstar : p = '*'
  · simp only [if_pos hstar]
    exact mem_remaindersOfRun_iff
  simp only [if_neg hstar]
  cases text with
  | nil =>
    simp only [List.not_mem_nil, false_iff]
    rintro ⟨piece, h, hp⟩
    obtain ⟨rfl, rfl⟩ := List.append_eq_nil_iff.1 h.symm
    by_cases hq : p = '?' <;> simp [hq] at hp
  | cons c cs =>
    by_cases hq : p = '?'
    · simp only [if_pos hq]
      constructor
      · intro h
        split at h
        · next hc => exact ⟨[c], by rw [List.mem_singleton.1 h]; rfl, c, hc, rfl⟩
        · cases h
      · rintro ⟨piece, h, d, hd, rfl⟩
        obtain ⟨rfl, rfl⟩ := List.cons.inj h
        simp [hd]
    · simp only [if_neg hq]
      constructor
      · intro h
        split at h
        · next hc => exact ⟨[c], by rw [List.mem_singleton.1 h]; rfl, by rw [hc]⟩
        · cases h
      · rintro ⟨piece, h, rfl⟩
        obtain ⟨rfl, rfl⟩ := List.cons.inj h
        simp

/-- The remainders after a pattern are what is left when its characters have taken a piece each. -/
theorem mem_remainders_iff : r ∈ remainders pattern texts ↔
    ∃ text ∈ texts, ∃ pieces, List.Forall₂ Takes pattern pieces ∧ text = pieces.flatten ++ r := by
  induction pattern generalizing texts with
  | nil =>
    constructor
    · intro h
      exact ⟨r, h, [], .nil, rfl⟩
    · rintro ⟨text, ht, pieces, hp, rfl⟩
      cases hp
      exact ht
  | cons p pattern ih =>
    rw [remainders, List.foldl_cons, ← remainders, ih]
    simp only [List.mem_eraseDups, List.mem_flatMap, mem_step_iff]
    constructor
    · rintro ⟨_, ⟨text, ht, piece, rfl, hpiece⟩, pieces, hp, rfl⟩
      exact ⟨_, ht, piece :: pieces, .cons hpiece hp, by simp⟩
    · rintro ⟨text, ht, pieces, hp, rfl⟩
      cases hp with
      | @cons _ piece _ pieces hpiece hp =>
        exact ⟨_, ⟨_, ht, piece, by simp, hpiece⟩, pieces, hp, rfl⟩

/-- A text matches when it can be cut into pieces, one for each character of the pattern. -/
theorem isMatch_iff {pattern text : String} : isMatch pattern text = true ↔
    ∃ pieces, List.Forall₂ Takes pattern.toList pieces ∧ text.toList = pieces.flatten := by
  rw [isMatch, List.contains_iff_mem, mem_remainders_iff]
  simp only [List.mem_singleton, exists_eq_left, List.append_nil]

/-- A text matches itself, also where it has wildcards. -/
theorem isMatch_self (text : String) : isMatch text text = true := by
  refine isMatch_iff.2 ⟨text.toList.map fun c => [c], ?_, ?_⟩
  · rw [List.forall₂_map_right_iff, List.forall₂_same]
    intro c _
    unfold Takes
    split
    · next h => simp [h]
    · split
      · next h => exact ⟨c, by simp [h], rfl⟩
      · rfl
  · rw [← List.flatMap_def, List.flatMap_singleton']

/-! ## Literal patterns -/

/-- A literal text with a star after it matches what begins with the text and has no line feed
after that. -/
theorem isMatch_append_star_iff {lit text : String} (hlit : ∀ c ∈ lit.toList, c ≠ '*' ∧ c ≠ '?') :
    isMatch (lit ++ "*") text = true ↔
      ∃ rest, text.toList = lit.toList ++ rest ∧ '\n' ∉ rest := by
  have hself : ∀ c ∈ lit.toList, ∀ piece, Takes c piece ↔ piece = [c] :=
    fun c hc _ => takes_other_iff (hlit c hc).1 (hlit c hc).2
  have hstar : "*".toList = ['*'] := rfl
  rw [isMatch_iff, String.toList_append, hstar]
  refine (cut_literal_append_iff hself).trans (exists_congr fun rest => and_congr_right fun _ => ?_)
  constructor
  · rintro ⟨pieces, hp, rfl⟩
    cases hp with
    | cons hpiece hnil =>
      cases hnil
      simpa [Takes] using hpiece
  · intro hrest
    exact ⟨[rest], .cons (by simpa [Takes] using hrest) .nil, by simp⟩

end ChassisAdmin.Text.Glob
