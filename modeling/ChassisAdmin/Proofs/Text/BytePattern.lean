import ChassisAdmin.Proofs.Text.Boundary
import ChassisAdmin.Proofs.Text.Glob

/-!
# Patterns over bytes

Servers match keys byte by byte.  In the bytes of a plain pattern a star stands
for any run of bytes and a question mark for any one byte, which need not be a
whole character.

`stands_iff_isMatch` says where that is what this library matches.  Stars do not
matter: what follows a star can be moved on to where a character begins
(`exists_boundary`).  A question mark matters unless the characters of the text
are one byte each.
-/

namespace ChassisAdmin.Text.Glob

open Utf8 (Boundary)

/-- The bytes that one byte of a plain pattern stands for. -/
def Covers (p : UInt8) (piece : List UInt8) : Prop :=
  if p = '*'.toUInt8 then True else if p = '?'.toUInt8 then ∃ b, piece = [b] else piece = [p]

/-- A pattern without classes of characters and without escapes. -/
def Plain (pattern : String) : Prop :=
  ∀ c ∈ pattern.toList, c ≠ '[' ∧ c ≠ ']' ∧ c ≠ '\\'

/-- A plain pattern stands for a text: its bytes cover those of the text piece by piece. -/
def Stands (pattern text : String) : Prop :=
  Cut Covers (Utf8.encode pattern) (Utf8.encode text)

variable {p : Char} {pattern text : List Char} {ps bytes : List UInt8}

/-! ## Single characters of a pattern -/

/-- All but the star stand for one byte. -/
theorem covers_iff_of_ne_star {p : UInt8} {piece : List UInt8} (h : p ≠ '*'.toUInt8) :
    Covers p piece ↔ ∃ b, piece = [b] ∧ (p = '?'.toUInt8 ∨ p = b) := by
  rw [Covers, if_neg h]
  by_cases hq : p = '?'.toUInt8
  · simp only [hq, if_true, true_or, and_true]
  · simp only [hq, if_false, false_or, exists_eq_right']

theorem cut_star_iff : Cut Covers (String.utf8EncodeChar '*' ++ ps) bytes ↔
    ∃ piece rest, bytes = piece ++ rest ∧ Cut Covers ps rest := by
  rw [Utf8.utf8EncodeChar_ascii (by decide), List.singleton_append, cut_cons_iff]
  simp only [Covers, if_true, true_and]

theorem cut_question_iff : Cut Covers (String.utf8EncodeChar '?' ++ ps) bytes ↔
    ∃ b rest, bytes = b :: rest ∧ Cut Covers ps rest := by
  have hne : '?'.toUInt8 ≠ '*'.toUInt8 := by decide
  rw [Utf8.utf8EncodeChar_ascii (by decide), List.singleton_append, cut_cons_iff]
  simp only [Covers, if_neg hne, if_true]
  constructor
  · rintro ⟨_, rest, rfl, ⟨b, rfl⟩, hrest⟩
    exact ⟨b, rest, rfl, hrest⟩
  · rintro ⟨b, rest, rfl, hrest⟩
    exact ⟨[b], rest, rfl, ⟨b, rfl⟩, hrest⟩

/-- Every other character stands for its own bytes. -/
theorem cut_other_iff (hstar : p ≠ '*') (hq : p ≠ '?') :
    Cut Covers (String.utf8EncodeChar p ++ ps) bytes ↔
      ∃ rest, bytes = String.utf8EncodeChar p ++ rest ∧ Cut Covers ps rest := by
  refine cut_literal_append_iff fun b hb piece => ?_
  have hbstar : b ≠ '*'.toUInt8 := by
    rintro rfl
    exact hstar (Utf8.eq_of_mem_utf8EncodeChar (by decide) hb)
  have hbq : b ≠ '?'.toUInt8 := by
    rintro rfl
    exact hq (Utf8.eq_of_mem_utf8EncodeChar (by decide) hb)
  rw [Covers, if_neg hbstar, if_neg hbq]

/-! ## Characters against texts -/

/-- Bytes that a pattern without question marks covers, it covers from the next boundary on: it
begins with a character of its own, or with a star that takes what is before the boundary. -/
theorem exists_boundary (hq : '?' ∉ pattern)
    (h : Cut Covers (pattern.flatMap String.utf8EncodeChar) bytes) :
    ∃ piece rest, bytes = piece ++ rest ∧ Boundary rest ∧
      Cut Covers (pattern.flatMap String.utf8EncodeChar) rest := by
  induction pattern generalizing bytes with
  | nil => exact ⟨[], bytes, rfl, cut_nil_iff.1 h ▸ Utf8.boundary_nil, h⟩
  | cons p pattern ih =>
    obtain ⟨hp, hpattern⟩ := not_or.1 (mt List.mem_cons.2 hq)
    by_cases hstar : p = '*'
    · subst hstar
      obtain ⟨piece, _, rfl, hrest⟩ := cut_star_iff.1 h
      obtain ⟨piece', rest, rfl, hboundary, hcut⟩ := ih hpattern hrest
      exact ⟨piece ++ piece', rest, (List.append_assoc ..).symm, hboundary,
        cut_star_iff.2 ⟨[], rest, rfl, hcut⟩⟩
    · obtain ⟨rest, rfl, -⟩ := (cut_other_iff hstar (Ne.symm hp)).1 h
      exact ⟨[], _, rfl, Utf8.boundary_utf8EncodeChar_append p rest, h⟩

theorem cut_star_text_iff (h : '?' ∉ pattern ∨ ∀ c ∈ text, c.toNat < 128) :
    Cut Covers (String.utf8EncodeChar '*' ++ pattern.flatMap String.utf8EncodeChar)
        (text.flatMap String.utf8EncodeChar) ↔
      ∃ cs₁ cs₂, text = cs₁ ++ cs₂ ∧ Cut Covers (pattern.flatMap String.utf8EncodeChar)
        (cs₂.flatMap String.utf8EncodeChar) := by
  rw [cut_star_iff]
  constructor
  · rintro ⟨piece, rest, htext, hrest⟩
    have hmoved : ∃ piece' rest', text.flatMap String.utf8EncodeChar = piece' ++ rest' ∧
        Boundary rest' ∧ Cut Covers (pattern.flatMap String.utf8EncodeChar) rest' := by
      rcases h with hq | hascii
      · obtain ⟨piece', rest', rfl, hboundary, hcut⟩ := exists_boundary hq hrest
        exact ⟨piece ++ piece', rest', htext.trans (List.append_assoc ..).symm, hboundary, hcut⟩
      · exact ⟨piece, rest, htext, Utf8.boundary_of_ascii hascii htext, hrest⟩
    obtain ⟨piece', rest', htext', hboundary, hcut⟩ := hmoved
    obtain ⟨cs₁, cs₂, rfl, rfl⟩ := Utf8.exists_eq_append_of_boundary htext' hboundary
    exact ⟨cs₁, cs₂, rfl, hcut⟩
  · rintro ⟨cs₁, cs₂, rfl, hcut⟩
    exact ⟨_, _, List.flatMap_append, hcut⟩

theorem cut_question_text_iff (h : ∀ c ∈ text, c.toNat < 128) :
    Cut Covers (String.utf8EncodeChar '?' ++ ps) (text.flatMap String.utf8EncodeChar) ↔
      ∃ c cs, text = c :: cs ∧ Cut Covers ps (cs.flatMap String.utf8EncodeChar) := by
  rw [cut_question_iff]
  cases text with
  | nil => simp
  | cons c cs =>
    rw [List.flatMap_cons, Utf8.utf8EncodeChar_ascii (h c List.mem_cons_self)]
    simp

theorem cut_other_text_iff (hstar : p ≠ '*') (hq : p ≠ '?') :
    Cut Covers (String.utf8EncodeChar p ++ ps) (text.flatMap String.utf8EncodeChar) ↔
      ∃ cs, text = p :: cs ∧ Cut Covers ps (cs.flatMap String.utf8EncodeChar) := by
  rw [cut_other_iff hstar hq]
  cases text with
  | nil =>
    simp [String.utf8EncodeChar_ne_nil]
  | cons c cs =>
    simp only [List.flatMap_cons, Utf8.utf8EncodeChar_append_inj, List.cons.injEq]
    constructor
    · rintro ⟨_, ⟨rfl, rfl⟩, hcut⟩
      exact ⟨cs, ⟨rfl, rfl⟩, hcut⟩
    · rintro ⟨_, ⟨rfl, rfl⟩, hcut⟩
      exact ⟨_, ⟨rfl, rfl⟩, hcut⟩

/-! ## Bytes and characters -/

theorem cut_covers_iff_takes (hfeed : '\n' ∉ text)
    (h : '?' ∉ pattern ∨ ∀ c ∈ text, c.toNat < 128) :
    Cut Covers (pattern.flatMap String.utf8EncodeChar) (text.flatMap String.utf8EncodeChar) ↔
      Cut Takes pattern text := by
  induction pattern generalizing text with
  | nil =>
    rw [List.flatMap_nil, cut_nil_iff, cut_nil_iff, List.flatMap_eq_nil_iff,
      List.eq_nil_iff_forall_not_mem]
    simp only [String.utf8EncodeChar_ne_nil, imp_false]
  | cons p pattern ih =>
    have ihrest : ∀ cs₁ {cs₂}, text = cs₁ ++ cs₂ →
        (Cut Covers (pattern.flatMap String.utf8EncodeChar)
          (cs₂.flatMap String.utf8EncodeChar) ↔ Cut Takes pattern cs₂) := by
      rintro cs₁ cs₂ rfl
      exact ih (fun hmem => hfeed (List.mem_append_right cs₁ hmem))
        (h.imp (mt (List.mem_cons_of_mem p)) fun hascii c hc =>
          hascii c (List.mem_append_right cs₁ hc))
    rw [List.flatMap_cons, cut_cons_iff]
    by_cases hstar : p = '*'
    · subst hstar
      rw [cut_star_text_iff (h.imp_left (mt (List.mem_cons_of_mem _)))]
      refine exists_congr fun cs₁ => exists_congr fun cs₂ => and_congr_right fun htext => ?_
      have htakes : Takes '*' cs₁ := fun hmem => hfeed (htext ▸ List.mem_append_left cs₂ hmem)
      rw [ihrest cs₁ htext]
      exact (and_iff_right htakes).symm
    by_cases hq : p = '?'
    · subst hq
      have hascii := h.resolve_left (not_not_intro List.mem_cons_self)
      rw [cut_question_text_iff hascii]
      constructor
      · rintro ⟨c, cs, rfl, hcut⟩
        have hc : c ≠ '\n' := fun hc => hfeed (hc ▸ List.mem_cons_self)
        exact ⟨[c], cs, rfl, ⟨c, hc, rfl⟩, (ihrest [c] rfl).1 hcut⟩
      · rintro ⟨_, cs, rfl, ⟨c, -, rfl⟩, hcut⟩
        exact ⟨c, cs, rfl, (ihrest [c] rfl).2 hcut⟩
    · rw [cut_other_text_iff hstar hq]
      constructor
      · rintro ⟨cs, rfl, hcut⟩
        exact ⟨[p], cs, rfl, (takes_other_iff hstar hq).2 rfl, (ihrest [p] rfl).1 hcut⟩
      · rintro ⟨piece, cs, rfl, htakes, hcut⟩
        obtain rfl := (takes_other_iff hstar hq).1 htakes
        exact ⟨cs, rfl, (ihrest [p] rfl).2 hcut⟩

/-- On a text without a line feed a pattern stands for what it matches, if it has no question mark
or the text is ASCII. -/
theorem stands_iff_isMatch {pattern text : String} (hfeed : '\n' ∉ text.toList)
    (h : '?' ∉ pattern.toList ∨ Ascii text) :
    Stands pattern text ↔ isMatch pattern text = true := by
  rw [Stands, Utf8.encode_eq_flatMap, Utf8.encode_eq_flatMap, cut_covers_iff_takes hfeed h,
    isMatch_iff, Cut]

end ChassisAdmin.Text.Glob
