import ChassisAdmin.Proofs.Text.ByteOrder
import Mathlib.Data.Char

/-!
# Where characters begin

The bytes of a text tell where its characters begin.  No character's bytes begin
those of another (`utf8EncodeChar_append_inj`), and the first byte of a character
differs from all its others.  So a text that is cut in front of such a byte is
cut between two characters (`exists_eq_append_of_boundary`).

Characters below 128 are one byte each, and a text of them can be cut anywhere.
-/

namespace ChassisAdmin.Text

/-- A text whose characters are one byte each. -/
def Ascii (s : String) : Prop := ∀ c ∈ s.toList, c.toNat < 128

instance : DecidablePred Ascii :=
  fun s => List.decidableBAll (fun c : Char => c.toNat < 128) s.toList

namespace Utf8

variable {c d : Char} {cs : List Char} {b : UInt8} {s t piece rest : List UInt8}

/-! ## Single characters -/

theorem utf8EncodeChar_append_inj :
    String.utf8EncodeChar c ++ s = String.utf8EncodeChar d ++ t ↔ c = d ∧ s = t := by
  constructor
  · intro h
    rcases lt_trichotomy c d with hcd | rfl | hcd
    · exact absurd (h ▸ utf8EncodeChar_append_lt hcd s t) (List.lt_irrefl _)
    · exact ⟨rfl, List.append_cancel_left h⟩
    · exact absurd (h ▸ utf8EncodeChar_append_lt hcd t s) (List.lt_irrefl _)
  · rintro ⟨rfl, rfl⟩
    rfl

theorem isUTF8FirstByte_of_eq_cons (h : String.utf8EncodeChar c = b :: s) : b.IsUTF8FirstByte := by
  simpa [h] using UInt8.isUTF8FirstByte_getElem_zero_utf8EncodeChar (c := c)

/-- A byte of a character that can begin one stands at its front. -/
theorem eq_nil_of_utf8EncodeChar_eq (h : String.utf8EncodeChar c = s ++ b :: t)
    (hb : b.IsUTF8FirstByte) : s = [] := by
  have hlt : s.length < (String.utf8EncodeChar c).length := by simp [h]
  have hget : (String.utf8EncodeChar c)[s.length] = b := by simp [h]
  exact List.eq_nil_of_length_eq_zero
    (UInt8.isUTF8FirstByte_getElem_utf8EncodeChar.1 (hget.symm ▸ hb))

theorem utf8EncodeChar_ascii (h : c.toNat < 128) : String.utf8EncodeChar c = [c.toUInt8] :=
  String.utf8EncodeChar_eq_singleton (Char.utf8Size_eq_one_iff.2 (Nat.le_of_lt_succ h))

/-- The byte of a character below 128 is in no other character. -/
theorem eq_of_mem_utf8EncodeChar (hd : d.toNat < 128)
    (hmem : d.toUInt8 ∈ String.utf8EncodeChar c) : c = d := by
  obtain ⟨s, t, hst⟩ := List.append_of_mem hmem
  obtain rfl := eq_nil_of_utf8EncodeChar_eq hst
    (isUTF8FirstByte_of_eq_cons (utf8EncodeChar_ascii hd))
  have happend : String.utf8EncodeChar c ++ [] = String.utf8EncodeChar d ++ t := by
    rw [List.append_nil, hst, utf8EncodeChar_ascii hd]
    rfl
  exact (utf8EncodeChar_append_inj.1 happend).1

/-! ## Boundaries -/

/-- Bytes with which a character begins, unless there are none. -/
def Boundary (bytes : List UInt8) : Prop := ∀ b ∈ bytes.head?, b.IsUTF8FirstByte

theorem boundary_nil : Boundary [] := fun _ h => nomatch h

theorem boundary_utf8EncodeChar_append (c : Char) (s : List UInt8) :
    Boundary (String.utf8EncodeChar c ++ s) := by
  obtain ⟨b, bs, hbs⟩ := List.exists_cons_of_ne_nil (String.utf8EncodeChar_ne_nil (c := c))
  rw [hbs]
  exact fun _ h => Option.some.inj h ▸ isUTF8FirstByte_of_eq_cons hbs

theorem boundary_of_ascii (hcs : ∀ c ∈ cs, c.toNat < 128)
    (h : cs.flatMap String.utf8EncodeChar = piece ++ rest) : Boundary rest := by
  intro b hb
  have hmem : b ∈ cs.flatMap String.utf8EncodeChar :=
    h ▸ List.mem_append_right piece (List.mem_of_mem_head? hb)
  obtain ⟨c, hc, hbc⟩ := List.mem_flatMap.1 hmem
  rw [utf8EncodeChar_ascii (hcs c hc), List.mem_singleton] at hbc
  exact hbc ▸ isUTF8FirstByte_of_eq_cons (utf8EncodeChar_ascii (hcs c hc))

/-- At a boundary a text is cut between two of its characters. -/
theorem exists_eq_append_of_boundary (h : cs.flatMap String.utf8EncodeChar = piece ++ rest)
    (hrest : Boundary rest) :
    ∃ cs₁ cs₂, cs = cs₁ ++ cs₂ ∧ rest = cs₂.flatMap String.utf8EncodeChar := by
  induction cs generalizing piece with
  | nil => exact ⟨[], [], rfl, (List.append_eq_nil_iff.1 h.symm).2⟩
  | cons c cs ih =>
    cases piece with
    | nil => exact ⟨[], c :: cs, rfl, h.symm⟩
    | cons p piece =>
      rw [List.flatMap_cons, List.append_eq_append_iff] at h
      rcases h with ⟨piece', hpiece, hcs⟩ | ⟨bytes, hc, hbytes⟩
      · obtain ⟨cs₁, cs₂, rfl, hcs₂⟩ := ih hcs
        exact ⟨c :: cs₁, cs₂, rfl, hcs₂⟩
      · cases bytes with
        | nil => exact ⟨[c], cs, rfl, hbytes⟩
        | cons b bytes =>
          -- The cut would be within the character, in front of a byte that begins none.
          have hb : b.IsUTF8FirstByte := hrest b (hbytes ▸ rfl)
          exact absurd (eq_nil_of_utf8EncodeChar_eq hc hb) (List.cons_ne_nil p piece)

end Utf8

end ChassisAdmin.Text
