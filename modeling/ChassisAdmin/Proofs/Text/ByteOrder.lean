import ChassisAdmin.Text.Utf8
import Mathlib.Tactic.SplitIfs

/-!
# The order of texts and of their bytes

Texts are compared by the code points of their characters.  UTF-8 is made so that
their bytes compare alike, as `encode_lt` says.  It rests on single characters:
of two, the bytes of the lower are below those of the higher, whatever bytes
follow (`utf8EncodeChar_append_lt`).
-/

namespace ChassisAdmin.Text.Utf8

theorem ofNat_lt_iff {a b : Nat} (ha : a < 256) (hb : b < 256) :
    UInt8.ofNat a < UInt8.ofNat b ↔ a < b := by
  rw [UInt8.lt_iff_toNat_lt, UInt8.toNat_ofNat', UInt8.toNat_ofNat', Nat.mod_eq_of_lt ha,
    Nat.mod_eq_of_lt hb]

theorem ofNat_eq_iff {a b : Nat} (ha : a < 256) (hb : b < 256) :
    UInt8.ofNat a = UInt8.ofNat b ↔ a = b := by
  rw [← UInt8.toNat_inj, UInt8.toNat_ofNat', UInt8.toNat_ofNat', Nat.mod_eq_of_lt ha,
    Nat.mod_eq_of_lt hb]

theorem toNat_val_lt (c : Char) : c.val.toNat < 1114112 := by
  have hc := c.valid
  unfold UInt32.isValidChar Nat.isValidChar at hc
  omega

/-- Of two characters the lower has the lower bytes, whatever follows. -/
theorem utf8EncodeChar_append_lt {c d : Char} (h : c < d) (s t : List UInt8) :
    String.utf8EncodeChar c ++ s < String.utf8EncodeChar d ++ t := by
  have huv : c.val.toNat < d.val.toNat := h
  have hu := toNat_val_lt c
  have hv := toNat_val_lt d
  unfold String.utf8EncodeChar
  generalize c.val.toNat = u at *
  generalize d.val.toNat = v at *
  -- Each byte after the first holds one digit to the base 64, the first byte the rest.
  have hone : u / 64 < v / 64 ∨ u / 64 = v / 64 ∧ u % 64 < v % 64 := by omega
  have htwo : u / 4096 < v / 4096 ∨ u / 4096 = v / 4096 ∧ u / 64 % 64 ≤ v / 64 % 64 := by omega
  have hthree : u / 262144 < v / 262144 ∨
      u / 262144 = v / 262144 ∧ u / 4096 % 64 ≤ v / 4096 % 64 := by omega
  have hlead : u / 262144 % 8 = u / 262144 ∧ v / 262144 % 8 = v / 262144 := by omega
  dsimp only
  rw [hlead.1, hlead.2]
  split_ifs <;>
    simp (disch := omega) only [List.cons_append, List.cons_lt_cons_iff, ofNat_lt_iff,
      ofNat_eq_iff] <;>
    omega

theorem encode_eq_flatMap (s : String) : encode s = s.toList.flatMap String.utf8EncodeChar := by
  rw [encode, ← String.utf8Encode_toList, List.utf8Encode]
  simp

theorem flatMap_utf8EncodeChar_lt {a b : List Char} (h : a < b) :
    a.flatMap String.utf8EncodeChar < b.flatMap String.utf8EncodeChar := by
  induction List.lex_lt.2 h with
  | @nil c b =>
    obtain ⟨x, l, hx⟩ := List.exists_cons_of_ne_nil
      (List.append_ne_nil_of_left_ne_nil (String.utf8EncodeChar_ne_nil (c := c))
        (b.flatMap String.utf8EncodeChar))
    rw [List.flatMap_nil, List.flatMap_cons, hx]
    exact List.nil_lt_cons x l
  | rel hcd =>
    rw [List.flatMap_cons, List.flatMap_cons]
    exact utf8EncodeChar_append_lt hcd _ _
  | cons hab ih =>
    rw [List.flatMap_cons, List.flatMap_cons]
    exact List.append_left_lt (ih (List.lex_lt.1 hab))

/-- Texts ascend as their bytes do. -/
theorem encode_lt {a b : String} (h : a < b) : encode a < encode b := by
  rw [encode_eq_flatMap, encode_eq_flatMap]
  exact flatMap_utf8EncodeChar_lt (String.lt_iff.1 h)

end ChassisAdmin.Text.Utf8
