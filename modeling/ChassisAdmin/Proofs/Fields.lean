import ChassisAdmin.Fields
import ChassisAdmin.Keyed
import Mathlib.Data.List.Nodup

/-!
# Field lists up to order

Two field lists with distinct names are the same record when one is a
rearrangement of the other.  `Same` says so, and `same_iff_get?` that this is all
that reading single fields can tell.  `Same.set` and `Same.erase` carry it
through changes.

A finite map of fields is such a record in ascending order.  `same_ofList` says
that putting fields with distinct names into a map loses nothing but their order.
-/

namespace ChassisAdmin

theorem Keyed.nodup_keys {α : Type} (m : Keyed α) : m.keys.Nodup := by
  rw [keys, List.Nodup, List.pairwise_map]
  exact m.ascending.imp fun {a b} hab => String.ne_of_lt hab

namespace Fields

variable {l l' : Fields}

/-- Two field lists have the same fields, each name once. -/
structure Same (l l' : Fields) : Prop where
  nodup : l.names.Nodup
  perm : l.Perm l'

theorem get?_eq_some_iff (h : l.names.Nodup) {f v : String} :
    l.get? f = some v ↔ (f, v) ∈ l := by
  induction l with
  | nil => simp
  | cons e l ih =>
    obtain ⟨he, hl⟩ := List.nodup_cons.1 h
    rw [get?_cons, List.mem_cons]
    split
    · next hf =>
      have hv : (f, v) ∉ l := fun hv => he (List.mem_map.2 ⟨(f, v), hv, hf.symm⟩)
      rw [or_iff_left hv, Prod.ext_iff, Option.some.injEq]
      exact ⟨fun h => ⟨hf.symm, h.symm⟩, fun h => h.2.symm⟩
    · next hf =>
      have hfe : (f, v) ≠ e := fun h => hf (congrArg Prod.fst h.symm)
      rw [or_iff_right hfe, ih hl]

namespace Same

theorem refl (h : l.names.Nodup) : Same l l := ⟨h, .refl l⟩

theorem trans {l'' : Fields} (h : Same l l') (h' : Same l' l'') : Same l l'' :=
  ⟨h.nodup, h.perm.trans h'.perm⟩

theorem nodup' (h : Same l l') : l'.names.Nodup := (h.perm.map _).nodup h.nodup

theorem get? (h : Same l l') (f : String) : l.get? f = l'.get? f :=
  Option.ext fun v => by
    rw [get?_eq_some_iff h.nodup, get?_eq_some_iff h.nodup', h.perm.mem_iff]

end Same

/-- Lists with distinct names are the same record if every field reads alike. -/
theorem same_iff_get? (h : l.names.Nodup) (h' : l'.names.Nodup) :
    Same l l' ↔ ∀ f, l.get? f = l'.get? f := by
  refine ⟨fun hs => hs.get?, fun hs => ⟨h, ?_⟩⟩
  refine (List.perm_ext_iff_of_nodup (.of_map _ h) (.of_map _ h')).2 fun e => ?_
  rw [← get?_eq_some_iff h, ← get?_eq_some_iff h', hs]

namespace Same

theorem set (h : Same l l') (f v : String) : Same (l.set f v) (l'.set f v) := by
  refine (same_iff_get? (nodup_set h.nodup f v) (nodup_set h.nodup' f v)).2 fun g => ?_
  by_cases hg : g = f
  · rw [hg, get?_set_self, get?_set_self]
  · rw [get?_set_of_ne l v hg, get?_set_of_ne l' v hg, h.get?]

theorem erase (h : Same l l') (f : String) : Same (l.erase f) (l'.erase f) := by
  refine (same_iff_get? (nodup_erase h.nodup f) (nodup_erase h.nodup' f)).2 fun g => ?_
  by_cases hg : g = f
  · rw [hg, get?_erase_self h.nodup, get?_erase_self h.nodup']
  · rw [get?_erase_of_ne l hg, get?_erase_of_ne l' hg, h.get?]

end Same

/-! ## Maps of fields -/

/-- Of fields put into a map, those that are put in later are read. -/
theorem get?_foldl_insert (l : Fields) (h : Keyed String) (f : String) (hl : l.names.Nodup) :
    (l.foldl (fun m e => m.insert e.1 e.2) h).get? f = (l.get? f).or (h.get? f) := by
  induction l generalizing h with
  | nil => rfl
  | cons e l ih =>
    obtain ⟨he, hl⟩ := List.nodup_cons.1 hl
    rw [List.foldl_cons, ih _ hl, Keyed.get?_insert, get?_cons]
    split
    · next hf =>
      rw [(get?_eq_none_iff l f).2 (hf ▸ he), Option.none_or, Option.some_or]
    · rfl

/-- Fields with distinct names are the same record in ascending order. -/
theorem same_ofList (hl : l.names.Nodup) : Same l (Keyed.ofList l).toList := by
  refine (same_iff_get? hl (Keyed.nodup_keys _)).2 fun f => ?_
  refine Eq.symm ((get?_foldl_insert l .empty f hl).trans ?_)
  rw [Keyed.get?_empty, Option.or_none]

end Fields

end ChassisAdmin
