import ChassisAdmin.Proofs.Program
import ChassisAdmin.Proofs.Store.Refusal
import ChassisAdmin.Proofs.Store.Server
import ChassisAdmin.Proofs.Text.ByteOrder

/-!
# The database in memory and the one on a server

The two keep records differently.  In memory a record is a list of fields in the
order they were written, on a server a hash that is read back in ascending order.
`Mirrored` says that both hold the same records up to the order of fields.
`Mirrored.answer` is one step of the simulation: the two answer a call alike and
still mirror each other, if the call is plain.

They differ in what a question mark stands for.  In memory it is one character of
a key, on a server one byte.  So a list of keys is the same where the pattern has
no question mark, or where all keys are ASCII, and has the same ASCII keys
everywhere (`SameKeys`).

Programs that go on with an answer of either are related by `Agree`.  A program
agrees with itself if nothing it does depends on the order of fields, which is
shown by looking at its parts (`agree_bind`).
-/

namespace ChassisAdmin.Store

open Store.Redis (Hash)

/-! ## Keys -/

/-- The keys under which records are written. -/
inductive KeySpace where
  /-- Keys without a line feed. -/
  | any
  /-- Of these the ones of ASCII characters. -/
  | ascii

namespace KeySpace

/-- A key that is in a key space. -/
def Has : KeySpace → String → Prop
  | any, key => '\n' ∉ key.toList
  | ascii, key => '\n' ∉ key.toList ∧ Text.Ascii key

instance : (K : KeySpace) → DecidablePred K.Has
  | any, key => inferInstanceAs (Decidable ('\n' ∉ key.toList))
  | ascii, key => inferInstanceAs (Decidable ('\n' ∉ key.toList ∧ Text.Ascii key))

variable {K : KeySpace} {key : String}

theorem Has.noFeed (h : K.Has key) : '\n' ∉ key.toList := by
  cases K with
  | any => exact h
  | ascii => exact h.1

theorem Has.append {s t : String} (hs : K.Has s) (ht : K.Has t) : K.Has (s ++ t) := by
  have hfeed : '\n' ∉ (s ++ t).toList := by
    rw [String.toList_append, List.mem_append]
    exact not_or.2 ⟨hs.noFeed, ht.noFeed⟩
  cases K with
  | any => exact hfeed
  | ascii =>
    refine ⟨hfeed, fun c hc => ?_⟩
    rw [String.toList_append, List.mem_append] at hc
    exact hc.elim (hs.2 c) (ht.2 c)

end KeySpace

variable {σ α β γ δ : Type} {K : KeySpace} {m : Memory} {hash? : String → Option Hash}

/-! ## Plain calls and like answers -/

/-- A call that means the same to both: it writes fields with distinct names under a key of the key
space, and its pattern is plain. -/
def Call.Plain (K : KeySpace) : Call → Prop
  | getEntry .. | hget .. | delete _ => True
  | setEntry table key fields =>
      K.Has (rawKey table key) ∧ ∀ l, fields = some l → l.names.Nodup
  | keys pattern => Text.Glob.Plain pattern

/-- Texts whose bytes ascend. -/
def Ascending (l : List String) : Prop :=
  l.Pairwise fun a b => Text.Utf8.encode a < Text.Utf8.encode b

/-- The keys that the database in memory and a server list for a pattern. -/
structure SameKeys (K : KeySpace) (pattern : String) (l l' : List String) : Prop where
  ascending : Ascending l
  ascending' : Ascending l'
  ascii : ∀ key, Text.Ascii key → (key ∈ l ↔ key ∈ l')
  eq : '?' ∉ pattern.toList ∨ K = .ascii → l = l'

/-- Answers of the database in memory and of a server that are alike.  Records are up to the order
of their fields, which ascend on a server. -/
def Call.SameValue (K : KeySpace) : (c : Call) → c.Value → c.Value → Prop
  | getEntry .., o, o' => Option.Rel (fun l l' => l.Same l' ∧ Ascending l'.names) o o'
  | keys pattern, l, l' => SameKeys K pattern l l'
  | setEntry .., a, a' | hget .., a, a' | delete _, a, a' => a = a'

theorem ascending_of_lt {l : List String} (h : l.Pairwise (· < ·)) : Ascending l :=
  h.imp Text.Utf8.encode_lt

theorem ascending_keys {α : Type} (m : Keyed α) : m.keys.Pairwise (· < ·) :=
  List.pairwise_map.2 m.ascending

/-- A server's keys, once they are sorted, ascend. -/
theorem pairwise_lt_mergeSort {l : List String} (hl : l.Nodup) :
    (l.mergeSort fun a b => decide (a ≤ b)).Pairwise (· < ·) := by
  have hle : (l.mergeSort fun a b => decide (a ≤ b)).Pairwise (· ≤ ·) := by
    refine (List.pairwise_mergeSort (fun a b c => ?_) (fun a b => ?_) l).imp of_decide_eq_true
    · simpa using String.le_trans
    · simpa using String.le_total a b
  have hnodup := (List.mergeSort_perm l fun a b => decide (a ≤ b)).nodup_iff.2 hl
  refine (hle.and hnodup).imp fun ⟨hab, hne⟩ => ?_
  exact Decidable.not_not.1 fun hlt => hne (String.le_antisymm hab (String.not_lt.1 hlt))

/-! ## The same records -/

/-- A hash with the fields of a record, of which there are some. -/
structure Holds (l : Fields) (h : Hash) : Prop where
  nonempty : l ≠ []
  same : l.Same h.toList

/-- A database in memory and hashes that have the same records, under keys of a key space. -/
structure Mirrored (K : KeySpace) (m : Memory) (hash? : String → Option Hash) : Prop where
  record : ∀ k, Option.Rel Holds (m.records.get? k) (hash? k)
  has : ∀ k, (hash? k).isSome = true → K.Has k

theorem mirrored_empty : Mirrored K Memory.empty fun _ => none :=
  ⟨fun _ => .none, fun _ h => nomatch h⟩

theorem isSome_eq {o : Option Fields} {o' : Option Hash} (h : Option.Rel Holds o o') :
    o'.isSome = o.isSome := by
  cases h <;> rfl

/-- What is read of a record, and of the hash that holds it. -/
theorem rel_entry {o : Option Fields} {o' : Option Hash} (h : Option.Rel Holds o o') :
    Option.Rel (fun l l' => l.Same l' ∧ Ascending l'.names) (o.bind Memory.nonempty)
      (Redis.fieldsOf (o'.getD .empty)) := by
  cases h with
  | none => exact .none
  | @some l h hl =>
    have hne : h.toList ≠ [] := fun hnil => hl.nonempty (hnil ▸ hl.same.perm).eq_nil
    rw [Option.bind_some, Memory.nonempty_of_ne_nil hl.nonempty, Option.getD_some, Redis.fieldsOf,
      if_neg (by simpa using hne)]
    exact .some ⟨hl.same, ascending_of_lt (ascending_keys h)⟩

theorem bind_get?_eq {o : Option Fields} {o' : Option Hash} (h : Option.Rel Holds o o')
    (f : String) : o.bind (·.get? f) = o'.bind (·.get? f) := by
  cases h with
  | none => rfl
  | some h => exact h.same.get? f

/-- What writing the same fields leaves. -/
theorem rel_written {fields fields' : Option Fields} (h : Option.Rel Fields.Same fields fields') :
    Option.Rel Holds (fields.bind Memory.nonempty)
      (if (fields'.getD []).isEmpty then none else some (Keyed.ofList (fields'.getD []))) := by
  cases h with
  | none => exact .none
  | @some l l' h =>
    cases l' with
    | nil =>
      obtain rfl := h.perm.eq_nil
      exact .none
    | cons e l' =>
      have hne : l ≠ [] := fun hnil => List.cons_ne_nil e l' (hnil ▸ h.perm).symm.eq_nil
      rw [Option.bind_some, Memory.nonempty_of_ne_nil hne]
      exact .some ⟨hne, h.trans (Fields.same_ofList h.nodup')⟩

theorem rel_refl {fields : Option Fields} (h : ∀ l, fields = some l → l.names.Nodup) :
    Option.Rel Fields.Same fields fields := by
  cases fields with
  | none => exact .none
  | some l => exact .some (.refl (h l rfl))

namespace Mirrored

theorem isSome_iff (h : Mirrored K m hash?) (k : String) :
    (hash? k).isSome = true ↔ k ∈ m.records.keys := by
  rw [Keyed.mem_keys_iff, isSome_eq (h.record k)]

/-- Both stay alike where what stands under one key is replaced by the same record. -/
theorem of_update {m' : Memory} {hash?' : String → Option Hash} {raw : String}
    {o : Option Fields} {o' : Option Hash} (h : Mirrored K m hash?) (ho : Option.Rel Holds o o')
    (hraw : o'.isSome = true → K.Has raw)
    (hm : ∀ k, m'.records.get? k = if raw = k then o else m.records.get? k)
    (hh : ∀ k, hash?' k = if raw = k then o' else hash? k) : Mirrored K m' hash?' := by
  refine ⟨fun k => ?_, fun k => ?_⟩
  · rw [hm, hh]
    split
    · exact ho
    · exact h.record k
  · rw [hh]
    split
    · next hk => exact hk ▸ hraw
    · exact h.has k

/-- What a pattern stands for among the keys, and what the database in memory lists for it. -/
theorem stands_iff_mem_matching {pattern key : String} (h : Mirrored K m hash?)
    (hkey : (hash? key).isSome = true → '?' ∉ pattern.toList ∨ Text.Ascii key) :
    (hash? key).isSome = true ∧ Text.Glob.Stands pattern key ↔ key ∈ m.matching pattern := by
  rw [Memory.matching, List.mem_filter, ← h.isSome_iff]
  exact and_congr_right fun hsome =>
    Text.Glob.stands_iff_isMatch (h.has key hsome).noFeed (hkey hsome)

/-- The keys that a server lists, sorted, are those that the database in memory lists. -/
theorem sameKeys {l : List String} {pattern : String} (h : Mirrored K m hash?) (hl : l.Nodup)
    (hmem : ∀ key, key ∈ l ↔ (hash? key).isSome = true ∧ Text.Glob.Stands pattern key) :
    SameKeys K pattern (m.matching pattern) (l.mergeSort fun a b => decide (a ≤ b)) := by
  have hmatching : (m.matching pattern).Pairwise (· < ·) :=
    (ascending_keys m.records).sublist List.filter_sublist
  have hnodup : (l.mergeSort fun a b => decide (a ≤ b)).Nodup :=
    (List.mergeSort_perm l _).nodup_iff.2 hl
  have hsorted := pairwise_lt_mergeSort hl
  have hiff : ∀ key,
      ((hash? key).isSome = true → '?' ∉ pattern.toList ∨ Text.Ascii key) →
        (key ∈ m.matching pattern ↔ key ∈ l.mergeSort fun a b => decide (a ≤ b)) := by
    intro key hkey
    rw [List.mem_mergeSort, hmem, h.stands_iff_mem_matching hkey]
  refine ⟨ascending_of_lt hmatching, ascending_of_lt hsorted,
    fun key hkey => hiff key fun _ => .inr hkey, fun hK => ?_⟩
  -- Both lists are sorted and have no key twice, so it is enough that they have the same keys.
  have hkeys : (m.matching pattern).Perm (l.mergeSort fun a b => decide (a ≤ b)) := by
    refine (List.perm_ext_iff_of_nodup (m.records.nodup_keys.filter _) hnodup).2 fun key =>
      hiff key fun hsome => hK.imp_right ?_
    rintro rfl
    exact (h.has key hsome).2
  exact hkeys.eq_of_pairwise (fun a b _ _ hab hba => absurd hab (String.lt_asymm hba)) hmatching
    hsorted

end Mirrored

/-! ## One call -/

variable {S : Server σ} {s : σ}

/-- The two are alike after the same fields are written to them. -/
theorem Mirrored.setEntry {table key : String} {fields fields' : Option Fields}
    (h : Mirrored K m (S.hash? s)) (hS : S.Usual) (hraw : K.Has (rawKey table key))
    (hf : Option.Rel Fields.Same fields fields') :
    (S.answer (.setEntry table key fields') s).1 = .ok () ∧
      Mirrored K (m.put table key fields)
        (S.hash? (S.answer (.setEntry table key fields') s).2) := by
  refine ⟨?_, ?_⟩
  · change Redis.failed _ (S.reply (.replace (rawKey table key) (fields'.getD [])) s).1 = _
    rw [hS.replace]
    rfl
  · exact h.of_update (rel_written hf) (fun _ => hraw) (Memory.get?_put m table key fields)
      fun k => congrFun (hS.after (.replace (rawKey table key) (fields'.getD [])) s) k

/-- The two answer a plain call alike, and are alike after it. -/
theorem Mirrored.answer {c : Call} (h : Mirrored K m (S.hash? s)) (hS : S.Usual)
    (hc : c.Plain K) :
    (∃ a a', (Memory.answer c m).1 = .ok a ∧ (S.answer c s).1 = .ok a' ∧ c.SameValue K a a') ∧
      Mirrored K (Memory.answer c m).2 (S.hash? (S.answer c s).2) := by
  have hafter : ∀ q, S.hash? (S.reply q s).2 = q.after (S.hash? s) := fun q => hS.after q s
  cases c with
  | getEntry table key =>
    refine ⟨⟨_, _, rfl, ?_, rel_entry (h.record (rawKey table key))⟩, ?_⟩
    · change (Redis.failed _ (S.reply (.hgetall (rawKey table key)) s).1).map Redis.fieldsOf = _
      rw [hS.hgetall]
      rfl
    · change Mirrored K m (S.hash? (S.reply (.hgetall (rawKey table key)) s).2)
      rw [hafter]
      exact h
  | setEntry table key fields =>
    obtain ⟨hanswer, hafter⟩ := h.setEntry hS hc.1 (rel_refl hc.2)
    exact ⟨⟨(), (), rfl, hanswer, rfl⟩, hafter⟩
  | keys pattern =>
    obtain ⟨l, hl, hnodup, hmem⟩ := hS.keys pattern s hc
    refine ⟨⟨_, _, rfl, ?_, h.sameKeys hnodup hmem⟩, ?_⟩
    · change (Redis.failed _ (S.reply (.keys pattern) s).1).map _ = _
      rw [hl]
      rfl
    · change Mirrored K m (S.hash? (S.reply (.keys pattern) s).2)
      rw [hafter]
      exact h
  | hget key field =>
    refine ⟨⟨_, _, rfl, ?_, bind_get?_eq (h.record key) field⟩, ?_⟩
    · change Redis.failed _ (S.reply (.hget key field) s).1 = _
      rw [hS.hget]
      rfl
    · change Mirrored K m (S.hash? (S.reply (.hget key field) s).2)
      rw [hafter]
      exact h
  | delete key =>
    refine ⟨⟨(), (), rfl, ?_, rfl⟩, ?_⟩
    · change Redis.failed _ (S.reply (.del key) s).1 = _
      rw [hS.del]
      rfl
    · refine h.of_update .none (fun hsome => nomatch hsome)
        (Keyed.get?_erase m.records key) fun k => ?_
      exact congrFun (hafter (.del key)) k

example :
    (Memory.empty.put "T" "k" (some [("b", "2"), ("a", "1")])).entry "T" "k" =
        some [("b", "2"), ("a", "1")] ∧
      (Server.simulated.answer (.getEntry "T" "k") (Server.simulated.answer
          (.setEntry "T" "k" (some [("b", "2"), ("a", "1")])) .empty).2).1 =
        .ok (some [("a", "1"), ("b", "2")]) := ⟨rfl, rfl⟩

/-! ## Programs -/

/-- Runs a program on the database of a server. -/
def Client.onServer (S : Server σ) (p : Client α) (s : σ) : Except SystemError α × σ :=
  Attempt.runWith S.answer p s

/-- Two programs, one on the database in memory and one on a server, end with related values and
leave the two alike, wherever they start alike. -/
def Agree (K : KeySpace) (S : Server σ) (R : α → β → Prop) (p : Client α) (q : Client β) : Prop :=
  ∀ ⦃m : Memory⦄ ⦃s : σ⦄, Mirrored K m (S.hash? s) →
    ∃ a b m' s', p.onMemory m = (.ok a, m') ∧ q.onServer S s = (.ok b, s') ∧ R a b ∧
      Mirrored K m' (S.hash? s')

section Agree

variable {R : α → β → Prop} {T : γ → δ → Prop}

theorem agree_pure {a : α} {b : β} (h : R a b) : Agree K S R (pure a) (pure b) :=
  fun m s hm => ⟨a, b, m, s, rfl, rfl, h, hm⟩

theorem agree_bind {p : Client α} {q : Client β} {f : α → Client γ} {g : β → Client δ}
    (hp : Agree K S R p q) (hf : ∀ a b, R a b → Agree K S T (f a) (g b)) :
    Agree K S T (p >>= f) (q >>= g) := by
  intro m s hm
  obtain ⟨a, b, m₁, s₁, hpm, hqs, hab, hm₁⟩ := hp hm
  obtain ⟨c, d, m₂, s₂, hfm, hgs, hcd, hm₂⟩ := hf a b hab hm₁
  exact ⟨c, d, m₂, s₂, (Attempt.runWith_bind_ok hpm f).trans hfm,
    (Attempt.runWith_bind_ok hqs g).trans hgs, hcd, hm₂⟩

theorem agree_ite {c : Prop} [Decidable c] {p p' : Client α} {q q' : Client β}
    (h : Agree K S R p q) (h' : Agree K S R p' q') :
    Agree K S R (if c then p else p') (if c then q else q') := by
  split
  · exact h
  · exact h'

/-- A single call, if it is plain. -/
theorem agree_request {c : Call} (hS : S.Usual) (hc : c.Plain K) :
    Agree K S (c.SameValue K) (Attempt.request c id) (Attempt.request c id) := by
  intro m s hm
  obtain ⟨⟨a, b, ha, hb, hab⟩, hm'⟩ := hm.answer hS hc
  exact ⟨a, b, _, _, Prod.ext ha rfl, Prod.ext hb rfl, hab, hm'⟩

/-- Listing keys with a pattern that has no question mark. -/
theorem agree_keys (hS : S.Usual) {pattern : String} (hp : Text.Glob.Plain pattern)
    (hq : '?' ∉ pattern.toList) : Agree K S Eq (keys pattern) (keys pattern) := by
  intro m s hm
  obtain ⟨l, l', m', s', hlm, hls, hl, hm'⟩ := agree_request (c := .keys pattern) hS hp hm
  exact ⟨l, l', m', s', hlm, hls, hl.eq (.inl hq), hm'⟩

theorem agree_setEntry {table key : String} {fields fields' : Option Fields} (hS : S.Usual)
    (hraw : K.Has (rawKey table key)) (hf : Option.Rel Fields.Same fields fields') :
    Agree K S Eq (setEntry table key fields) (setEntry table key fields') := by
  intro m s hm
  obtain ⟨hanswer, hafter⟩ := hm.setEntry hS hraw hf
  exact ⟨(), (), _, _, rfl, Prod.ext hanswer rfl, rfl, hafter⟩

end Agree

end ChassisAdmin.Store
