import ChassisAdmin.Proofs.Program
import ChassisAdmin.Proofs.Store.Pool
import Mathlib.Data.List.Nodup

/-!
# Programs confined to one key

A call on a record reads and writes what stands under one raw key and nothing
else.  A program that makes only calls of one key comes to the same end on any
two databases that agree under that key (`run_congr`).

So programs that are confined to different keys do not notice each other, in
whatever order their calls are made.  `Isolated` is the invariant: what is left
of each program ends, on the database as it stands, as the whole of it does
alone.  A program's own move keeps that by what a run is, and a move of another
one leaves the key alone.  `Runs.exists_finished` adds that there is always a
way to the end.
-/

namespace ChassisAdmin.Store

variable {ι α : Type}

/-- The call reads or writes what stands under a raw key, and nothing else. -/
def Call.On (raw : String) : Call → Prop
  | getEntry table key | setEntry table key _ => rawKey table key = raw
  | keys _ => False
  | hget key _ | delete key => key = raw

/-! ## Calls and programs on one key -/

namespace Memory

variable {c : Call} {raw k : String} {m m' : Memory}

/-- A call on a key is answered by what stands there, and so is what stands there afterwards. -/
theorem answer_congr (hc : c.On raw) (h : m.records.get? raw = m'.records.get? raw) :
    (answer c m).1 = (answer c m').1 ∧
      (answer c m).2.records.get? raw = (answer c m').2.records.get? raw := by
  cases c with
  | getEntry table key =>
    cases hc
    refine ⟨?_, h⟩
    rw [answer, answer, record, record, h]
  | setEntry table key fields =>
    cases hc
    refine ⟨rfl, ?_⟩
    rw [← put, ← put, get?_put, get?_put, if_pos rfl, if_pos rfl]
  | keys pattern => exact hc.elim
  | hget key field =>
    cases hc
    refine ⟨?_, h⟩
    rw [answer, answer, h]
  | delete key =>
    cases hc
    refine ⟨rfl, ?_⟩
    rw [answer, answer, Keyed.get?_erase, Keyed.get?_erase, if_pos rfl, if_pos rfl]

theorem get?_answer_of_ne (hc : c.On raw) (hk : raw ≠ k) :
    (answer c m).2.records.get? k = m.records.get? k := by
  cases c with
  | getEntry | hget => rfl
  | setEntry table key fields =>
    cases hc
    rw [← put, get?_put, if_neg hk]
  | keys pattern => exact hc.elim
  | delete key =>
    cases hc
    rw [answer, Keyed.get?_erase, if_neg hk]

/-- A program on one key ends alike on databases that agree there. -/
theorem run_congr {p : Program Call Answer α} (hp : p.Asks (Call.On raw))
    (h : m.records.get? raw = m'.records.get? raw) :
    (p.run answer m).1 = (p.run answer m').1 ∧
      (p.run answer m).2.records.get? raw = (p.run answer m').2.records.get? raw := by
  induction p generalizing m m' with
  | done a => exact ⟨rfl, h⟩
  | ask c k ih =>
    obtain ⟨hanswer, hrecord⟩ := answer_congr hp.1 h
    rw [Program.run, Program.run, hanswer]
    exact ih _ (hp.2 _) hrecord

end Memory

/-! ## Programs side by side -/

namespace Pool

variable {program : ι → Program Call Answer α} {mayJoin : ι → Prop} {key : ι → String}

/-- The key of a process. -/
abbrev keyOf {σ : Type} (key : ι → String) (x : Process ι σ) : String := key x.label

/-- What is left of each program ends as the whole of it does alone on the first database, and
nothing has changed under the keys of no program. -/
structure Isolated (program : ι → Program Call Answer α) (key : ι → String) (m : Memory)
    (p : Pool ι (Program Call Answer α)) : Prop where
  confined : ∀ x ∈ p.processes, x.state.Asks (Call.On (key x.label))
  value : ∀ x ∈ p.processes,
    (x.state.run Memory.answer p.memory).1 = ((program x.label).run Memory.answer m).1
  record : ∀ x ∈ p.processes, (x.state.run Memory.answer p.memory).2.records.get? (key x.label) =
    ((program x.label).run Memory.answer m).2.records.get? (key x.label)
  frame : ∀ k, (∀ x ∈ p.processes, key x.label ≠ k) → p.memory.records.get? k = m.records.get? k

variable {m : Memory} {p q : Pool ι (Program Call Answer α)}

theorem keyOf_ne_of_nodup {σ : Type} {a b : List (Process ι σ)} {x z : Process ι σ}
    (h : ((a ++ x :: b).map (keyOf key)).Nodup) (hz : z ∈ a ∨ z ∈ b) :
    key x.label ≠ key z.label := by
  rw [List.map_append, List.map_cons, List.nodup_middle] at h
  intro hxz
  refine (List.nodup_cons.1 h).1 ?_
  rw [← List.map_append]
  exact List.mem_map.2 ⟨z, List.mem_append.2 hz, hxz.symm⟩

/-- A program that joins finds its key as it was at first. -/
theorem Isolated.of_join {l : List (Process ι (Program Call Answer α))} {m' : Memory} {i : ι}
    (hconf : (program i).Asks (Call.On (key i))) (h : Isolated program key m ⟨m', l⟩)
    (hd : ((⟨i, program i⟩ :: l : List (Process ι _)).map (keyOf key)).Nodup) :
    Isolated program key m ⟨m', ⟨i, program i⟩ :: l⟩ := by
  have hkey : m'.records.get? (key i) = m.records.get? (key i) :=
    h.frame _ fun x hx => (keyOf_ne_of_nodup (a := []) hd (.inr hx)).symm
  obtain ⟨hvalue, hrecord⟩ := Memory.run_congr hconf hkey
  exact ⟨List.forall_mem_cons.2 ⟨hconf, h.confined⟩, List.forall_mem_cons.2 ⟨hvalue, h.value⟩,
    List.forall_mem_cons.2 ⟨hrecord, h.record⟩,
    fun k hk => h.frame k fun x hx => hk x (List.mem_cons_of_mem _ hx)⟩

/-- A call of one program is part of its own run and leaves the keys of all others alone. -/
theorem Isolated.of_call {a b : List (Process ι (Program Call Answer α))} {i : ι} {c : Call}
    {k : Answer c → Program Call Answer α} {m' : Memory}
    (h : Isolated program key m ⟨m', a ++ ⟨i, .ask c k⟩ :: b⟩)
    (hd : ((a ++ ⟨i, .ask c k⟩ :: b).map (keyOf key)).Nodup) :
    Isolated program key m
      ⟨(Memory.answer c m').2, a ++ ⟨i, k (Memory.answer c m').1⟩ :: b⟩ := by
  have hi : (⟨i, .ask c k⟩ : Process ι _) ∈ a ++ ⟨i, .ask c k⟩ :: b :=
    List.mem_append_right a List.mem_cons_self
  have hc := h.confined _ hi
  have hold : ∀ {x}, x ∈ a ∨ x ∈ b → x ∈ a ++ (⟨i, .ask c k⟩ : Process ι _) :: b := fun hx =>
    List.mem_append.2 (hx.imp_right (List.mem_cons_of_mem _))
  have hother : ∀ {x}, x ∈ a ∨ x ∈ b →
      (Memory.answer c m').2.records.get? (key x.label) = m'.records.get? (key x.label) :=
    fun hx => Memory.get?_answer_of_ne hc.1 (keyOf_ne_of_nodup hd hx)
  have hcases : ∀ {x : Process ι (Program Call Answer α)},
      x ∈ a ++ ⟨i, k (Memory.answer c m').1⟩ :: b →
        x = ⟨i, k (Memory.answer c m').1⟩ ∨ (x ∈ a ∨ x ∈ b) := fun hx => by
    rcases List.mem_append.1 hx with ha | hb
    · exact .inr (.inl ha)
    · exact (List.mem_cons.1 hb).imp_right .inr
  refine ⟨fun x hx => ?_, fun x hx => ?_, fun x hx => ?_, fun raw hraw => ?_⟩
  · rcases hcases hx with rfl | hx
    · exact hc.2 _
    · exact h.confined x (hold hx)
  · rcases hcases hx with rfl | hx
    · exact h.value _ hi
    · exact (Memory.run_congr (h.confined x (hold hx)) (hother hx)).1.trans (h.value x (hold hx))
  · rcases hcases hx with rfl | hx
    · exact h.record _ hi
    · exact (Memory.run_congr (h.confined x (hold hx)) (hother hx)).2.trans (h.record x (hold hx))
  · have hne : key i ≠ raw := hraw ⟨i, k (Memory.answer c m').1⟩
      (List.mem_append_right a List.mem_cons_self)
    refine (Memory.get?_answer_of_ne hc.1 hne).trans (h.frame raw fun x hx => ?_)
    rcases List.mem_append.1 hx with ha | hb
    · exact hraw x (List.mem_append_left _ ha)
    · rcases List.mem_cons.1 hb with rfl | hb
      · exact hne
      · exact hraw x (List.mem_append_right a (List.mem_cons_of_mem _ hb))

theorem nodup_of_step {s : Schedule ι (Program Call Answer α)} (h : Step s p q)
    (hd : (q.processes.map (keyOf key)).Nodup) : (p.processes.map (keyOf key)).Nodup := by
  cases h with
  | join i hi m l => exact (List.nodup_cons.1 hd).2
  | @move i x x' m m' a b h =>
    rw [List.map_append, List.map_cons] at hd ⊢
    exact hd

/-- Programs confined to different keys end as each of them does alone, in whatever order their
calls are made. -/
theorem Runs.isolated (hconf : ∀ i, (program i).Asks (Call.On (key i)))
    (h : Runs (called program mayJoin fun _ => False) (onlyMemory m) q)
    (hd : (q.processes.map (keyOf key)).Nodup) : Isolated program key m q := by
  refine h.invariant (fun p => (p.processes.map (keyOf key)).Nodup → Isolated program key m p)
    ?_ ?_ hd
  · intro p q hs hp hd
    have hold := hp (nodup_of_step hs hd)
    cases hs with
    | join i hi m l => exact hold.of_join (hconf i) hd
    | move a b h =>
      cases h with
      | call hr =>
        cases hr with
        | answered =>
          refine hold.of_call ?_
          rw [List.map_append, List.map_cons] at hd ⊢
          exact hd
        | refused e hf => exact hf.elim
  · exact fun _ => ⟨nofun, nofun, nofun, fun _ _ => rfl⟩

/-! ## Ways to the end -/

theorem Runs.trans {σ : Type} {s : Schedule ι σ} {p q r : Pool ι σ} (h : Runs s p q)
    (h' : Runs s q r) : Runs s p r := by
  induction h' with
  | refl => exact h
  | tail _ hs ih => exact .tail ih hs

/-- One program can go on to its end while the others wait. -/
theorem runs_done {mayFail : Call → Prop} (y : Program Call Answer α) (i : ι) (m : Memory)
    (a b : List (Process ι (Program Call Answer α))) :
    Runs (called program mayJoin mayFail) ⟨m, a ++ ⟨i, y⟩ :: b⟩
      ⟨(y.run Memory.answer m).2, a ++ ⟨i, .done (y.run Memory.answer m).1⟩ :: b⟩ := by
  induction y generalizing m with
  | done r => exact .refl
  | ask c k ih => exact .trans (.tail .refl (.move a b (.call (.answered c m)))) (ih _ _)

/-- Wherever programs stand, they can all go on to their ends. -/
theorem exists_runs_finished {mayFail : Call → Prop} (p : Pool ι (Program Call Answer α)) :
    ∃ q, Runs (called program mayJoin mayFail) p q ∧
      (∀ x ∈ q.processes, ∃ r, x.state = .done r) ∧
      q.processes.map (·.label) = p.processes.map (·.label) := by
  obtain ⟨m, l⟩ := p
  -- The programs come to their ends one after the other; those in `a` have ended.
  suffices h : ∀ (l a : List (Process ι (Program Call Answer α))) (m : Memory),
      ∃ l' m', Runs (called program mayJoin mayFail) ⟨m, a ++ l⟩ ⟨m', a ++ l'⟩ ∧
        (∀ x ∈ l', ∃ r, x.state = .done r) ∧ l'.map (·.label) = l.map (·.label) by
    obtain ⟨l', m', hruns, hdone, hlabel⟩ := h l [] m
    exact ⟨⟨m', l'⟩, hruns, hdone, hlabel⟩
  intro l
  induction l with
  | nil => exact fun a m => ⟨[], m, .refl, nofun, rfl⟩
  | cons x l ih =>
    intro a m
    have hx : Runs (called program mayJoin mayFail) ⟨m, a ++ x :: l⟩
        ⟨(x.state.run Memory.answer m).2,
          a ++ ⟨x.label, .done (x.state.run Memory.answer m).1⟩ :: l⟩ :=
      runs_done x.state x.label m a l
    obtain ⟨l', m', hruns, hdone, hlabel⟩ :=
      ih (a ++ [⟨x.label, .done (x.state.run Memory.answer m).1⟩]) (x.state.run Memory.answer m).2
    rw [List.append_assoc, List.append_assoc] at hruns
    exact ⟨_ :: l', m', hx.trans hruns, List.forall_mem_cons.2 ⟨⟨_, rfl⟩, hdone⟩,
      congrArg (x.label :: ·) hlabel⟩

end Pool

end ChassisAdmin.Store
