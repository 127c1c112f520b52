import ChassisAdmin.Proofs.Chassis.Statuses
import ChassisAdmin.Proofs.Fabric.Seeded
import Mathlib.Data.List.Sort

/-!
# Scenarios that are seeded and scenarios that are written

A record without fields is put into a database when it is seeded, and deleted
when it is written.  Otherwise the two ways are the same, record by record.  So a
database that a scenario was written to has the records of the seeded one that
have fields, and no others (`WithoutBare`).

Reading one record or one field does not tell the two apart.  A listing of keys
does, if the last record for some module is bare, and so do the states of all
modules (`exists_written`).  Rows of ASICs are never bare.
-/

namespace ChassisAdmin

open Store (Call Answer Client Memory)
open Fabric (Reads)

variable {α : Type} {m m' : Memory}

/-! ## Bare records -/

namespace Store.Memory

/-- The second database has the records of the first that have fields. -/
def WithoutBare (m m' : Memory) : Prop :=
  ∀ key, m'.records.get? key = (m.records.get? key).bind nonempty

/-- Every reading call is answered alike. -/
def Alike (m m' : Memory) : Prop := ∀ c, Reads c → (answer c m).1 = (answer c m').1

theorem withoutBare_empty : WithoutBare empty empty := fun _ => rfl

/-- What is put in on one side and written on the other is the same up to bare records. -/
theorem WithoutBare.put (h : WithoutBare m m') (table key : String) (fields : Fields) :
    WithoutBare (m.insert table key fields) (m'.put table key (some fields)) := by
  intro k
  rw [get?_put, insert, Keyed.get?_insert]
  split
  · rfl
  · exact h k

theorem bind_nonempty_get? (o : Option Fields) (f : String) :
    (o.bind nonempty).bind (·.get? f) = o.bind (·.get? f) := by
  cases o with
  | none => rfl
  | some l => cases l <;> rfl

theorem bind_nonempty_eq (o : Option Fields) : o.bind nonempty = if o = some [] then none else o := by
  cases o with
  | none => rfl
  | some l => cases l <;> rfl

namespace WithoutBare

theorem entry_eq (h : WithoutBare m m') (table key : String) :
    m'.entry table key = m.entry table key := by
  rw [entry, record, h, bind_nonempty_bind, entry, record]

/-- Reading a record or a field is answered alike. -/
theorem answer_eq (h : WithoutBare m m') {c : Call} (hc : Reads c) (hkeys : ∀ p, c ≠ .keys p) :
    (answer c m).1 = (answer c m').1 := by
  cases c with
  | getEntry table key => exact congrArg Except.ok (h.entry_eq table key).symm
  | hget key field =>
    refine congrArg Except.ok ?_
    rw [h, bind_nonempty_get?]
  | keys pattern => exact absurd rfl (hkeys pattern)
  | setEntry | delete => exact hc.elim

/-- A listing of keys leaves out those of bare records. -/
theorem matching_eq (h : WithoutBare m m') (pattern : String) : m'.matching pattern =
    (m.matching pattern).filter fun key => m.records.get? key ≠ some [] := by
  have hsorted : (m.matching pattern).Pairwise (· < ·) := (ascending_keys _).filter _
  refine ((ascending_keys _).filter _).eq_of_mem_iff (hsorted.filter _) fun key => ?_
  simp only [matching, List.mem_filter, Keyed.mem_keys_iff, h key, bind_nonempty_eq]
  by_cases hbare : m.records.get? key = some [] <;> simp [hbare]

theorem alike_iff (h : WithoutBare m m') : Alike m m' ↔ ∀ key, m.records.get? key ≠ some [] := by
  constructor
  · intro halike key hbare
    have hlisted : key ∈ m.matching key :=
      List.mem_filter.2 ⟨(Keyed.mem_keys_iff _ _).2 (by simp [hbare]), Text.Glob.isMatch_self key⟩
    have hkeys : m.matching key = m'.matching key := Except.ok.inj (halike (.keys key) trivial)
    rw [hkeys, h.matching_eq, List.mem_filter] at hlisted
    simp [hbare] at hlisted
  · intro hfields c hc
    by_cases hkeys : ∀ p, c ≠ .keys p
    · exact h.answer_eq hc hkeys
    · obtain ⟨pattern, rfl⟩ : ∃ p, c = .keys p := by simpa using hkeys
      refine congrArg Except.ok ?_
      rw [h.matching_eq]
      exact (List.filter_eq_self.2 fun key _ => by simpa using hfields key).symm

end WithoutBare

/-- A program that only reads ends with the same value on databases that answer alike. -/
theorem Alike.run_eq (h : Alike m m') {p : Program Call Answer α} (hp : p.Asks Reads) :
    (p.run answer m).1 = (p.run answer m').1 := by
  induction p with
  | done a => rfl
  | ask c k ih =>
    have hkeep (m : Memory) : (answer c m).2 = m := by
      cases c with
      | getEntry | keys | hget => rfl
      | setEntry | delete => exact hp.1.elim
    rw [Program.run, Program.run, hkeep, hkeep, ← h c hp.1]
    exact ih _ (hp.2 _)

end Store.Memory

/-! ## Records in a row -/

namespace Store

/-- Writes records one after the other. -/
def writeAll : List (String × String × Fields) → Client Unit
  | [] => return ()
  | r :: records => do
      setEntry r.1 r.2.1 (some r.2.2)
      writeAll records

theorem exists_onMemory_writeAll (records : List (String × String × Fields))
    (h : m.WithoutBare m') :
    ∃ w, (writeAll records).onMemory m' = (.ok (), w) ∧ (m.seed records).WithoutBare w := by
  induction records generalizing m m' with
  | nil => exact ⟨m', rfl, h⟩
  | cons r records ih =>
    obtain ⟨w, hrun, hw⟩ := ih (h.put r.1 r.2.1 r.2.2)
    have hfirst : (setEntry r.1 r.2.1 (some r.2.2)).onMemory m' = (.ok (), m'.put r.1 r.2.1 _) := rfl
    exact ⟨w, (Attempt.runWith_bind_ok hfirst _).trans hrun, hw⟩

end Store

namespace Scenario

open Fabric (Bound Plant)
open Store.Memory (Alike WithoutBare)

variable {s : Scenario} {name : String}

theorem writeModules_eq (records : List ModuleRecord) :
    writeModules records = Store.writeAll (records.map fun r => (Module.table, r.name, r.fields)) := by
  induction records with
  | nil => rfl
  | cons r records ih => simp only [writeModules, List.map_cons, Store.writeAll, ih]

theorem writeRows_eq (rows : List AsicRow) : writeRows rows =
    Store.writeAll (rows.map fun r => (Fabric.table, Fabric.rowKey r.asic, r.fields)) := by
  induction rows with
  | nil => rfl
  | cons r rows ih => simp only [writeRows, List.map_cons, Store.writeAll, ih]

/-- Writing a scenario to two databases without records always comes to an end. -/
theorem exists_run_write (s : Scenario) : ∃ w, Plant.run ⟨.empty, .empty, []⟩ s.write = (.ok (), w) ∧
    (s.seedConfig .empty).WithoutBare w.config ∧
      (s.seedChassisState .empty).WithoutBare w.chassisState := by
  obtain ⟨config, hconfig, hbare⟩ := Store.exists_onMemory_writeAll
    (s.modules.map fun r => (Module.table, r.name, r.fields)) Store.Memory.withoutBare_empty
  obtain ⟨chassisState, hrows, hbareRows⟩ := Store.exists_onMemory_writeAll
    (s.asics.map fun r => (Fabric.table, Fabric.rowKey r.asic, r.fields))
    Store.Memory.withoutBare_empty
  rw [← writeModules_eq] at hconfig
  rw [← writeRows_eq] at hrows
  exact ⟨⟨config, chassisState, []⟩,
    (Plant.run_bind (Plant.run_onConfig hconfig) _).trans (Plant.run_onChassisState hrows),
    hbare, hbareRows⟩

/-! ## Bare modules and rows -/

/-- The last record for a module has no fields. -/
def Bare (s : Scenario) (name : String) : Prop :=
  ∃ before after, s.modules = before ++ .bare name :: after ∧ ∀ r ∈ after, r.name ≠ name

theorem get?_seedConfig (s : Scenario) (key : String) :
    (s.seedConfig .empty).records.get? key =
      (s.modules.reverse.find? (·.rawKey == key)).map (·.fields) :=
  Memory.get?_seed_map _ s.modules key

theorem get?_recordKey_eq_nil_iff :
    (s.seedConfig .empty).records.get? (Module.recordKey name) = some [] ↔ s.Bare name := by
  have hkey : ∀ r : ModuleRecord, (r.rawKey == Module.recordKey name) = (r.name == name) := fun r =>
    Bool.eq_iff_iff.2 (by
      simpa using ⟨Store.rawKey_injective Module.table, fun h => congrArg Module.recordKey h⟩)
  simp only [get?_seedConfig, hkey, Option.map_eq_some_iff, List.find?_eq_some_iff_append]
  constructor
  · rintro ⟨⟨name', fields⟩, ⟨hname, after, before, hmodules, hafter⟩, rfl⟩
    obtain rfl : name' = name := by simpa using hname
    refine ⟨before.reverse, after.reverse, ?_, fun r hr => ?_⟩
    · rw [← List.reverse_reverse s.modules, hmodules]
      simp [ModuleRecord.bare]
    · simpa using hafter r (List.mem_reverse.1 hr)
  · rintro ⟨before, after, hmodules, hafter⟩
    have hreverse : s.modules.reverse = after.reverse ++ .bare name :: before.reverse := by
      rw [hmodules]
      simp
    refine ⟨.bare name, ⟨beq_self_eq_true name, _, _, hreverse, fun r hr => ?_⟩, rfl⟩
    simpa using hafter r (List.mem_reverse.1 hr)

/-- Every raw key of a seeded CONFIG_DB is that of a module. -/
theorem exists_recordKey_of_get? {key : String}
    (h : ((s.seedConfig .empty).records.get? key).isSome = true) :
    ∃ name, key = Module.recordKey name := by
  rw [get?_seedConfig, Option.isSome_map, List.find?_isSome] at h
  obtain ⟨r, -, hr⟩ := h
  exact ⟨r.name, (by simpa using hr : r.rawKey = key).symm⟩

instance : Decidable (s.Bare name) := decidable_of_iff _ get?_recordKey_eq_nil_iff

theorem forall_not_bare_iff :
    (∀ key, (s.seedConfig .empty).records.get? key ≠ some []) ↔ ∀ name, ¬s.Bare name := by
  constructor
  · exact fun h name hbare => h _ (get?_recordKey_eq_nil_iff.2 hbare)
  · intro h key hbare
    obtain ⟨name, rfl⟩ := exists_recordKey_of_get? (by rw [hbare]; rfl)
    exact h name (get?_recordKey_eq_nil_iff.1 hbare)

theorem get?_seedChassisState_ne (s : Scenario) (key : String) :
    (s.seedChassisState .empty).records.get? key ≠ some [] := by
  intro h
  obtain ⟨r, -, hfields⟩ := Option.map_eq_some_iff.1 ((Fabric.get?_seedRows s.asics key).symm.trans h)
  cases hfields

/-! ## The states of modules -/

variable {w : Memory}

/-- A listing of keys leaves out those of bare modules. -/
theorem matching_eq (h : (s.seedConfig .empty).WithoutBare w) (pattern : String) :
    w.matching pattern = ((s.seedConfig .empty).matching pattern).filter fun key =>
      ¬s.Bare (Module.nameOfKey key) := by
  rw [h.matching_eq]
  refine List.filter_congr fun key hkey => ?_
  obtain ⟨name, rfl⟩ :=
    exists_recordKey_of_get? ((Keyed.mem_keys_iff _ _).1 (List.mem_filter.1 hkey).1)
  rw [Module.nameOfKey_recordKey, decide_eq_decide]
  exact not_congr get?_recordKey_eq_nil_iff

theorem known_eq (h : (s.seedConfig .empty).WithoutBare w) (c : Chassis) :
    c.known w = (c.known (s.seedConfig .empty)).filter fun name =>
      ¬s.Bare name ∨ name ∈ c.platform.dpus := by
  have hsorted : (c.known (s.seedConfig .empty)).Pairwise (· < ·) := Store.ascending_keys _
  refine (Store.ascending_keys _).eq_of_mem_iff (hsorted.filter _) fun name => ?_
  have hnames : (w.matching Module.keyPattern).map Module.nameOfKey =
      (((s.seedConfig .empty).matching Module.keyPattern).map Module.nameOfKey).filter fun name =>
        ¬s.Bare name := by
    rw [matching_eq h, List.filter_map]
    rfl
  rw [← Chassis.known, Chassis.mem_known_iff_mem_append, hnames, List.mem_filter,
    Chassis.mem_known_iff_mem_append, List.mem_append, List.mem_append, List.mem_filter,
    decide_eq_true_iff, decide_eq_true_iff, and_or_right]

theorem stated_eq (h : (s.seedConfig .empty).WithoutBare w) (c : Chassis) :
    c.stated w = c.stated (s.seedConfig .empty) := by
  funext name
  exact congrArg (fun r => (name, c.guard.stateOf r)) (h.entry_eq Module.table name)

/-- The states of all modules, or of those with a name, leave out bare modules that are no DPUs. -/
theorem exists_onMemory_moduleStatuses (h : (s.seedConfig .empty).WithoutBare w) (c : Chassis)
    (only : Option String) : ∃ statuses,
      (c.moduleStatuses only).onMemory (s.seedConfig .empty) =
        (.ok statuses, s.seedConfig .empty) ∧
      (c.moduleStatuses only).onMemory w =
        (.ok (statuses.filter fun x => ¬s.Bare x.1 ∨ x.1 ∈ c.platform.dpus), w) := by
  have hall : (c.known w).map (c.stated w) =
      ((c.known (s.seedConfig .empty)).map (c.stated (s.seedConfig .empty))).filter fun x =>
        ¬s.Bare x.1 ∨ x.1 ∈ c.platform.dpus := by
    rw [known_eq h, stated_eq h, List.filter_map]
    rfl
  cases only with
  | none =>
    refine ⟨_, Chassis.onMemory_moduleStatuses_none c _, ?_⟩
    rw [Chassis.onMemory_moduleStatuses_none, hall]
  | some name =>
    refine ⟨_, Chassis.onMemory_moduleStatuses_some c _ name, ?_⟩
    rw [Chassis.onMemory_moduleStatuses_some, hall, List.filter_comm]

/-! ## What is read afterwards -/

/-- What is read of a scenario that was seeded and of the same scenario written to a plant. -/
structure ReadLike (s : Scenario) (w : Plant) : Prop where
  asics : Alike (s.seedChassisState .empty) w.chassisState
  bindings : ∀ card, ∃ asics,
    Bound (s.seedChassisState .empty) card asics ∧ Bound w.chassisState card asics
  modules : ∀ c, Reads c → (∀ pattern, c ≠ .keys pattern) →
    (Store.Memory.answer c (s.seedConfig .empty)).1 = (Store.Memory.answer c w.config).1
  keys : ∀ pattern, w.config.matching pattern =
    ((s.seedConfig .empty).matching pattern).filter fun key => ¬s.Bare (Module.nameOfKey key)
  statuses : ∀ (c : Chassis) only, ∃ statuses,
    (c.moduleStatuses only).onMemory (s.seedConfig .empty) = (.ok statuses, s.seedConfig .empty) ∧
    (c.moduleStatuses only).onMemory w.config =
      (.ok (statuses.filter fun x => ¬s.Bare x.1 ∨ x.1 ∈ c.platform.dpus), w.config)
  alike_iff : Alike (s.seedConfig .empty) w.config ↔ ∀ name, ¬s.Bare name

theorem exists_bound_of_alike (h : Alike m m') (card : String) :
    ∃ asics, Bound m card asics ∧ Bound m' card asics := by
  obtain ⟨asics, hb, -⟩ := Fabric.exists_bound m card
  obtain ⟨asics', hb', -⟩ := Fabric.exists_bound m' card
  have hvalue := h.run_eq (Fabric.asks_binding card)
  obtain rfl : asics = asics' :=
    Except.ok.inj ((congrArg Prod.fst hb).symm.trans (hvalue.trans (congrArg Prod.fst hb')))
  exact ⟨asics, hb, hb'⟩

/-- Every scenario can be written.  The rows of ASICs are read as if they had been seeded, and the
records of modules as well, one by one.  But bare modules are only listed where they were seeded. -/
theorem exists_written (s : Scenario) :
    ∃ w, Plant.run ⟨.empty, .empty, []⟩ s.write = (.ok (), w) ∧ s.ReadLike w := by
  obtain ⟨w, hrun, hconfig, hrows⟩ := exists_run_write s
  have hasics : Alike (s.seedChassisState .empty) w.chassisState :=
    hrows.alike_iff.2 (get?_seedChassisState_ne s)
  exact ⟨w, hrun, {
    asics := hasics
    bindings := exists_bound_of_alike hasics
    modules := fun c hc hkeys => hconfig.answer_eq hc hkeys
    keys := matching_eq hconfig
    statuses := exists_onMemory_moduleStatuses hconfig
    alike_iff := hconfig.alike_iff.trans forall_not_bare_iff }⟩

/-- A scenario with a bare module. -/
def bareModule : Scenario := ⟨[.bare "DPU0"], []⟩

theorem bareModule_seeded_not_written :
    ∃ w, Plant.run ⟨.empty, .empty, []⟩ bareModule.write = (.ok (), w) ∧
      (bareModule.seedConfig .empty).matching "*" = ["CHASSIS_MODULE|DPU0"] ∧
      w.config.matching "*" = [] ∧
      ¬Alike (bareModule.seedConfig .empty) w.config ∧
      (∃ state, ((Chassis.new .standard (.ofUnix 0)).moduleStatuses none).onMemory
        (bareModule.seedConfig .empty) = (.ok [("DPU0", state)], bareModule.seedConfig .empty)) ∧
      ((Chassis.new .standard (.ofUnix 0)).moduleStatuses none).onMemory w.config =
        (.ok [], w.config) := by
  refine ⟨_, rfl, by decide, by decide, fun h => ?_, ⟨_, rfl⟩, rfl⟩
  exact absurd (h (.keys "*") trivial) (by decide)

end Scenario

end ChassisAdmin
