import ChassisAdmin.Chassis
import ChassisAdmin.Proofs.Guard.Request
import ChassisAdmin.Proofs.Store.Mirror
import ChassisAdmin.Proofs.Text.Glob

/-!
# The states of all known modules

A module is known if CONFIG_DB has a record for it or if it is a DPU of the
platform.  The names of the first kind are read off the raw keys that match a
pattern.  A raw key is that of one module only, and every raw key of the table
matches as long as it has no line feed, so nothing is lost on the way
(`mem_known_iff`).  The names then go through a map, which puts them in order and
drops what occurs twice.

`exists_complete` says that the list of states has each known module once, in
the order of the bytes of the names, with what single questions answer about it,
and that a name picks out the states of the modules it stands for.
-/

namespace ChassisAdmin

open Store (Memory)

variable {m : Memory}

/-! ## Names and raw keys -/

namespace Module

theorem toList_recordKey (name : String) :
    (recordKey name).toList = (recordKey "").toList ++ name.toList := by
  simp [recordKey, Store.rawKey, String.toList_append]

theorem nameOfKey_recordKey (name : String) : nameOfKey (recordKey name) = name := by
  have hlength : (recordKey "").toList.length = (Store.rawKey table "").length := rfl
  rw [nameOfKey, toList_recordKey, ← hlength, List.drop_left, String.ofList_toList]

theorem literal_recordKey : ∀ c ∈ (recordKey "").toList, c ≠ '*' ∧ c ≠ '?' := by
  have h : (recordKey "").toList.all (fun c => c ≠ '*' ∧ c ≠ '?') = true := rfl
  simpa using h

/-- Without line feeds the raw keys that match the pattern are those of records of modules. -/
theorem mem_matching_keyPattern_iff (hm : ∀ key ∈ m.records.keys, '\n' ∉ key.toList)
    {key : String} :
    key ∈ m.matching keyPattern ↔ key ∈ m.records.keys ∧ ∃ name, key = recordKey name := by
  have hpattern : keyPattern = recordKey "" ++ "*" := rfl
  rw [Memory.matching, List.mem_filter, hpattern,
    Text.Glob.isMatch_append_star_iff literal_recordKey]
  refine and_congr_right fun hkey => ⟨?_, ?_⟩
  · rintro ⟨rest, hrest, -⟩
    refine ⟨String.ofList rest, String.toList_inj.1 ?_⟩
    rw [toList_recordKey, String.toList_ofList, hrest]
  · rintro ⟨name, rfl⟩
    refine ⟨name.toList, toList_recordKey name, fun hfeed => hm _ hkey ?_⟩
    rw [toList_recordKey]
    exact List.mem_append_right _ hfeed

end Module

namespace Chassis

open ChassisAdmin.Module (recordIn recordKey)

variable {c : Chassis}

/-! ## Known modules -/

/-- The names of the known modules, as they are read off the raw keys and the platform. -/
def known (c : Chassis) (m : Memory) : List String :=
  (Keyed.ofList (((m.matching Module.keyPattern).map Module.nameOfKey ++ c.platform.dpus).map
    fun name => (name, ()))).keys

theorem onMemory_knownModules (c : Chassis) (m : Memory) :
    c.knownModules.onMemory m = (.ok (c.known m), m) := rfl

theorem mem_known_iff_mem_append {name : String} : name ∈ c.known m ↔
    name ∈ (m.matching Module.keyPattern).map Module.nameOfKey ++ c.platform.dpus := by
  rw [known, Keyed.mem_keys_ofList, List.map_map]
  exact iff_of_eq (congrArg (name ∈ ·) (List.map_id _))

theorem mem_known_of_mem_dpus {name : String} (h : name ∈ c.platform.dpus) : name ∈ c.known m :=
  mem_known_iff_mem_append.2 (List.mem_append_right _ h)

/-- The known modules are those with a record and the DPUs. -/
theorem mem_known_iff (hm : ∀ key ∈ m.records.keys, '\n' ∉ key.toList) {name : String} :
    name ∈ c.known m ↔ recordKey name ∈ m.records.keys ∨ name ∈ c.platform.dpus := by
  rw [mem_known_iff_mem_append, List.mem_append]
  refine or_congr_left ⟨fun h => ?_, fun h => ?_⟩
  · obtain ⟨key, hkey, rfl⟩ := List.mem_map.1 h
    obtain ⟨hrecord, name, rfl⟩ := (Module.mem_matching_keyPattern_iff hm).1 hkey
    rwa [Module.nameOfKey_recordKey]
  · refine List.mem_map.2 ⟨recordKey name, ?_, Module.nameOfKey_recordKey name⟩
    exact (Module.mem_matching_keyPattern_iff hm).2 ⟨h, name, rfl⟩

/-! ## Their states -/

/-- A name with the state that the guard reads off the record of the module. -/
def stated (c : Chassis) (m : Memory) (name : String) : String × TransitionState :=
  (name, c.guard.stateOf (recordIn m name))

theorem onMemory_statesOf (c : Chassis) (names : List String) (m : Memory) :
    (c.statesOf names).onMemory m = (.ok (names.map (c.stated m)), m) := by
  induction names with
  | nil => rfl
  | cons name names ih =>
    have hstate : (c.guard.transitionState name).onMemory m =
        (.ok (c.guard.stateOf (recordIn m name)), m) := rfl
    rw [statesOf, Store.Client.onMemory, Attempt.runWith_bind_ok hstate]
    exact Attempt.runWith_bind_ok ih _

theorem onMemory_moduleStatuses_none (c : Chassis) (m : Memory) :
    (c.moduleStatuses none).onMemory m = (.ok ((c.known m).map (c.stated m)), m) := by
  rw [moduleStatuses, Store.Client.onMemory, Attempt.runWith_bind_ok (onMemory_knownModules c m)]
  exact onMemory_statesOf c (c.known m) m

theorem onMemory_moduleStatuses_some (c : Chassis) (m : Memory) (name : String) :
    (c.moduleStatuses (some name)).onMemory m =
      (.ok (((c.known m).map (c.stated m)).filter fun x => Text.equalIgnoringCase name x.1),
        m) := by
  rw [moduleStatuses, Store.Client.onMemory, Attempt.runWith_bind_ok (onMemory_knownModules c m),
    List.filter_map]
  exact onMemory_statesOf c _ m

/-- A state says of a module what asking the guard one question after the other answers. -/
structure Answers (g : Guard) (m : Memory) (name : String) (state : TransitionState) : Prop where
  adminStatus : (g.currentAdminStatus name).onMemory m = (.ok state.adminStatus, m)
  inProgress : (Guard.isInProgress name).onMemory m = (.ok state.inProgress, m)
  timedOut : (g.isTimedOut name).onMemory m = (.ok state.timedOut, m)
  startTime : state.startTime = (m.record Module.table name).bind (·.get? Module.startTimeField)

/-- A list with the state of every known module, each once. -/
structure Complete (c : Chassis) (m : Memory) (statuses : List (String × TransitionState)) :
    Prop where
  ascending : Store.Ascending (statuses.map (·.1))
  nodup : (statuses.map (·.1)).Nodup
  mem_iff : ∀ name, name ∈ statuses.map (·.1) ↔
    recordKey name ∈ m.records.keys ∨ name ∈ c.platform.dpus
  answers : ∀ x ∈ statuses, Answers c.guard m x.1 x.2

theorem answers_stated (c : Chassis) (m : Memory) (name : String) :
    Answers c.guard m (c.stated m name).1 (c.stated m name).2 := by
  refine ⟨rfl, rfl, rfl, ?_⟩
  -- A record without fields has no start time either, so it does not matter that it is not read.
  change ((m.record Module.table name).bind Memory.nonempty).bind _ =
    (m.record Module.table name).bind _
  cases m.record Module.table name with
  | none => rfl
  | some fields => cases fields <;> rfl

theorem map_fst_map_stated (c : Chassis) (m : Memory) (names : List String) :
    (names.map (c.stated m)).map (·.1) = names := by
  rw [List.map_map]
  exact List.map_id names

theorem complete_known (c : Chassis) (hm : ∀ key ∈ m.records.keys, '\n' ∉ key.toList) :
    Complete c m ((c.known m).map (c.stated m)) := by
  have hnames := map_fst_map_stated c m (c.known m)
  constructor
  · rw [hnames]
    exact Store.ascending_of_lt (Store.ascending_keys _)
  · rw [hnames]
    exact Keyed.nodup_keys _
  · intro name
    rw [hnames]
    exact mem_known_iff hm
  · rintro x hx
    obtain ⟨name, -, rfl⟩ := List.mem_map.1 hx
    exact answers_stated c m name

/-- Whatever is in CONFIG_DB, the states of all known modules are listed once each and in order, a
name picks out its own, and CONFIG_DB is left as it is. -/
theorem exists_complete (c : Chassis) {m : Memory}
    (hm : ∀ key ∈ m.records.keys, '\n' ∉ key.toList) :
    ∃ statuses, Complete c m statuses ∧
      (c.moduleStatuses none).onMemory m = (.ok statuses, m) ∧
      ∀ name, (c.moduleStatuses (some name)).onMemory m =
        (.ok (statuses.filter fun x => Text.equalIgnoringCase name x.1), m) :=
  ⟨_, complete_known c hm, onMemory_moduleStatuses_none c m, onMemory_moduleStatuses_some c m⟩

/-- A record of a DPU, one of a module that is no DPU, and one of another table. -/
def threeRecords : Memory :=
  Memory.empty.seed [(Module.table, "DPU1", [(Module.adminStatusField, "up")]),
    (Module.table, "CARD|0", []), ("PORT", "Ethernet0", [("mtu", "9100")])]

example : (Chassis.new (.ofDpus ["dpu0", "dpu1"]) (.ofUnix 0)).known threeRecords =
    ["CARD|0", "DPU0", "DPU1"] := by decide

theorem noFeed_threeRecords : ∀ key ∈ threeRecords.records.keys, '\n' ∉ key.toList := by decide

theorem exists_complete_threeRecords :
    (∀ key ∈ threeRecords.records.keys, '\n' ∉ key.toList) ∧
      ∃ statuses, Complete (.new (.ofDpus ["dpu0", "dpu1"]) (.ofUnix 0)) threeRecords statuses ∧
        ((Chassis.new (.ofDpus ["dpu0", "dpu1"]) (.ofUnix 0)).moduleStatuses none).onMemory
          threeRecords = (.ok statuses, threeRecords) ∧
        ∀ name, ((Chassis.new (.ofDpus ["dpu0", "dpu1"]) (.ofUnix 0)).moduleStatuses
          (some name)).onMemory threeRecords =
            (.ok (statuses.filter fun x => Text.equalIgnoringCase name x.1), threeRecords) :=
  ⟨noFeed_threeRecords, exists_complete _ noFeed_threeRecords⟩

end Chassis

end ChassisAdmin
