import ChassisAdmin.Proofs.Chassis.Statuses
import ChassisAdmin.Proofs.CommandLine.Change

/-!
# Naming the units of a smartswitch

On a smartswitch an operator names a DPU in any spelling, and the first DPU of
the platform that agrees with the name up to the case of ASCII letters is meant.
Agreeing so is an equivalence.  Hence all spellings find one DPU
(`findDpu_congr`), and the name of that DPU finds it again
(`findDpu_of_findDpu`).  No module is called `all` in any spelling
(`not_all_of_module`), so the word that selects every DPU stands in the way of
none.

`canonical_of_smartswitch` says what follows for the commands: the name that is
looked up is found by every command under every spelling, two spellings are the
same command, and a name that stands for no module is refused before any call on
a database.
-/

namespace ChassisAdmin

open Store (Memory)

variable {a b : String}

/-! ## Spellings -/

namespace Text

theorem equalIgnoringCase_iff : equalIgnoringCase a b = true ↔
    a.toList.map Char.toLower = b.toList.map Char.toLower := beq_iff_eq

theorem equalIgnoringCase_comm (a b : String) : equalIgnoringCase a b = equalIgnoringCase b a :=
  BEq.comm

/-- Two spellings of a text agree with the same texts. -/
theorem equalIgnoringCase_congr (h : equalIgnoringCase a b = true) (d : String) :
    equalIgnoringCase d a = equalIgnoringCase d b := by
  rw [equalIgnoringCase, equalIgnoringCase, equalIgnoringCase_iff.1 h]

end Text

namespace Platform

variable {p : Platform} {d : String}

theorem mem_of_findDpu (h : p.findDpu a = some d) : d ∈ p.dpus := List.mem_of_find?_eq_some h

theorem equalIgnoringCase_of_findDpu (h : p.findDpu a = some d) :
    Text.equalIgnoringCase d a = true :=
  List.find?_some (p := fun d => Text.equalIgnoringCase d a) h

theorem findDpu_congr (p : Platform) (h : Text.equalIgnoringCase a b = true) :
    p.findDpu a = p.findDpu b := by
  simp only [findDpu, Text.equalIgnoringCase_congr h]

theorem findDpu_of_findDpu (h : p.findDpu a = some d) : p.findDpu d = some d :=
  (p.findDpu_congr (equalIgnoringCase_of_findDpu h)).trans h

end Platform

namespace ModuleName

variable {module : ModuleName} {e : ChassisError}

theorem name_of_parse (h : parse a = .ok module) : module.name = a := by
  unfold parse at h
  split at h
  · cases h
    rfl
  · cases h

theorem eq_of_parse_error (h : parse a = .error e) : e = .invalidModuleName a := by
  unfold parse at h
  split at h
  · cases h
  · cases h
    rfl

theorem head?_stem (kind : ModuleKind) :
    ∃ c, kind.stem.toList.head? = some c ∧ c.toLower ≠ 'a' := by
  cases kind <;> exact ⟨_, rfl, by decide⟩

/-- The word for every DPU begins like no module. -/
theorem not_all_of_module (module : ModuleName) :
    Text.equalIgnoringCase module.name Platform.allDpus = false := by
  have hfind : ModuleKind.all.find? (fun k => k.stem.toList.isPrefixOf module.name.toList) =
      some module.kind := module.ofName?_eq
  have hstem := List.find?_some hfind
  obtain ⟨rest, hrest⟩ := List.isPrefixOf_iff_prefix.1 hstem
  obtain ⟨c, hc, hne⟩ := head?_stem module.kind
  rw [Bool.eq_false_iff, Ne, Text.equalIgnoringCase_iff, ← hrest]
  intro h
  have hfirst := congrArg List.head? h
  rw [List.head?_map, List.head?_append, hc] at hfirst
  exact hne (Option.some.inj hfirst)

end ModuleName

namespace Chassis

open CommandLine (Request setAdminStatus)

variable {c : Chassis} {module : ModuleName} {e : ChassisError}

/-! ## Names that stand for a module -/

theorem resolveModule_of_smartswitch (hc : c.platform.smartswitch = true) (name : String) :
    c.resolveModule name =
      match c.platform.findDpu name with
      | some dpu => ModuleName.parse dpu
      | none => .error (.unknownDpu name c.platform.dpus) := if_pos hc

theorem findDpu_of_resolveModule (hc : c.platform.smartswitch = true)
    (h : c.resolveModule a = .ok module) : c.platform.findDpu a = some module.name := by
  rw [resolveModule_of_smartswitch hc] at h
  split at h
  · next d hd => rw [hd, ModuleName.name_of_parse h]
  · cases h

/-- A module is what its own name stands for. -/
theorem resolveModule_name (hc : c.platform.smartswitch = true)
    (h : c.resolveModule a = .ok module) : c.resolveModule module.name = .ok module := by
  have hfind := findDpu_of_resolveModule hc h
  rw [resolveModule_of_smartswitch hc, hfind] at h
  rw [resolveModule_of_smartswitch hc, Platform.findDpu_of_findDpu hfind]
  exact h

theorem selectDpus_of_resolveModule (hc : c.platform.smartswitch = true)
    (h : c.resolveModule a = .ok module) : c.platform.selectDpus a = .ok [module.name] := by
  have hfind := findDpu_of_resolveModule hc h
  have hall : ¬Text.equalIgnoringCase a Platform.allDpus = true := by
    rw [Text.equalIgnoringCase_comm,
      ← Text.equalIgnoringCase_congr (Platform.equalIgnoringCase_of_findDpu hfind),
      Text.equalIgnoringCase_comm, ModuleName.not_all_of_module]
    decide
  rw [Platform.selectDpus, if_neg hall, hfind]

/-- The states of the modules with a name tell of the module that it stands for. -/
theorem exists_moduleStatuses_of_resolveModule (hc : c.platform.smartswitch = true)
    (h : c.resolveModule a = .ok module) (m : Memory) :
    ∃ statuses, (c.moduleStatuses (some a)).onMemory m = (.ok statuses, m) ∧
      module.name ∈ statuses.map (·.1) := by
  have hfind := findDpu_of_resolveModule hc h
  have hspelled := Platform.equalIgnoringCase_of_findDpu hfind
  refine ⟨_, onMemory_moduleStatuses_some c m a, ?_⟩
  refine List.mem_map.2 ⟨c.stated m module.name, List.mem_filter.2 ⟨?_, ?_⟩, rfl⟩
  · exact List.mem_map_of_mem (mem_known_of_mem_dpus (Platform.mem_of_findDpu hfind))
  · exact (Text.equalIgnoringCase_comm a module.name).trans hspelled

/-- The module that a name stands for is a DPU of the platform, and what else is asked for by the
name finds it too. -/
structure Canonical (c : Chassis) (name : String) (module : ModuleName) : Prop where
  mem : module.name ∈ c.platform.dpus
  spelled : Text.equalIgnoringCase module.name name = true
  fixed : c.resolveModule module.name = .ok module
  listed : ∀ m : Memory, ∃ statuses,
    (c.moduleStatuses (some name)).onMemory m = (.ok statuses, m) ∧
      module.name ∈ statuses.map (·.1)
  selected : c.platform.selectDpus name = .ok [module.name]

theorem canonical_of_resolveModule (hc : c.platform.smartswitch = true)
    (h : c.resolveModule a = .ok module) : Canonical c a module where
  mem := Platform.mem_of_findDpu (findDpu_of_resolveModule hc h)
  spelled := Platform.equalIgnoringCase_of_findDpu (findDpu_of_resolveModule hc h)
  fixed := resolveModule_name hc h
  listed := exists_moduleStatuses_of_resolveModule hc h
  selected := selectDpus_of_resolveModule hc h

/-! ## Two spellings -/

/-- What two names stand for is the same: one module, or none for one reason. -/
inductive Agreeing : Except ChassisError ModuleName → Except ChassisError ModuleName → Prop where
  /-- Both stand for a module. -/
  | resolved (module : ModuleName) : Agreeing (.ok module) (.ok module)
  /-- Both stand for a DPU whose name does not begin like that of a module. -/
  | invalid (dpu : String) :
      Agreeing (.error (.invalidModuleName dpu)) (.error (.invalidModuleName dpu))
  /-- Both stand for no DPU, and the same DPUs are offered instead. -/
  | unknown (a b : String) (dpus : List String) :
      Agreeing (.error (.unknownDpu a dpus)) (.error (.unknownDpu b dpus))

theorem Agreeing.eq_of_ok {r : Except ChassisError ModuleName} (h : Agreeing (.ok module) r) :
    r = .ok module := by
  cases h
  rfl

theorem agreeing_resolveModule (hc : c.platform.smartswitch = true)
    (h : Text.equalIgnoringCase a b = true) :
    Agreeing (c.resolveModule a) (c.resolveModule b) := by
  rw [resolveModule_of_smartswitch hc, resolveModule_of_smartswitch hc, c.platform.findDpu_congr h]
  cases c.platform.findDpu b with
  | none => exact .unknown a b _
  | some d =>
    change Agreeing (ModuleName.parse d) (ModuleName.parse d)
    cases hd : ModuleName.parse d with
    | ok module => exact .resolved module
    | error e =>
      obtain rfl := ModuleName.eq_of_parse_error hd
      exact .invalid d

/-- A command goes by what a name stands for and not by its spelling. -/
theorem setAdminStatus_congr (h : c.resolveModule a = c.resolveModule b) (config : Config)
    (target : AdminStatus) :
    setAdminStatus config c.platform a target = setAdminStatus config c.platform b target := by
  have hnow (now : Time.DateTime) : (Chassis.new c.platform now).resolveModule a =
      (Chassis.new c.platform now).resolveModule b := h
  simp only [CommandLine.setAdminStatus_eq, hnow]

/-! ## Names that stand for no module -/

/-- A command on a name that stands for no module makes no call on a database. -/
theorem asks_setAdminStatus_of_error (h : c.resolveModule a = .error e) (config : Config)
    (target : AdminStatus) :
    (setAdminStatus config c.platform a target).Asks Request.Prepares := by
  rw [CommandLine.setAdminStatus_eq]
  refine Attempt.asks_bind (Attempt.asks_request trivial _) fun _ =>
    Attempt.asks_bind (Attempt.asks_request trivial _) fun now => ?_
  have hnow : (Chassis.new c.platform now).resolveModule a = .error e := h
  rw [hnow]
  exact Attempt.asks_throw _

/-! ## Every smartswitch -/

/-- On a smartswitch the module that a name stands for is a DPU which every command finds by the
name.  Other spellings stand for the same and are the same command.  A name that stands for none is
the operator's fault, and no database is called for it. -/
theorem canonical_of_smartswitch (c : Chassis) (hc : c.platform.smartswitch = true)
    (a b : String) :
    (∀ module, c.resolveModule a = .ok module → Canonical c a module) ∧
    (Text.equalIgnoringCase a b = true →
      Agreeing (c.resolveModule a) (c.resolveModule b) ∧
      ∀ module, c.resolveModule a = .ok module → ∀ config target,
        setAdminStatus config c.platform a target = setAdminStatus config c.platform b target) ∧
    ∀ e, c.resolveModule a = .error e → e.isUsage = true ∧ ∀ config target,
      (setAdminStatus config c.platform a target).Asks Request.Prepares := by
  refine ⟨fun module h => canonical_of_resolveModule hc h, fun h => ?_, fun e h => ?_⟩
  · have hagree := agreeing_resolveModule hc h
    refine ⟨hagree, fun module hmodule => setAdminStatus_congr ?_⟩
    rw [hmodule] at hagree ⊢
    exact hagree.eq_of_ok.symm
  · exact ⟨isUsage_of_resolveModule h, asks_setAdminStatus_of_error h⟩

/-- A smartswitch with two DPUs. -/
def twoDpus : Chassis := .new (.ofDpus ["dpu0", "dpu1"]) (.ofUnix 0)

theorem canonical_of_smartswitch_mixedCase :
    twoDpus.platform.smartswitch = true ∧
    twoDpus.resolveModule "dpu1" = .ok ⟨"DPU1", .dpu, by decide⟩ ∧
    Text.equalIgnoringCase "dpu1" "DpU1" = true ∧
    Canonical twoDpus "dpu1" ⟨"DPU1", .dpu, by decide⟩ ∧
    Agreeing (twoDpus.resolveModule "dpu1") (twoDpus.resolveModule "DpU1") ∧
    (∀ config target, setAdminStatus config twoDpus.platform "dpu1" target =
      setAdminStatus config twoDpus.platform "DpU1" target) ∧
    twoDpus.resolveModule "all" = .error (.unknownDpu "all" ["DPU0", "DPU1"]) ∧
    ∀ config target, (setAdminStatus config twoDpus.platform "all" target).Asks
      Request.Prepares := by
  have hresolve : twoDpus.resolveModule "dpu1" = .ok ⟨"DPU1", .dpu, by decide⟩ := by rfl
  have hall : twoDpus.resolveModule "all" = .error (.unknownDpu "all" ["DPU0", "DPU1"]) := by rfl
  have hspelled : Text.equalIgnoringCase "dpu1" "DpU1" = true := by decide
  obtain ⟨hcanonical, hspellings, -⟩ := canonical_of_smartswitch twoDpus rfl "dpu1" "DpU1"
  obtain ⟨-, -, hrefused⟩ := canonical_of_smartswitch twoDpus rfl "all" "all"
  exact ⟨rfl, hresolve, hspelled, hcanonical _ hresolve, (hspellings hspelled).1,
    (hspellings hspelled).2 _ hresolve, hall, (hrefused _ hall).2⟩

end Chassis

end ChassisAdmin
