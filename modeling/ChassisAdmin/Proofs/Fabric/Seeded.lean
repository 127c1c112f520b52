import ChassisAdmin.Proofs.Fabric.Site
import ChassisAdmin.Scenario

/-!
# Shutting down a card whose rows were seeded

The rows of a scenario stand under the keys that are made from the numbers of
their ASICs, and of several rows for one ASIC the last one counts
(`get?_seedRows`).  So an ASIC is bound to a card where the last row for it names
the card (`binds_seedRows_iff`), and a shutdown of the card deletes exactly these
rows (`exists_shutdown_of_seeded`).

After that no ASIC is bound to the card.  Commands on it are still applied, but
they call no service and leave CHASSIS_STATE_DB as it is (`runAll_of_unbound`).
-/

namespace ChassisAdmin

open Store (Memory)
open ChassisAdmin.Module (recordIn)

/-! ## Seeded records -/

namespace Store.Memory

/-- Of several records seeded under one raw key the last one counts. -/
theorem get?_seed (m : Memory) (records : List (String × String × Fields)) (key : String) :
    (m.seed records).records.get? key =
      ((records.reverse.find? fun r => rawKey r.1 r.2.1 == key).map (·.2.2)).or
        (m.records.get? key) := by
  induction records generalizing m with
  | nil => rfl
  | cons r records ih =>
    rw [seed, List.foldl_cons, ← seed, ih, List.reverse_cons, List.find?_append, Option.map_or,
      Option.or_assoc]
    congr 1
    rw [insert, Keyed.get?_insert]
    by_cases h : rawKey r.1 r.2.1 = key <;> simp [h]

theorem get?_seed_map {β : Type} (f : β → String × String × Fields) (l : List β) (key : String) :
    (empty.seed (l.map f)).records.get? key =
      (l.reverse.find? fun b => rawKey (f b).1 (f b).2.1 == key).map fun b => (f b).2.2 := by
  rw [get?_seed, ← List.map_reverse, List.find?_map, Option.map_map]
  exact Option.or_none

end Store.Memory

namespace Fabric

/-- The database with rows of ASICs and nothing else. -/
def seedRows (rows : List AsicRow) : Memory := Scenario.seedChassisState ⟨[], rows⟩ Memory.empty

/-- The card that the last row for an ASIC names. -/
def lastCard? (rows : List AsicRow) (asic : Nat) : Option String :=
  (rows.reverse.find? (·.asic == asic)).map (·.card)

variable {rows : List AsicRow} {card key : String} {asic : Nat}

theorem get?_seedRows (rows : List AsicRow) (key : String) :
    (seedRows rows).records.get? key =
      (rows.reverse.find? (·.rawKey == key)).map (·.fields) :=
  Memory.get?_seed_map _ rows key

/-- A row for an ASIC names the card of the last one. -/
theorem cardOf?_seedRows (rows : List AsicRow) (asic : Nat) :
    cardOf? (seedRows rows) (rowRawKey asic) = lastCard? rows asic := by
  have hkey : ∀ r : AsicRow, (r.rawKey == rowRawKey asic) = (r.asic == asic) := fun r =>
    Bool.eq_iff_iff.2 (by simpa using ⟨rowRawKey_injective, fun h => congrArg rowRawKey h⟩)
  simp only [cardOf?, get?_seedRows, lastCard?, hkey]
  cases rows.reverse.find? (·.asic == asic) with
  | none | some r => rfl

/-- An ASIC is bound to the card that the last row for it names, by that row alone. -/
theorem binds_seedRows_iff (hrows : ∀ r ∈ rows, r.asic ≤ maxAsic) :
    Binds (seedRows rows) card key asic ↔
      key = rowRawKey asic ∧ lastCard? rows asic = some card := by
  constructor
  · intro h
    have hsome := h.isSome
    rw [get?_seedRows, Option.isSome_map, List.find?_isSome] at hsome
    obtain ⟨r, hr, hkey⟩ := hsome
    obtain rfl : r.rawKey = key := by simpa using hkey
    obtain ⟨hcard, rfl⟩ := (binds_rowRawKey_iff (hrows r (List.mem_reverse.1 hr))).1 h
    exact ⟨rfl, (cardOf?_seedRows rows _).symm.trans hcard⟩
  · rintro ⟨rfl, hlast⟩
    obtain ⟨r, hr, -⟩ := Option.map_eq_some_iff.1 hlast
    have hasic : r.asic = asic := by simpa using List.find?_some hr
    have hle : asic ≤ maxAsic := hasic ▸ hrows r (List.mem_reverse.1 (List.mem_of_find?_eq_some hr))
    exact (binds_rowRawKey_iff hle).2 ⟨(cardOf?_seedRows rows asic).trans hlast, rfl⟩

theorem bound_nil_of_not_binds {m : Memory} (h : ∀ key asic, ¬Binds m card key asic) :
    Bound m card [] := by
  obtain ⟨asics, hb, -, hmem⟩ := exists_bound m card
  obtain rfl : asics = [] := List.eq_nil_iff_forall_not_mem.2 fun asic ha =>
    have ⟨key, hbinds⟩ := (hmem asic).1 ha
    h key asic hbinds
  exact hb

/-- Where the seeded rows of all ASICs of a card are gone, no ASIC is bound to it. -/
theorem bound_nil_of_removed (hrows : ∀ r ∈ rows, r.asic ≤ maxAsic) {asics : List Nat}
    (hasics : ∀ asic, asic ∈ asics ↔ lastCard? rows asic = some card) {m : Memory}
    (hm : ∀ key, m.records.get? key =
      if key ∈ asics.map rowRawKey then none else (seedRows rows).records.get? key) :
    Bound m card [] := by
  -- A row that is left and binds an ASIC to the card was seeded, so it is one of those removed.
  refine bound_nil_of_not_binds fun key asic h => ?_
  have hsome := h.isSome
  have hkept : key ∉ asics.map rowRawKey := by
    intro hmem
    rw [hm, if_pos hmem] at hsome
    cases hsome
  have hrecord := hm key
  rw [if_neg hkept] at hrecord
  have hseeded : Binds (seedRows rows) card key asic :=
    ⟨h.inTable, by rw [cardOf?, ← hrecord]; exact h.names, h.ends⟩
  obtain ⟨rfl, hlast⟩ := (binds_seedRows_iff hrows).1 hseeded
  exact hkept (List.mem_map_of_mem ((hasics asic).2 hlast))

/-! ## Commands on a card without ASICs -/

namespace Site

open Chassis (equipped)

variable {services : Manager} {s s' : Site} {module : ModuleName} {platform : Platform}
  {pollTimeout : Nat}

theorem Ran.eq_of_unbound {target : AdminStatus}
    (h : Ran services card (plan target []) s s') : s' = s := by
  rw [plan_eq_nil_iff.2 rfl] at h
  exact (congrArg Prod.snd h.run).symm

/-- Runs commands on a card of a standard chassis, each at its reading of the clock. -/
def runAll (services : Manager) (platform : Platform) (pollTimeout : Nat) (card : ModuleName) :
    List (Time.DateTime × AdminStatus) → Site → Site
  | [], s => s
  | (now, target) :: commands, s =>
      runAll services platform pollTimeout card commands
        (s.run services ((equipped platform ⟨false, now⟩ pollTimeout).transition card target)).2

theorem run_transition_of_unbound (hs : services.Obedient) (hcard : module.isFabricCard = true)
    (hb : Bound s.chassisState module.name []) (now : Time.DateTime) (target : AdminStatus) :
    ∃ report config, s.run services
      ((equipped platform ⟨false, now⟩ pollTimeout).transition module target) =
        (.ok report, { s with config := config }) := by
  by_cases hseen : (⟨false, now⟩ : Guard).adminStatusOf (recordIn s.config module.name) = target
  · exact ⟨_, s.config, run_transition_of_same hseen⟩
  · obtain ⟨s', hrun, hran⟩ := exists_run_transition hs hcard rfl hseen hb
    rw [hran.eq_of_unbound] at hrun
    exact ⟨_, _, hrun⟩

/-- Where no ASIC is bound to a card, commands on it call no service and change no row. -/
theorem runAll_of_unbound (hs : services.Obedient) (hcard : module.isFabricCard = true)
    (hb : Bound s.chassisState module.name []) (commands : List (Time.DateTime × AdminStatus)) :
    (runAll services platform pollTimeout module commands s).chassisState = s.chassisState ∧
      (runAll services platform pollTimeout module commands s).calls = s.calls := by
  induction commands generalizing s with
  | nil => exact ⟨rfl, rfl⟩
  | cons command commands ih =>
    obtain ⟨report, config, hrun⟩ := run_transition_of_unbound hs hcard hb command.1 command.2
    rw [runAll, hrun]
    exact ih hb

/-! ## A shutdown and what follows -/

variable (platform pollTimeout) in
/-- A shutdown of a card reports on the ASICs whose last seeded row names the card, and exactly
their rows are gone after it.  The startup after it finds no ASIC, and neither it nor any command
on the card after that calls a service or changes a row. -/
theorem exists_shutdown_of_seeded {rows : List AsicRow} (hrows : ∀ r ∈ rows, r.asic ≤ maxAsic)
    (hcard : module.isFabricCard = true) {now : Time.DateTime} {config : Memory}
    (hup : (⟨false, now⟩ : Guard).adminStatusOf (recordIn config module.name) = .up)
    (hs : services.Obedient) (calls : List Service.Call) :
    ∃ asics s₁, asics.Pairwise (· < ·) ∧
      (∀ asic, asic ∈ asics ↔ lastCard? rows asic = some module.name) ∧
      Site.run services ⟨config, seedRows rows, calls⟩
        ((equipped platform ⟨false, now⟩ pollTimeout).shutdown module) =
          (.ok ⟨module, .down, .applied, some (report .down asics)⟩, s₁) ∧
      (∀ key, s₁.chassisState.records.get? key =
        if key ∈ asics.map rowRawKey then none else (seedRows rows).records.get? key) ∧
      ∀ later, ∃ s₂,
        s₁.run services ((equipped platform ⟨false, later⟩ pollTimeout).startup module) =
          (.ok ⟨module, .up, .applied, some .noAsics⟩, s₂) ∧
        ∀ commands,
          (runAll services platform pollTimeout module commands s₂).chassisState = s₁.chassisState ∧
          (runAll services platform pollTimeout module commands s₂).calls = s₁.calls := by
  obtain ⟨asics, hb, hsorted, hmem⟩ := exists_bound (seedRows rows) module.name
  have hasics : ∀ asic, asic ∈ asics ↔ lastCard? rows asic = some module.name := by
    intro asic
    simp only [hmem, binds_seedRows_iff hrows, exists_eq_left]
  have hother : (⟨false, now⟩ : Guard).adminStatusOf (recordIn config module.name) ≠ .down := by
    rw [hup]
    decide
  obtain ⟨s₁, hshutdown, hran⟩ :=
    exists_run_transition (s := ⟨config, seedRows rows, calls⟩) hs hcard rfl hother hb
  have hrecords : ∀ key, s₁.chassisState.records.get? key =
      if key ∈ asics.map rowRawKey then none else (seedRows rows).records.get? key := by
    intro key
    rw [hran.get?_chassisState, deletedKeys_plan_down]
  have hunbound : Bound s₁.chassisState module.name [] :=
    bound_nil_of_removed hrows hasics hrecords
  refine ⟨asics, s₁, hsorted, hasics, hshutdown, hrecords, fun later => ?_⟩
  have hdown : (⟨false, later⟩ : Guard).adminStatusOf (recordIn s₁.config module.name) ≠ .up := by
    rw [hran.config, show recordIn _ module.name = _ from Memory.entry_put_self _ _ _ _,
      Guard.adminStatusOf_plainRecord _ _ rfl]
    decide
  obtain ⟨s₂, hstartup, hran₂⟩ := exists_run_transition hs hcard rfl hdown hunbound
  refine ⟨s₂, hstartup, fun commands => ?_⟩
  rw [hran₂.eq_of_unbound]
  -- The startup has written CONFIG_DB alone, so the card is without ASICs as before.
  refine runAll_of_unbound hs hcard ?_ commands
  exact hunbound

/-! ## A scenario -/

/-- A manager that starts and stops units and tells of each whether it was stopped last. -/
def manager : Manager
  | past, .isActive unit => .ok (past.getLast? != some (.stop unit))
  | _, .start _ | _, .stop _ | _, .resetFailed _ => .ok ()

theorem obedient_manager : Manager.Obedient manager where
  carriesOut past c := by
    cases c with
    | start | stop | resetFailed | isActive => exact ⟨_, rfl⟩
  inactive past unit := by
    change Except.ok (_ != _) = Except.ok false
    rw [List.getLast?_concat, bne_self_eq_false]

/-- Rows in no order.  Two ASICs change from one card to another, and one number is the greatest. -/
def rebound : List AsicRow :=
  [⟨10, "FABRIC-CARD0"⟩, ⟨9, "FABRIC-CARD0"⟩, ⟨2, "FABRIC-CARD1"⟩, ⟨maxAsic, "FABRIC-CARD0"⟩,
    ⟨9, "FABRIC-CARD1"⟩, ⟨2, "FABRIC-CARD0"⟩]

open Chassis (card0 standardNow)

theorem exists_shutdown_of_rebound : ∃ asics s₁,
    (∀ asic ∈ [2, 10, maxAsic], asic ∈ asics) ∧ 9 ∉ asics ∧
    Site.run manager ⟨Memory.empty, seedRows rebound, []⟩ (standardNow.shutdown card0) =
      (.ok ⟨card0, .down, .applied, some (report .down asics)⟩, s₁) ∧
    s₁.chassisState.records.get? (rowRawKey 2) = none := by
  have hrows : ∀ r ∈ rebound, r.asic ≤ maxAsic := by decide
  have hlast : (∀ asic ∈ [2, 10, maxAsic], lastCard? rebound asic = some card0.name) ∧
      lastCard? rebound 9 ≠ some card0.name := by decide
  have hup : standardNow.guard.adminStatusOf (recordIn Memory.empty card0.name) = .up := rfl
  obtain ⟨asics, s₁, -, hasics, hrun, hrecords, -⟩ :=
    exists_shutdown_of_seeded .standard pollTimeout hrows rfl hup obedient_manager []
  have hmem : ∀ asic ∈ [2, 10, maxAsic], asic ∈ asics := fun asic ha =>
    (hasics asic).2 (hlast.1 asic ha)
  refine ⟨asics, s₁, hmem, mt (hasics 9).1 hlast.2, hrun, ?_⟩
  rw [hrecords, if_pos (List.mem_map_of_mem (hmem 2 List.mem_cons_self))]

end Site

end Fabric

end ChassisAdmin
