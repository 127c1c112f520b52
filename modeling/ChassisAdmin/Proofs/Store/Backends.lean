import ChassisAdmin.Chassis
import ChassisAdmin.Proofs.Store.Mirror

/-!
# Two databases that cannot be told apart

What the guard and the commands make of a record depends on its fields and not
on their order.  So each of their programs agrees with itself on the database in
memory and on a server, and so does a single plain call.  An `Interaction` is any
of these.

`answers_alike` puts interactions in a row: a database in memory and a server, both
empty at first, answer every one of them alike.  Only keys that are listed for a
pattern with a question mark need ASCII for that: `accented` has one other key.
-/

namespace ChassisAdmin

open Store (Agree Answer Call Client KeySpace Memory Mirrored Server agree_bind agree_ite agree_keys
  agree_pure agree_request agree_setEntry)

variable {σ : Type} {K : KeySpace} {S : Server σ}

/-! ## What records say, whatever the order of their fields -/

namespace Guard

variable {o o' : Option Fields}

theorem bind_get?_eq (h : Option.Rel Fields.Same o o') (f : String) :
    o.bind (·.get? f) = o'.bind (·.get? f) := by
  cases h with
  | none => rfl
  | some h => exact h.get? f

theorem adminStatusOf_eq (h : Option.Rel Fields.Same o o') (g : Guard) :
    g.adminStatusOf o = g.adminStatusOf o' := by
  rw [adminStatusOf, adminStatusOf, bind_get?_eq h]

theorem inProgressOf_eq (h : Option.Rel Fields.Same o o') : inProgressOf o = inProgressOf o' := by
  rw [inProgressOf, inProgressOf, bind_get?_eq h]

theorem startTimeOf_eq (h : Option.Rel Fields.Same o o') : startTimeOf o = startTimeOf o' :=
  bind_get?_eq h _

theorem timedOutOf_eq (h : Option.Rel Fields.Same o o') (g : Guard) :
    g.timedOutOf o = g.timedOutOf o' := by
  rw [timedOutOf, timedOutOf, startTimeOf_eq h]

theorem stateOf_eq (h : Option.Rel Fields.Same o o') (g : Guard) : g.stateOf o = g.stateOf o' := by
  rw [stateOf, stateOf, adminStatusOf_eq h, inProgressOf_eq h, startTimeOf_eq h, timedOutOf_eq h]

theorem same_clearedRecord (h : Option.Rel Fields.Same o o') :
    (clearedRecord o).Same (clearedRecord o') := by
  have hfields : Fields.Same (o.getD []) (o'.getD []) := by
    cases h with
    | none => exact .refl List.nodup_nil
    | some h => exact h
  exact (hfields.set _ _).erase _

theorem nodup_startedRecord (g : Guard) (target : AdminStatus) :
    (g.startedRecord target).names.Nodup := by
  change [Module.adminStatusField, Module.inProgressField, Module.startTimeField].Nodup
  decide

theorem rel_plainRecord (target : AdminStatus) :
    Option.Rel Fields.Same (plainRecord target) (plainRecord target) := by
  cases target with
  | up => exact .none
  | down => exact .some (.refl (by decide))

/-! ## The guard -/

variable {name : String}

theorem has_recordKey (h : K.Has name) : K.Has (Module.recordKey name) := by
  have htable : K.Has (Module.table ++ Store.separator) := by cases K <;> decide
  exact htable.append h

theorem agree_entry (hS : S.Usual) (name : String) :
    Agree K S (Option.Rel Fields.Same) (entry name) (entry name) := by
  intro m s hm
  obtain ⟨o, o', m', s', hom, hos, hrel, hm'⟩ :=
    agree_request (c := .getEntry Module.table name) hS trivial hm
  refine ⟨o, o', m', s', hom, hos, ?_, hm'⟩
  cases hrel with
  | none => exact .none
  | some h => exact .some h.1

theorem agree_transitionState (hS : S.Usual) (g : Guard) (name : String) :
    Agree K S Eq (g.transitionState name) (g.transitionState name) :=
  agree_bind (agree_entry hS name) fun _ _ h => agree_pure (stateOf_eq h g)

theorem agree_clearTransition (hS : S.Usual) (hname : K.Has name) :
    Agree K S Eq (clearTransition name) (clearTransition name) :=
  agree_bind (agree_entry hS name) fun _ _ h =>
    agree_setEntry hS (has_recordKey hname) (.some (same_clearedRecord h))

theorem agree_start (hS : S.Usual) (g : Guard) (hname : K.Has name)
    (target : AdminStatus) : Agree K S Eq (g.start name target) (g.start name target) :=
  agree_setEntry hS (has_recordKey hname) (.some (.refl (nodup_startedRecord g target)))

theorem agree_requestTransition (hS : S.Usual) (g : Guard) (module : ModuleName)
    (target : AdminStatus) (hname : K.Has module.name) :
    Agree K S Eq (g.requestTransition module target) (g.requestTransition module target) := by
  have hdone : ∀ o : TransitionOutcome, Agree K S Eq (pure o : Client _) (pure o) :=
    fun o => agree_pure rfl
  have hstart := agree_start hS g hname target
  refine agree_bind (agree_entry hS module.name) fun o o' h => ?_
  rw [adminStatusOf_eq h, inProgressOf_eq h, timedOutOf_eq h]
  refine agree_ite (hdone _) (agree_ite ?_ (agree_ite ?_ (agree_ite ?_ (hdone _))))
  · exact agree_bind (agree_setEntry hS (has_recordKey hname) (rel_plainRecord target))
      fun _ _ _ => hdone _
  · exact agree_bind hstart fun _ _ _ => hdone _
  · exact agree_bind (agree_clearTransition hS hname) fun _ _ _ =>
      agree_bind hstart fun _ _ _ => hdone _

end Guard

/-! ## The status of all modules -/

namespace Chassis

theorem agree_statesOf (hS : S.Usual) (c : Chassis) (names : List String) :
    Agree K S Eq (c.statesOf names) (c.statesOf names) := by
  induction names with
  | nil => exact agree_pure rfl
  | cons name names ih =>
    refine agree_bind (Guard.agree_transitionState hS c.guard name) ?_
    rintro state _ rfl
    refine agree_bind ih ?_
    rintro rest _ rfl
    exact agree_pure rfl

theorem plain_keyPattern : Text.Glob.Plain Module.keyPattern := by
  simp [Text.Glob.Plain, Module.keyPattern, Module.table, Store.rawKey, Store.separator]

theorem agree_moduleStatuses (hS : S.Usual) (c : Chassis) (only : Option String) :
    Agree K S Eq (c.moduleStatuses only) (c.moduleStatuses only) := by
  have hknown : Agree K S Eq c.knownModules c.knownModules := by
    refine agree_bind (agree_keys hS plain_keyPattern (by decide)) ?_
    rintro keys _ rfl
    exact agree_pure rfl
  refine agree_bind hknown ?_
  rintro names _ rfl
  cases only with
  | none => exact agree_statesOf hS c names
  | some name => exact agree_statesOf hS c _

end Chassis

/-! ## The ASICs of a card -/

namespace Fabric

theorem plain_asicPattern : Text.Glob.Plain (table ++ "*") := by
  simp [Text.Glob.Plain, table]

theorem agree_collect (hS : S.Usual) (card : String) (keys : List String) (found : List Nat) :
    Agree K S Eq (collect card keys found) (collect card keys found) := by
  induction keys generalizing found with
  | nil => exact agree_pure rfl
  | cons key keys ih =>
    refine agree_bind (agree_request (c := .hget key nameField) hS trivial) ?_
    rintro name _ rfl
    refine agree_ite ?_ (ih found)
    cases asicOfKey? key with
    | none => exact ih found
    | some asic => exact ih _

theorem agree_binding (hS : S.Usual) (card : String) :
    Agree K S Eq (binding card) (binding card) := by
  refine agree_bind (agree_keys hS plain_asicPattern (by decide)) ?_
  rintro keys _ rfl
  exact agree_collect hS card keys []

end Fabric

/-! ## Interactions -/

/-- Something that is done with one database. -/
inductive Interaction where
  /-- A single call. -/
  | call (c : Call)
  /-- A request put to a guard. -/
  | request (g : Guard) (module : ModuleName) (target : AdminStatus)
  /-- Clearing the change of a module. -/
  | clear (name : String)
  /-- Asking for the state of a module. -/
  | state (g : Guard) (name : String)
  /-- Asking for the states of all modules, or of those with one name. -/
  | statuses (c : Chassis) (only : Option String)
  /-- Looking up the ASICs of a card. -/
  | binding (card : String)

namespace Interaction

/-- What an interaction that succeeds answers with. -/
abbrev Value : Interaction → Type
  | call c => c.Value
  | request .. => TransitionOutcome
  | clear _ => Unit
  | state .. => TransitionState
  | statuses .. => List (String × TransitionState)
  | binding _ => List Nat

/-- The program of an interaction. -/
def client : (i : Interaction) → Client i.Value
  | call c => Attempt.request c id
  | request g module target => g.requestTransition module target
  | clear name => Guard.clearTransition name
  | state g name => g.transitionState name
  | statuses c only => c.moduleStatuses only
  | binding card => Fabric.binding card

/-- An interaction whose calls are plain, since it writes under names of the key space. -/
def Plain (K : KeySpace) : Interaction → Prop
  | call c => c.Plain K
  | request _ module _ => K.Has module.name
  | clear name => K.Has name
  | state .. | statuses .. | binding _ => True

/-- Values of an interaction that are alike: equal, but for the records and the lists of keys that
single calls read. -/
def SameValue (K : KeySpace) : (i : Interaction) → i.Value → i.Value → Prop
  | call c, a, a' => c.SameValue K a a'
  | request .., a, a' | clear _, a, a' | state .., a, a' | statuses .., a, a' | binding _, a, a' =>
      a = a'

/-- An interaction with its answer. -/
abbrev Answered : Type := (i : Interaction) × Except SystemError i.Value

/-- One interaction answered twice with values that are alike. -/
inductive Alike (K : KeySpace) : Answered → Answered → Prop where
  | mk {i : Interaction} {a a' : i.Value} (h : i.SameValue K a a') :
      Alike K ⟨i, .ok a⟩ ⟨i, .ok a'⟩

/-- The answers to interactions, one after the other. -/
def answers (handle : (c : Call) → σ → Answer c × σ) : List Interaction → σ → List Answered
  | [], _ => []
  | i :: is, s =>
      let r := Attempt.runWith handle i.client s
      ⟨i, r.1⟩ :: answers handle is r.2

/-- A plain interaction is answered alike by a database in memory and by a server. -/
theorem agree_client (hS : S.Usual) {i : Interaction} (hi : i.Plain K) :
    Agree K S (i.SameValue K) i.client i.client := by
  cases i with
  | call c => exact agree_request hS hi
  | request g module target => exact Guard.agree_requestTransition hS g module target hi
  | clear name => exact Guard.agree_clearTransition hS hi
  | state g name => exact Guard.agree_transitionState hS g name
  | statuses c only => exact Chassis.agree_moduleStatuses hS c only
  | binding card => exact Fabric.agree_binding hS card

theorem answers_of_mirrored (hS : S.Usual) {m : Memory} {s : σ} {is : List Interaction}
    (h : Mirrored K m (S.hash? s)) (his : ∀ i ∈ is, i.Plain K) :
    List.Forall₂ (Alike K) (answers Memory.answer is m) (answers S.answer is s) := by
  induction is generalizing m s with
  | nil => exact .nil
  | cons i is ih =>
    obtain ⟨hi, his⟩ := List.forall_mem_cons.1 his
    obtain ⟨a, a', m', s', hm, hs, ha, hm'⟩ := agree_client hS hi h
    unfold answers
    rw [show Attempt.runWith Memory.answer i.client m = _ from hm,
      show Attempt.runWith S.answer i.client s = _ from hs]
    exact .cons (.mk ha) (ih hm' his)

/-- A database in memory and a server, both empty at first, answer plain interactions alike. -/
theorem answers_alike (K : KeySpace) (hS : S.Usual) {s : σ} (hs : ∀ k, S.hash? s k = none)
    {is : List Interaction} (his : ∀ i ∈ is, i.Plain K) :
    List.Forall₂ (Alike K) (answers Memory.answer is Memory.empty) (answers S.answer is s) := by
  have hempty : Mirrored K Memory.empty (S.hash? s) := (funext hs : S.hash? s = _) ▸
    Store.mirrored_empty
  exact answers_of_mirrored hS hempty his

/-- A record is written with its fields out of order and read, and its module is brought up. -/
def outOfOrder : List Interaction :=
  [.call (.setEntry Module.table "DPU1"
      (some [(Module.inProgressField, "False"), (Module.adminStatusField, "down")])),
    .call (.getEntry Module.table "DPU1"),
    .request ⟨true, Time.DateTime.ofUnix 0⟩ ⟨"DPU1", .dpu, by decide⟩ .up,
    .call (.keys "*|DPU?")]

theorem answers_alike_outOfOrder :
    Server.simulated.Usual ∧ (∀ k, Server.simulated.hash? Keyed.empty k = none) ∧
      (∀ i ∈ outOfOrder, i.Plain .ascii) ∧
      List.Forall₂ (Alike .ascii) (answers Memory.answer outOfOrder Memory.empty)
        (answers Server.simulated.answer outOfOrder Keyed.empty) := by
  have hplain : ∀ i ∈ outOfOrder, i.Plain .ascii := by
    refine List.forall_mem_cons.2 ⟨⟨by decide, fun l hl => ?_⟩, List.forall_mem_cons.2 ⟨trivial,
      List.forall_mem_cons.2 ⟨?_, List.forall_mem_cons.2 ⟨?_, fun _ h => nomatch h⟩⟩⟩⟩
    · rw [← Option.some.inj hl]
      decide
    · unfold Plain
      decide
    · simp [Plain, Call.Plain, Text.Glob.Plain]
  have hempty : ∀ k, Server.simulated.hash? Keyed.empty k = none := Keyed.get?_empty
  exact ⟨Server.usual_simulated, hempty, hplain,
    answers_alike .ascii Server.usual_simulated hempty hplain⟩

/-- Writes a key whose last character is two bytes. -/
def writeAccented : Call := .setEntry "T" "é" (some [("a", "1")])

/-- The key is written and asked for with a question mark in the place of that character. -/
def accented : List Interaction := [.call writeAccented, .call (.keys "T|?")]

theorem plain_oneCharacter : Text.Glob.Plain "T|?" := by
  simp [Text.Glob.Plain]

/-- No server lists the key: its last character is more than a question mark stands for. -/
theorem answers_accented_of_usual (hS : S.Usual) {s : σ} (hs : ∀ k, S.hash? s k = none) :
    answers S.answer accented s =
      [⟨.call writeAccented, .ok ()⟩, ⟨.call (.keys "T|?"), .ok []⟩] := by
  have hanswers : answers S.answer accented s =
      [⟨.call writeAccented, (S.answer writeAccented s).1⟩,
        ⟨.call (.keys "T|?"), (S.answer (.keys "T|?") (S.answer writeAccented s).2).1⟩] := rfl
  have hwritten : (S.answer writeAccented s).1 = .ok () := by
    change Store.Redis.failed _ (S.reply (.replace "T|é" [("a", "1")]) s).1 = _
    rw [hS.replace]
    rfl
  have hkeys : ∀ key, (S.hash? (S.answer writeAccented s).2 key).isSome = true → key = "T|é" := by
    intro key hkey
    by_contra hne
    have hnone : S.hash? (S.answer writeAccented s).2 key = none :=
      (congrFun (hS.after (.replace "T|é" [("a", "1")]) s) key).trans
        ((if_neg (Ne.symm hne)).trans (hs key))
    rw [hnone] at hkey
    cases hkey
  have hstands : ¬Text.Glob.Stands "T|?" "T|é" := by
    rw [Text.Glob.Stands, ← Store.matchesBytes_iff]
    decide
  obtain ⟨l, hl, -, hmem⟩ := hS.keys "T|?" (S.answer writeAccented s).2 plain_oneCharacter
  have hnil : l = [] := List.eq_nil_iff_forall_not_mem.2 fun key hkey => by
    obtain ⟨hsome, hkey⟩ := (hmem key).1 hkey
    exact hstands (hkeys key hsome ▸ hkey)
  have hlisted : (S.answer (.keys "T|?") (S.answer writeAccented s).2).1 = .ok [] := by
    change (Store.Redis.failed _ (S.reply (.keys "T|?") (S.answer writeAccented s).2).1).map _ = _
    rw [hl, hnil]
    exact congrArg Except.ok List.mergeSort_nil
  rw [hanswers, hwritten, hlisted]

/-- The database in memory lists the key, a server does not. -/
theorem answers_accented :
    (∀ i ∈ accented, i.Plain .any) ∧ Server.simulated.Usual ∧
      (∀ k, Server.simulated.hash? Keyed.empty k = none) ∧
      answers Memory.answer accented Memory.empty =
        [⟨.call writeAccented, .ok ()⟩, ⟨.call (.keys "T|?"), .ok ["T|é"]⟩] ∧
      answers Server.simulated.answer accented Keyed.empty =
        [⟨.call writeAccented, .ok ()⟩, ⟨.call (.keys "T|?"), .ok []⟩] := by
  have hplain : ∀ i ∈ accented, i.Plain .any := by
    refine List.forall_mem_cons.2 ⟨⟨by decide, fun l hl => ?_⟩,
      List.forall_mem_cons.2 ⟨plain_oneCharacter, fun _ h => nomatch h⟩⟩
    rw [← Option.some.inj hl]
    decide
  have hempty : ∀ k, Server.simulated.hash? Keyed.empty k = none := Keyed.get?_empty
  exact ⟨hplain, Server.usual_simulated, hempty, rfl,
    answers_accented_of_usual Server.usual_simulated hempty⟩

end Interaction

end ChassisAdmin
