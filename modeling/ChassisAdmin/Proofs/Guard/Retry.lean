import ChassisAdmin.Proofs.Guard.Granted
import ChassisAdmin.Proofs.Guard.Operation
import ChassisAdmin.Proofs.Store.Transcript

/-!
# Requests that are repeated after a failure

A request makes up to four calls, and the database may refuse any of them.  The
request then ends with an error.  It has written nothing by then, with one
exception: where an abandoned change is reclaimed and the last write is refused,
the change has been cleared already (`eq_or_halfway_of_refused`).

Neither state stands in the way of the request.  When it is made again at the
same reading, on a database that refuses nothing, it leaves what it would have
left the first time (`harmless_and_repeatable`).  After the exception it finds
no change under way, so it is granted as an ordinary request.
-/

namespace ChassisAdmin.Guard

open Store (Memory Call Reply Refused)
open ChassisAdmin.Module (recordIn withRecord)

variable {g : Guard} {module : ModuleName} {target : AdminStatus} {m m' : Memory}
  {t : List (Exchange Call Store.Answer)}

theorem prompt_clearTransition (name : String) : (clearTransition name).Prompt :=
  Attempt.prompt_bind (Store.Client.prompt_getEntry _ _) fun _ =>
    Store.Client.prompt_setEntry _ _ _

/-- A request stops with an error at the first call that is refused. -/
theorem prompt_requestTransition (g : Guard) (module : ModuleName) (target : AdminStatus) :
    (g.requestTransition module target).Prompt := by
  refine Attempt.prompt_bind (Store.Client.prompt_getEntry _ _) ?_
  intro entry
  split
  · exact Attempt.prompt_pure _
  split
  · exact Attempt.prompt_bind (Store.Client.prompt_setEntry _ _ _) fun _ => Attempt.prompt_pure _
  split
  · exact Attempt.prompt_bind (Store.Client.prompt_setEntry _ _ _) fun _ => Attempt.prompt_pure _
  split
  · refine Attempt.prompt_bind (prompt_clearTransition _) ?_
    intro _
    exact Attempt.prompt_bind (Store.Client.prompt_setEntry _ _ _) fun _ => Attempt.prompt_pure _
  · exact Attempt.prompt_pure _

/-! ## What a failed request leaves -/

theorem transcript_clearTransition {name : String} {r : Except SystemError Unit}
    (h : (clearTransition name).Transcript (Reply fun _ => True) m t r m') :
    (∃ e, r = .error e) ∧ m' = m ∨
      r = .ok () ∧ m' = withRecord m name (some (clearedRecord (recordIn m name))) ∧
        t = [⟨.getEntry Module.table name, .ok (recordIn m name)⟩,
          ⟨.setEntry Module.table name (some (clearedRecord (recordIn m name))), .ok ()⟩] := by
  rcases Attempt.transcript_bind_iff.1 h with ⟨e, hr, rfl⟩ | ⟨entry, t₁, m₁, t₂, hr, hw, rfl⟩
  · exact .inl ⟨⟨e, rfl⟩, (Store.Client.transcript_getEntry hr).1⟩
  · obtain ⟨rfl, rfl, hentry | ⟨_, hentry⟩⟩ := Store.Client.transcript_getEntry hr
    · cases hentry
      obtain ⟨rfl, ⟨rfl, rfl⟩ | ⟨he, rfl⟩⟩ := Store.Client.transcript_setEntry hw
      · exact .inr ⟨rfl, rfl, rfl⟩
      · exact .inl ⟨he, rfl⟩
    · cases hentry

/-- The exchanges of a request that reclaims an abandoned change and is refused the last call. -/
def halfwayTranscript (g : Guard) (name : String) (target : AdminStatus) (entry : Option Fields)
    (e : SystemError) : List (Exchange Call Store.Answer) :=
  [⟨.getEntry Module.table name, .ok entry⟩,
    ⟨.getEntry Module.table name, .ok entry⟩,
    ⟨.setEntry Module.table name (some (clearedRecord entry)), .ok ()⟩,
    ⟨.setEntry Module.table name (some (g.startedRecord target)), .error e⟩]

/-- A failed request has written nothing, or it has cleared an abandoned change and was refused
the write after that. -/
theorem eq_or_halfway_of_refused {e : SystemError}
    (h : (g.requestTransition module target).Transcript (Reply fun _ => True) m t (.error e) m') :
    m' = m ∨
      m' = withRecord m module.name (some (clearedRecord (recordIn m module.name))) ∧
      (∃ e, t = g.halfwayTranscript module.name target (recordIn m module.name) e) ∧
      g.smartswitch = true ∧ g.adminStatusOf (recordIn m module.name) ≠ target ∧
      inProgressOf (recordIn m module.name) = true ∧
      g.timedOutOf (recordIn m module.name) = true := by
  cases requested_of_ends (Store.ends_of_transcript h) with
  | failed => exact .inl rfl
  | halfway _ _ hg hs hp ht =>
    -- The list of ends tells how the request got here, and the transcript which call was refused.
    rcases Attempt.transcript_bind_iff.1 h with ⟨_, hr, _⟩ | ⟨entry, t₁, m₁, t₂, hr, hrest, rfl⟩
    · exact .inl (Store.Client.transcript_getEntry hr).1
    obtain ⟨rfl, rfl, hentry | ⟨_, hentry⟩⟩ := Store.Client.transcript_getEntry hr
    · cases hentry
      rw [if_neg hs, if_neg (by rw [hg]; decide), if_neg (by rw [hp]; decide), if_pos ht] at hrest
      rcases Attempt.transcript_bind_iff.1 hrest with ⟨_, hc, _⟩ | ⟨_, t₃, m₂, t₄, hc, hw, rfl⟩
      · rcases transcript_clearTransition hc with ⟨_, hm⟩ | ⟨hc, _⟩
        · exact .inl hm
        · cases hc
      · rcases transcript_clearTransition hc with ⟨⟨_, hc⟩, _⟩ | ⟨_, rfl, rfl⟩
        · cases hc
        rcases Attempt.transcript_bind_iff.1 hw with ⟨e', hw, _⟩ | ⟨_, _, _, _, _, hr, _⟩
        · obtain ⟨rfl, ⟨hw, _⟩ | ⟨_, hm⟩⟩ := Store.Client.transcript_setEntry hw
          · cases hw
          · exact .inr ⟨hm, ⟨e', rfl⟩, hg, hs, hp, ht⟩
        · cases (Attempt.transcript_pure_iff.1 hr).1
    · cases hentry

/-- Where a change is under way there is a record, and the guard sees it as it is. -/
theorem exists_record_of_inProgressOf {name : String} (hp : inProgressOf (recordIn m name) = true) :
    ∃ l, m.record Module.table name = some l ∧ recordIn m name = some l := by
  cases hentry : recordIn m name with
  | none =>
    rw [hentry] at hp
    cases hp
  | some l =>
    obtain ⟨l', hrecord, hl⟩ := Option.bind_eq_some_iff.1 hentry
    cases l' with
    | nil => cases hl
    | cons f l' =>
      cases hl
      exact ⟨_, hrecord, rfl⟩

/-! ## The request made again -/

/-- Where a change is under way that has been abandoned, a request reclaims it. -/
theorem onMemory_of_abandoned (hg : g.smartswitch = true)
    (hs : g.adminStatusOf (recordIn m module.name) ≠ target)
    (hp : inProgressOf (recordIn m module.name) = true)
    (ht : g.timedOutOf (recordIn m module.name) = true) :
    (g.requestTransition module target).onMemory m =
      (.ok .appliedAfterTimeoutReclaim,
        withRecord (withRecord m module.name (some (clearedRecord (recordIn m module.name))))
          module.name (some (g.startedRecord target))) := by
  obtain ⟨o, m₁, hr, h⟩ := exists_requested_onMemory g module target m
  rw [hr]
  cases h with
  | same hs' => exact absurd hs' hs
  | plain _ hg' => exact absurd (hg.symm.trans hg') (by decide)
  | started _ _ hp' => exact absurd (hp.symm.trans hp') (by decide)
  | rejected _ _ _ ht' => exact absurd (ht.symm.trans ht') (by decide)
  | reclaimed => rfl

/-- Where no change is under way, a request on a smartswitch starts one. -/
theorem onMemory_of_idle (hg : g.smartswitch = true)
    (hs : g.adminStatusOf (recordIn m module.name) ≠ target)
    (hp : inProgressOf (recordIn m module.name) = false) :
    (g.requestTransition module target).onMemory m =
      (.ok .applied, withRecord m module.name (some (g.startedRecord target))) := by
  obtain ⟨o, m₁, hr, h⟩ := exists_requested_onMemory g module target m
  rw [hr]
  cases h with
  | same hs' => exact absurd hs' hs
  | plain _ hg' => exact absurd (hg.symm.trans hg') (by decide)
  | started => rfl
  | rejected _ _ hp' => exact absurd (hp.symm.trans hp') (by decide)
  | reclaimed _ _ hp' => exact absurd (hp.symm.trans hp') (by decide)

/-- A request of which a call is refused ends with an error.  It has changed nothing, or it was
refused the last write of a reclaim and has cleared the change, which keeps the status.  The same
request on what it leaves comes to the same end as on what it found. -/
theorem harmless_and_repeatable_of_refused {r : Except SystemError TransitionOutcome}
    (h : (g.requestTransition module target).Transcript (Reply fun _ => True) m t r m')
    (hf : ∃ x ∈ t, Refused x) :
    (∃ e, r = .error e) ∧
    (∀ key, key ≠ Module.recordKey module.name → m'.records.get? key = m.records.get? key) ∧
    (m' = m ∨ ∃ l e, t = g.halfwayTranscript module.name target (some l) e ∧
      m.record Module.table module.name = some l ∧
      m'.record Module.table module.name =
        some ((l.set Module.inProgressField (flagText false)).erase Module.startTimeField)) ∧
    (∀ g' : Guard, ((g'.currentAdminStatus module.name).onMemory m').1 =
      ((g'.currentAdminStatus module.name).onMemory m).1) ∧
    ∃ o o' m₁, (g.requestTransition module target).onMemory m = (.ok o, m₁) ∧
      (g.requestTransition module target).onMemory m' = (.ok o', m₁) ∧
      o'.isApplied = o.isApplied := by
  obtain ⟨e, rfl⟩ : ∃ e, r = .error e := by
    rcases Program.ok_or_error_of_prompt (prompt_requestTransition g module target) h with
      ⟨-, hnone⟩ | ⟨he, -⟩
    · obtain ⟨x, hx, hrefused⟩ := hf
      exact absurd hrefused (hnone x hx)
    · exact he
  refine ⟨⟨e, rfl⟩, ?_⟩
  rcases eq_or_halfway_of_refused h with rfl | ⟨rfl, ⟨e', rfl⟩, hg, hs, hp, ht⟩
  · obtain ⟨o, m₁, hr, -⟩ := exists_requested_onMemory g module target m'
    exact ⟨fun _ _ => rfl, .inl rfl, fun _ => rfl, o, o, m₁, hr, hr, rfl⟩
  · have hcleared : recordIn (withRecord m module.name
        (some (clearedRecord (recordIn m module.name)))) module.name =
          some (clearedRecord (recordIn m module.name)) :=
      (Memory.entry_put_self _ _ _ _).trans (nonempty_clearedRecord _)
    refine ⟨?_, .inr ?_, ?_, _, _, _, onMemory_of_abandoned hg hs hp ht, onMemory_of_idle hg ?_ ?_,
      rfl⟩
    · intro key hkey
      exact (Memory.get?_put _ _ _ _ _).trans (if_neg hkey.symm)
    · obtain ⟨l, hrecord, hl⟩ := exists_record_of_inProgressOf hp
      refine ⟨l, e', by rw [hl], hrecord, ?_⟩
      rw [hl, Memory.record_put, if_pos rfl]
      exact nonempty_clearedRecord (some l)
    · intro g'
      change Except.ok (g'.adminStatusOf (recordIn _ _)) = Except.ok (g'.adminStatusOf (recordIn _ _))
      rw [hcleared, adminStatusOf_clearedRecord]
    · rw [hcleared, adminStatusOf_clearedRecord]
      exact hs
    · rw [hcleared]
      exact inProgressOf_clearedRecord _

/-- Every refusal of the last write of a reclaim is a transcript. -/
theorem transcript_halfway {entry : Option Fields} (hentry : recordIn m module.name = entry)
    (hg : g.smartswitch = true) (hs : g.adminStatusOf entry ≠ target)
    (hp : inProgressOf entry = true) (ht : g.timedOutOf entry = true) (e : SystemError) :
    (g.requestTransition module target).Transcript (Reply fun _ => True) m
      (g.halfwayTranscript module.name target entry e) (.error e)
      (withRecord m module.name (some (clearedRecord entry))) := by
  subst hentry
  refine Attempt.transcript_bind_iff.2 (.inr ⟨recordIn m module.name, [_], m, _, ?_, ?_, rfl⟩)
  · exact .ask (.answered _ _) (.done _ _)
  · rw [if_neg hs, if_neg (by rw [hg]; decide), if_neg (by rw [hp]; decide), if_pos ht]
    exact .ask (.answered _ _) (.ask (.answered _ _) (.ask (.refused _ _ e trivial) (.done _ _)))

/-- The record of a data processing unit that has been starting since the epoch, with a field of
another program and a second start time. -/
def startingSinceEpoch : Fields :=
  startedRecord ⟨true, .epoch⟩ .up ++ [("slot", "3"), (Module.startTimeField, "yesterday")]

/-- The guard at the first second at which that change is abandoned. -/
def justTimedOut : Guard := ⟨true, Time.DateTime.ofUnix 241⟩

/-- A shutdown of the unit is refused the last write. -/
theorem harmless_and_repeatable_of_refused_last :
    let m := withRecord Memory.empty "DPU0" (some startingSinceEpoch)
    let m' := withRecord m "DPU0" (some (clearedRecord (some startingSinceEpoch)))
    let t := justTimedOut.halfwayTranscript "DPU0" .down (some startingSinceEpoch)
      (.internal "refused")
    (justTimedOut.requestTransition .dpu0 .down).Transcript (Reply fun _ => True) m t
      (.error (.internal "refused")) m' ∧
    (∃ x ∈ t, Refused x) ∧
    ∃ o o' m₁, (justTimedOut.requestTransition .dpu0 .down).onMemory m = (.ok o, m₁) ∧
      (justTimedOut.requestTransition .dpu0 .down).onMemory m' = (.ok o', m₁) ∧
      o'.isApplied = o.isApplied := by
  intro m m' t
  have hentry : recordIn m "DPU0" = some startingSinceEpoch := Memory.entry_put_self _ _ _ _
  have hstart : startTimeOf (some startingSinceEpoch) = some (Time.formatTimestamp .epoch) := rfl
  have ht : justTimedOut.timedOutOf (some startingSinceEpoch) = true := by
    rw [timedOutOf_of_startTime _ _ hstart]
    decide
  have h : (justTimedOut.requestTransition .dpu0 .down).Transcript (Reply fun _ => True) m t
      (.error (.internal "refused")) m' :=
    transcript_halfway hentry rfl (by decide) rfl ht _
  have hf : ∃ x ∈ t, Refused x :=
    ⟨_, List.mem_cons_of_mem _ (List.mem_cons_of_mem _ (List.mem_cons_of_mem _
      List.mem_cons_self)), _, rfl⟩
  exact ⟨h, hf, (harmless_and_repeatable_of_refused h hf).2.2.2.2⟩

end ChassisAdmin.Guard
