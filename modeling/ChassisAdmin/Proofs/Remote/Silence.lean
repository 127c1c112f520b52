import ChassisAdmin.Proofs.Remote.FallThrough

/-!
# Keys that are said to be removed

Whether keys were removed is judged by silence.  A command that writes nothing to
the standard error output counts as one that removed them, and its exit code is
not looked at.  That holds of a code other than zero, and of a channel that ends
without any.

`handsOver_of_ends` says when one pair makes way for the next: when it cannot log
in or its command complains, and in no other case.  So what stands behind a
report of removed keys is a silent command (`removed_of_silence`), and it may have
failed (`silent_failure_counts`).
-/

namespace ChassisAdmin.Remote

open Provisioner

variable {α σ : Type} {reply : (q : Request) → σ → q.Answer → σ → Prop} {s s' : σ}
  {ex : List (Exchange Request Request.Answer)} {p : Provisioner} {pairs : List Credential}
  {removals : List Trial} {result : Except Error Unit} {failure : Error}

/-- Pairs are tried in order to remove keys, and each makes way for the next if it cannot log in or
its command complains, whatever the exit code. -/
structure HandsOver (pairs : List Credential) (failure : Error) (removals : List Trial)
    (result : Except Error Unit) : Prop where
  /-- The pairs are tried once each, from the first on. -/
  in_order : removals.map Prod.fst <+: pairs
  /-- A silent command is the last, and counts as a removal. -/
  silent : ∀ before c r after, removals = before ++ (c, .ok r) :: after → r.stderr = "" →
    after = [] ∧ result = .ok ()
  /-- After any other command another pair is tried, or there is none left and the removal fails. -/
  complaining : ∀ before c outcome after, removals = before ++ (c, outcome) :: after →
    (∀ r, outcome = .ok r → r.stderr ≠ "") →
      after ≠ [] ∨ removals.map Prod.fst = pairs ∧ result = .error failure

theorem removed_eq_none_iff {c : Credential} {outcome : Except Error Shell.Result} :
    removed c outcome = none ↔ ∀ r, outcome = .ok r → r.stderr ≠ "" := by
  cases outcome <;> simp [removed]

/-- A member of a list with a last element is that element, or stands in front of it. -/
theorem last_or_front {before after l : List α} {x y : α} (h : l ++ [x] = before ++ y :: after) :
    (after = [] ∧ y = x) ∨ (after ≠ [] ∧ y ∈ l) := by
  obtain rfl | ⟨after, z, rfl⟩ := List.eq_nil_or_concat after
  · obtain ⟨-, ⟨⟩⟩ := List.append_inj' h rfl
    exact .inl ⟨rfl, rfl⟩
  · rw [List.concat_eq_append, ← List.cons_append, ← List.append_assoc] at h
    obtain ⟨rfl, -⟩ := List.append_inj' h rfl
    exact .inr ⟨by simp, by simp⟩

theorem handsOver_of_ends (h : Ends removed (.error failure) pairs removals result) :
    HandsOver pairs failure removals result := by
  cases h with
  | accepted trials rest hrejected haccepted =>
    refine ⟨⟨rest, by simp⟩, ?_, ?_⟩
    · intro before c r after heq hsilent
      obtain ⟨rfl, -⟩ | ⟨-, hmem⟩ := last_or_front heq
      · exact ⟨rfl, rfl⟩
      · exact absurd hsilent (removed_eq_none_iff.1 (hrejected _ hmem) r rfl)
    · intro before c outcome after heq hcomplains
      obtain ⟨-, ⟨⟩⟩ | ⟨hafter, -⟩ := last_or_front heq
      · cases (removed_eq_none_iff.2 hcomplains).symm.trans haccepted
      · exact .inl hafter
  | exhausted _ hrejected =>
    refine ⟨List.prefix_refl _, ?_, fun _ _ _ _ _ _ => .inr ⟨rfl, rfl⟩⟩
    intro before c r after heq hsilent
    have hmem : (c, .ok r) ∈ removals := heq ▸ by simp
    exact absurd hsilent (removed_eq_none_iff.1 (hrejected _ hmem) r rfl)

/-! ## Removing keys and disabling a unit -/

/-- A command to remove keys wrote nothing to the standard error output. -/
def RanSilently (ex : List (Exchange Request Request.Answer)) (t : Target) : Prop :=
  ∃ c r, Ran ex t c removeCommand r ∧ r.stderr = ""

theorem exists_silent_of_ends (h : Ends removed (.error failure) pairs removals (.ok ())) :
    ∃ c r, (c, .ok r) ∈ removals ∧ r.stderr = "" := by
  cases h with
  | @accepted trials c _ _ rest hrejected haccepted =>
    obtain ⟨r, rfl, hsilent⟩ := removed_eq_some_iff.1 haccepted
    exact ⟨c, r, by simp, hsilent⟩

theorem ranSilently_of_remove {ip : String}
    (h : (p.remove ip).Transcript reply s ex (.ok ()) s') : RanSilently ex (p.target ip) := by
  obtain ⟨answer, s₁, removals, -, rfl, ⟨-, ⟨⟩⟩ | hends⟩ := exists_removals h
  obtain ⟨c, r, hmem, hsilent⟩ := exists_silent_of_ends hends
  exact ⟨c, r, List.mem_cons_of_mem _ (mem_exchanges_iff.2 ⟨rfl, hmem⟩), hsilent⟩

/-- A unit has its keys removed by removing the keys at its address. -/
theorem exists_remove_of_disable {module ip : String}
    (h : (p.disable module).Transcript reply s ex (.ok (.keyRemoved ip)) s') :
    ∃ ex₁ ex₂ s₁, ex = ex₁ ++ ex₂ ∧ (p.remove ip).Transcript reply s₁ ex₂ (.ok ()) s' := by
  obtain ⟨e, -, ⟨⟩⟩ | ⟨address, ex₁, s₁, ex₂, -, hrest, rfl⟩ := Attempt.transcript_bind_iff.1 h
  cases address with
  | none => cases (Attempt.transcript_pure_iff.1 hrest).1
  | some found =>
    obtain ⟨e, -, ⟨⟩⟩ | ⟨state, ex₃, s₃, ex₄, -, hend, rfl⟩ := Attempt.transcript_bind_iff.1 hrest
    cases state with
    | disabled => cases (Attempt.transcript_pure_iff.1 hend).1
    | enabled =>
      obtain ⟨e, -, ⟨⟩⟩ | ⟨_, ex₅, s₅, ex₆, hremove, hdone, rfl⟩ :=
        Attempt.transcript_bind_iff.1 hend
      obtain ⟨⟨⟩, rfl, rfl⟩ := Attempt.transcript_pure_iff.1 hdone
      exact ⟨ex₁ ++ ex₃, ex₅, s₃, by simp, hremove⟩

theorem ranSilently_of_disable {module ip : String}
    (h : (p.disable module).Transcript reply s ex (.ok (.keyRemoved ip)) s') :
    RanSilently ex (p.target ip) := by
  obtain ⟨ex₁, ex₂, s₁, rfl, hremove⟩ := exists_remove_of_disable h
  obtain ⟨c, r, hran, hsilent⟩ := ranSilently_of_remove hremove
  exact ⟨c, r, List.mem_append_right _ hran, hsilent⟩

/-- Keys are removed, and a unit has its keys removed, only by a command that writes nothing to the
standard error output.  A pair makes way for the next if it cannot log in or its command complains,
and only then, whatever the exit code. -/
theorem removed_of_silence (p : Provisioner) (reply : (q : Request) → σ → q.Answer → σ → Prop) :
    (∀ ip s ex result s', (p.remove ip).Transcript reply s ex result s' →
      (∃ answer removals, ex = ⟨.file (.read p.passwordFile), answer⟩ ::
          exchanges (p.target ip) removeCommand removals ∧
        (pairsIn answer ≠ [] →
          HandsOver (pairsIn answer) (.allAttemptsFailed ip) removals result)) ∧
      (result = .ok () → RanSilently ex (p.target ip))) ∧
    ∀ module ip s ex s', (p.disable module).Transcript reply s ex (.ok (.keyRemoved ip)) s' →
      RanSilently ex (p.target ip) := by
  refine ⟨fun ip s ex result s' h => ⟨?_, ?_⟩, fun module ip s ex s' => ranSilently_of_disable⟩
  · obtain ⟨answer, s₁, removals, -, rfl, ⟨hpairs, -⟩ | hends⟩ := exists_removals h
    · exact ⟨answer, removals, rfl, fun hne => absurd hpairs hne⟩
    · exact ⟨answer, removals, rfl, fun _ => handsOver_of_ends hends⟩
  · rintro rfl
    exact ranSilently_of_remove h

/-! ## A unit with an address -/

open TwoAccounts

/-- Surroundings with both accounts, where removals end like this one after the other. -/
def removing (first second : Shell.Result) : Script where
  state := TwoAccounts.state
  file := files
  shell _ := .ok ⟨0, "", ""⟩
  remote
    | 0 => .ok ⟨0, keysPresent, ""⟩
    | 1 => .ok first
    | _ => .ok second

/-- The first command complains although it succeeds, so the second pair is tried. -/
theorem removed_of_silence_secondPair :
    ∃ ex log, (provisioner.disable "DPU0").Transcript
        (Program.handled (removing ⟨0, "", "warning"⟩ ⟨0, "", ""⟩).answer) [] ex
        (.ok (.keyRemoved "169.254.200.1")) log ∧
      RanSilently ex (provisioner.target "169.254.200.1") := by
  obtain ⟨ex, h⟩ : ∃ ex, (provisioner.disable "DPU0").Transcript
      (Program.handled (removing ⟨0, "", "warning"⟩ ⟨0, "", ""⟩).answer) [] ex
      (.ok (.keyRemoved "169.254.200.1")) _ :=
    Program.exists_transcript_run _ (provisioner.disable "DPU0").run []
  exact ⟨ex, _, h, (removed_of_silence provisioner _).2 _ _ _ _ _ h⟩

/-- The only command to remove keys fails, or its channel ends without an exit code, but it writes
nothing.  The second pair is not tried, although it could remove them. -/
theorem silent_failure_counts :
    (provisioner.disable "DPU0").runWith (removing ⟨-1, "", ""⟩ ⟨0, "", ""⟩).answer [] =
      (.ok (.keyRemoved "169.254.200.1"),
        exchanges (provisioner.target "169.254.200.1") checkCommand
            [(admin, .ok ⟨0, keysPresent, ""⟩)] ++
          exchanges (provisioner.target "169.254.200.1") removeCommand
            [(admin, .ok ⟨-1, "", ""⟩)]) ∧
    (provisioner.disable "DPU0").runWith (removing ⟨1, "", ""⟩ ⟨0, "", ""⟩).answer [] =
      (.ok (.keyRemoved "169.254.200.1"),
        exchanges (provisioner.target "169.254.200.1") checkCommand
            [(admin, .ok ⟨0, keysPresent, ""⟩)] ++
          exchanges (provisioner.target "169.254.200.1") removeCommand
            [(admin, .ok ⟨1, "", ""⟩)]) :=
  ⟨rfl, rfl⟩

end ChassisAdmin.Remote
