import ChassisAdmin.Proofs.Store.Refusal
import ChassisAdmin.Proofs.Transcript

/-!
# Transcripts of databases that refuse calls

`Reply` says what a database may answer to a call, so a program on a database
has a transcript for every pattern of refusals.  Without its transcript a run is
one of `Ends` (`ends_of_transcript`), and a run in which nothing is refused is
the one on the database in memory (`onMemory_of_transcript`).

The calls are prompt, so a program that is put together from them stops with an
error at the first call that is refused.
-/

namespace ChassisAdmin.Store

variable {α : Type} {mayFail : Call → Prop} {m m' : Memory} {t : List (Exchange Call Answer)}

/-- The database has refused the call. -/
def Refused (x : Exchange Call Answer) : Prop := ∃ e, x.answer = .error e

theorem ends_of_transcript {p : Program Call Answer α} {a : α}
    (h : Program.Transcript (Reply mayFail) p m t a m') : Ends mayFail p m a m' := by
  induction h with
  | done a m => exact .done a m
  | ask hr _ ih => exact .ask hr ih

/-- A run in which no call is refused is the run on the database in memory. -/
theorem run_of_transcript {p : Program Call Answer α} {a : α}
    (h : Program.Transcript (Reply mayFail) p m t a m') (ht : ∀ x ∈ t, ¬Refused x) :
    p.run Memory.answer m = (a, m') := by
  induction h with
  | done a m => rfl
  | ask hr _ ih =>
    obtain ⟨hx, hrest⟩ := List.forall_mem_cons.1 ht
    cases hr with
    | answered => exact ih hrest
    | refused e => exact absurd ⟨e, rfl⟩ hx

theorem Client.onMemory_of_transcript {p : Client α} {r : Except SystemError α}
    (h : Attempt.Transcript (Reply mayFail) p m t r m') (ht : ∀ x ∈ t, ¬Refused x) :
    p.onMemory m = (r, m') :=
  run_of_transcript h ht

namespace Client

theorem transcript_getEntry {table key : String} {r : Except SystemError (Option Fields)}
    (h : (getEntry table key).Transcript (Reply mayFail) m t r m') :
    m' = m ∧ t = [⟨.getEntry table key, r⟩] ∧ (r = .ok (m.entry table key) ∨ ∃ e, r = .error e) := by
  obtain ⟨a, hr, ha, rfl⟩ := Attempt.transcript_request_iff.1 h
  cases hr with
  | answered => exact ⟨rfl, by rw [ha]; rfl, .inl ha⟩
  | refused e => exact ⟨rfl, by rw [ha]; rfl, .inr ⟨e, ha⟩⟩

theorem transcript_setEntry {table key : String} {fields : Option Fields}
    {r : Except SystemError Unit}
    (h : (setEntry table key fields).Transcript (Reply mayFail) m t r m') :
    t = [⟨.setEntry table key fields, r⟩] ∧
      (r = .ok () ∧ m' = m.put table key fields ∨ (∃ e, r = .error e) ∧ m' = m) := by
  obtain ⟨a, hr, ha, rfl⟩ := Attempt.transcript_request_iff.1 h
  cases hr with
  | answered => exact ⟨by rw [ha]; rfl, .inl ⟨ha, rfl⟩⟩
  | refused e => exact ⟨by rw [ha]; rfl, .inr ⟨⟨e, ha⟩, rfl⟩⟩

/-! ## Prompt programs -/

/-- A program that stops with an error at the first call that is refused, and only there. -/
abbrev Prompt (p : Client α) : Prop := Attempt.Prompt Refused p

theorem prompt_getEntry (table key : String) : (getEntry table key).Prompt :=
  Attempt.prompt_request fun _ => Iff.rfl

theorem prompt_setEntry (table key : String) (fields : Option Fields) :
    (setEntry table key fields).Prompt :=
  Attempt.prompt_request fun _ => Iff.rfl

theorem prompt_keys (pattern : String) : (keys pattern).Prompt :=
  Attempt.prompt_request fun _ => Iff.rfl

theorem prompt_hget (rawKey field : String) : (hget rawKey field).Prompt :=
  Attempt.prompt_request fun _ => Iff.rfl

end Client

end ChassisAdmin.Store
