import ChassisAdmin.Proofs.Platform.Inventory
import ChassisAdmin.Proofs.Transcript

/-!
# What a detection reads

A platform with a name is detected from two files in the directory of that name.
The first describes it, and the second lists interfaces.  Either may be missing.
`exists_described_of_detect` takes a detection apart into the two readings.
-/

namespace ChassisAdmin.Platform

/-- Calls are answered by files that stay as they are. -/
def Held (slots : String → Files.Slot) (q : Files.Call) (_ : Unit) (r : Files.Answer q)
    (_ : Unit) : Prop := r = ((slots q.path).answer q).1

/-- The end of a detection, which reads the file that lists interfaces. -/
def withInterfaces (path : String) (p : Platform) : Detection Platform := do
  match ← readOptional path with
  | none => return p
  | some content => return { p with localInterfaces := interfacesIn content }

/-- What the text of its description, if there is one, makes of a platform with a name. -/
inductive Described (name : String) : Option String → Platform → Prop where
  | absent : Described name none { standard with name := some name }
  | read {content : String} {v : Json.Value} (hv : Json.parse content = some v) :
      Described name (some content) (described (some name) v)

variable {slots : String → Files.Slot} {c : PlatformSettings} {environment : Option (List UInt8)}
  {t : List (Exchange Files.Call Files.Answer)} {mode : Nat} {p p' : Platform}
  {name path content : String} {text : Option String}

theorem name_describe (p : Platform) (v : Json.Value) : (p.describe v).name = p.name := by
  unfold describe
  cases (v.member? "DPUS").bind (·.members?) <;> rfl

theorem Described.name_eq (h : Described name text p) : p.name = some name := by
  cases h with
  | absent => rfl
  | read => exact name_describe _ _

theorem optionalText_encode (path content : String) :
    optionalText path (.ok (Text.Utf8.encode content)) = .ok (some content) := by
  simp only [optionalText, Except.bind, Files.textOf, Text.Utf8.decode_encode]

theorem runWith_readOptional {σ : Type} {handle : (q : Files.Call) → σ → Files.Answer q × σ}
    {s s' : σ} (h : handle (.read path) s = (.ok (Text.Utf8.encode content), s')) :
    (readOptional path).runWith handle s = (.ok (some content), s') := by
  change (optionalText path (handle (.read path) s).1, (handle (.read path) s).2) = _
  rw [h, optionalText_encode]

theorem transcript_readOptional {r : Except SystemError (Option String)}
    (h : (readOptional path).Transcript (Held slots) () t r ())
    (hslot : slots path = .file mode (Text.Utf8.encode content)) : r = .ok (some content) := by
  obtain ⟨_, rfl, rfl, -⟩ := Attempt.transcript_request_iff.1 h
  change optionalText path ((slots path).answer (.read path)).1 = _
  rw [hslot]
  exact optionalText_encode path content

/-- The file that lists interfaces adds nothing to the names. -/
theorem eq_of_withInterfaces (h : (withInterfaces path p').Transcript (Held slots) () t (.ok p) ()) :
    p.name = p'.name ∧ p.dpus = p'.dpus := by
  rcases Attempt.transcript_bind_iff.1 h with ⟨e, -, he⟩ | ⟨text, t₁, _, t₂, -, hrest, rfl⟩
  · cases he
  · cases text with
    | none | some =>
      obtain ⟨hp, -, -⟩ := Attempt.transcript_pure_iff.1 hrest
      cases hp
      exact ⟨rfl, rfl⟩

/-- A detection that comes to a platform with a name has read a description of it, or found none,
and then the list of interfaces. -/
theorem exists_described_of_detect
    (h : (detect c environment).Transcript (Held slots) () t (.ok p) ()) (hname : p.name = some name) :
    ∃ text p' t₁ t₂,
      (readOptional (Files.within (Files.within c.deviceDir name) descriptionFile)).Transcript
        (Held slots) () t₁ (.ok text) () ∧
      Described name text p' ∧
      (withInterfaces (Files.within (Files.within c.deviceDir name) interfacesFile) p').Transcript
        (Held slots) () t₂ (.ok p) () := by
  unfold detect at h
  rcases Attempt.transcript_bind_iff.1 h with ⟨e, -, he⟩ | ⟨found, t₁, _, t₂, -, hrest, rfl⟩
  · cases he
  cases found with
  | none =>
    obtain ⟨hp, -, -⟩ := Attempt.transcript_pure_iff.1 hrest
    cases hp
    cases hname
  | some found =>
    rcases Attempt.transcript_bind_iff.1 hrest with ⟨e, -, he⟩ | ⟨text, t₃, _, t₄, hread, hrest, rfl⟩
    · cases he
    -- The name that was found is that of the platform, since neither file changes it.
    have hfound {p' : Platform} {t : List (Exchange Files.Call Files.Answer)}
        (hp' : Described found text p')
        (hrest : (withInterfaces (Files.within (Files.within c.deviceDir found) interfacesFile)
          p').Transcript (Held slots) () t (.ok p) ()) : name = found :=
      Option.some.inj (hname.symm.trans ((eq_of_withInterfaces hrest).1.trans hp'.name_eq))
    cases text with
    | none =>
      obtain rfl := hfound .absent hrest
      exact ⟨_, _, _, _, hread, .absent, hrest⟩
    | some content =>
      simp only at hrest
      split at hrest
      · next v hv =>
        obtain rfl := hfound (.read hv) hrest
        exact ⟨_, _, _, _, hread, .read hv, hrest⟩
      · rcases Attempt.transcript_bind_iff.1 hrest with ⟨e, -, he⟩ | ⟨_, _, _, _, hthrow, -⟩
        · cases he
        · obtain ⟨he, -⟩ := Attempt.transcript_throw_iff.1 hthrow
          cases he

/-- Settings that name a platform. -/
def boardSettings : PlatformSettings where
  deviceDir := "/usr/share/sonic/device"
  machineConf := "/host/machine.conf"
  platform := some "board"

end ChassisAdmin.Platform
