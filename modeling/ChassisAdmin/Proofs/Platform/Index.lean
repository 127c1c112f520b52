import ChassisAdmin.Proofs.Chassis.Naming
import ChassisAdmin.Proofs.Platform.Detected
import ChassisAdmin.Proofs.Text.UpperCase

/-!
# Finding the DPUs of a description

The DPUs of a description are listed in upper case, as all of Unicode has it.
They are found up to the case of ASCII letters.  So the list is an index of the
spellings (`Index`) exactly if no two of them have one upper case and all of them
are in upper case outside ASCII (`index_iff_of_detect`).  A spelling of another
kind finds no DPU, and two spellings with one upper case make one name that is
listed twice (`not_index_of_detect`).

What is found is never a wrong DPU.  Its name is the upper case of what was looked
for.
-/

namespace ChassisAdmin.Platform

variable {p : Platform} {v : Json.Value} {k d name : String}

/-! ## Lists of names in upper case -/

/-- The names of a platform are the spellings of a description in upper case. -/
def Lists (p : Platform) (v : Json.Value) : Prop :=
  p.dpus.Perm ((spellings v).map Text.upperCase)

/-- The names are different, and each spelling finds its upper case. -/
structure Index (p : Platform) (v : Json.Value) : Prop where
  nodup : p.dpus.Nodup
  found : ∀ k ∈ spellings v, p.findDpu k = some (Text.upperCase k)

/-- No two spellings of a description have one upper case. -/
def Distinct (v : Json.Value) : Prop :=
  ∀ x ∈ spellings v, ∀ y ∈ spellings v, Text.upperCase x = Text.upperCase y → x = y

namespace Lists

theorem upperCase_of_mem (h : p.Lists v) (hd : d ∈ p.dpus) : Text.upperCase d = d := by
  obtain ⟨k, -, rfl⟩ := List.mem_map.1 (h.mem_iff.1 hd)
  exact Text.upperCase_upperCase k

theorem nodup_iff (h : p.Lists v) : p.dpus.Nodup ↔ Distinct v := by
  rw [List.Perm.nodup_iff h]
  exact List.nodup_map_iff_inj_on (List.nodup_dedup _)

/-- A name is listed once for each spelling of which it is the upper case. -/
theorem count_eq (h : p.Lists v) (d : String) :
    p.dpus.count d = (spellings v).countP fun k => Text.upperCase k = d := by
  rw [List.Perm.count_eq h, List.count, List.countP_map]
  exact List.countP_congr fun k _ => by simp

/-- What a name finds is its upper case. -/
theorem eq_upperCase_of_findDpu (h : p.Lists v) (hd : p.findDpu name = some d) :
    d = Text.upperCase name := by
  rw [← h.upperCase_of_mem (mem_of_findDpu hd)]
  exact Text.upperCase_congr (equalIgnoringCase_of_findDpu hd)

/-- A spelling finds its upper case or nothing. -/
theorem findDpu_eq (h : p.Lists v) (hk : k ∈ spellings v) :
    p.findDpu k = if Text.UpperOutsideAscii k then some (Text.upperCase k) else none := by
  split
  · next hupper =>
    have hmem : Text.upperCase k ∈ p.dpus := h.mem_iff.2 (List.mem_map_of_mem hk)
    have hsome : (p.findDpu k).isSome = true :=
      List.find?_isSome.2 ⟨_, hmem, (Text.equalIgnoringCase_upperCase_iff k).2 hupper⟩
    obtain ⟨d, hd⟩ := Option.isSome_iff_exists.1 hsome
    rw [hd, h.eq_upperCase_of_findDpu hd]
  · next hupper =>
    refine Option.eq_none_iff_forall_ne_some.2 fun d hd => hupper ?_
    rw [← Text.equalIgnoringCase_upperCase_iff, ← h.eq_upperCase_of_findDpu hd]
    exact equalIgnoringCase_of_findDpu hd

theorem index_iff (h : p.Lists v) :
    p.Index v ↔ Distinct v ∧ ∀ k ∈ spellings v, Text.UpperOutsideAscii k := by
  have hfound : (∀ k ∈ spellings v, p.findDpu k = some (Text.upperCase k)) ↔
      ∀ k ∈ spellings v, Text.UpperOutsideAscii k := by
    refine forall₂_congr fun k hk => ?_
    rw [h.findDpu_eq hk]
    split <;> simp [*]
  rw [← h.nodup_iff, ← hfound]
  exact ⟨fun h => ⟨h.nodup, h.found⟩, fun h => ⟨h.1, h.2⟩⟩

end Lists

/-! ## The platform that is detected -/

variable {slots : String → Files.Slot} {c : PlatformSettings} {environment : Option (List UInt8)}
  {t : List (Exchange Files.Call Files.Answer)} {mode : Nat} {content : String}

theorem lists_described (name : Option String) (v : Json.Value) : (described name v).Lists v := by
  rw [Lists, dpus_described]
  exact perm_orderedNames _

/-- A platform whose description can be read lists its DPUs. -/
theorem lists_of_detect (h : (detect c environment).Transcript (Held slots) () t (.ok p) ())
    (hname : p.name = some name)
    (hslot : slots (Files.within (Files.within c.deviceDir name) descriptionFile) =
      .file mode (Text.Utf8.encode content))
    (hv : Json.parse content = some v) : p.Lists v := by
  obtain ⟨text, p', t₁, t₂, hread, hdescribed, hrest⟩ := exists_described_of_detect h hname
  cases transcript_readOptional hread hslot
  cases hdescribed with
  | read hv' =>
    obtain rfl := Option.some.inj (hv.symm.trans hv')
    rw [Lists, (eq_of_withInterfaces hrest).2]
    exact lists_described (some name) v

/-! ## Every description -/

/-- The names of a platform whose description can be read are an index of the spellings exactly if
no two spellings have one upper case and all of them are in upper case outside ASCII.  A name stands
in the list once for each spelling of which it is the upper case, a spelling finds its upper case or
nothing, and no name finds any other DPU. -/
theorem index_iff_of_detect (h : (detect c environment).Transcript (Held slots) () t (.ok p) ())
    (hname : p.name = some name)
    (hslot : slots (Files.within (Files.within c.deviceDir name) descriptionFile) =
      .file mode (Text.Utf8.encode content))
    (hv : Json.parse content = some v) :
    (p.Index v ↔ Distinct v ∧ ∀ k ∈ spellings v, Text.UpperOutsideAscii k) ∧
    (∀ d, p.dpus.count d = (spellings v).countP fun k => Text.upperCase k = d) ∧
    (∀ k ∈ spellings v,
      p.findDpu k = if Text.UpperOutsideAscii k then some (Text.upperCase k) else none) ∧
    ∀ a d, p.findDpu a = some d → d = Text.upperCase a := by
  have hlists := lists_of_detect h hname hslot hv
  exact ⟨hlists.index_iff, hlists.count_eq, fun _ => hlists.findDpu_eq,
    fun _ _ => hlists.eq_upperCase_of_findDpu⟩

/-- A machine with a description of this platform and no other file. -/
def board (content : String) (path : String) : Files.Slot :=
  if path = "/usr/share/sonic/device/board/platform.json" then
    .file Files.Slot.readableForAll (Text.Utf8.encode content)
  else .free

/-- How the description is read there. -/
def descriptionRead (content : String) : Exchange Files.Call Files.Answer :=
  ⟨.read "/usr/share/sonic/device/board/platform.json", .ok (Text.Utf8.encode content)⟩

/-- How the list of interfaces is looked for there. -/
def interfacesRead : Exchange Files.Call Files.Answer :=
  ⟨.read "/usr/share/sonic/device/board/chassisdb.conf", .error .notFound⟩

theorem transcript_detect_board (hv : Json.parse content = some v) :
    (detect boardSettings none).Transcript (Held (board content)) ()
      [descriptionRead content, interfacesRead] (.ok (described (some "board") v)) () := by
  have hread : (readOptional (descriptionRead content).request.path).Transcript
      (Held (board content)) () [descriptionRead content] (.ok (some content)) () :=
    Attempt.transcript_request_iff.2 ⟨_, rfl, (optionalText_encode _ _).symm, rfl⟩
  have hinterfaces : (readOptional interfacesRead.request.path).Transcript
      (Held (board content)) () [interfacesRead] (.ok none) () :=
    Attempt.transcript_request_iff.2 ⟨_, rfl, rfl, rfl⟩
  refine Attempt.transcript_bind_iff.2 (.inr ⟨some "board", [], (), _,
    Attempt.transcript_pure_iff.2 ⟨rfl, rfl, rfl⟩, ?_, rfl⟩)
  refine Attempt.transcript_bind_iff.2 (.inr ⟨some content, _, (), [interfacesRead], hread, ?_, rfl⟩)
  simp only [hv]
  refine Attempt.transcript_bind_iff.2 (.inr ⟨_, [], (), _,
    Attempt.transcript_pure_iff.2 ⟨rfl, rfl, rfl⟩, ?_, rfl⟩)
  refine Attempt.transcript_bind_iff.2 (.inr ⟨none, _, (), [], hinterfaces, ?_, rfl⟩)
  exact Attempt.transcript_pure_iff.2 ⟨rfl, rfl, rfl⟩

/-- A description with two DPUs. -/
def twoSpellings : String := "\x7b\x22DPUS\x22: \x7b\x22dpu0\x22: null, \x22Dpu1\x22: null\x7d\x7d"

theorem index_iff_of_detect_twoSpellings : ∃ t p v,
    (detect boardSettings none).Transcript (Held (board twoSpellings)) () t (.ok p) () ∧
    Json.parse twoSpellings = some v ∧ spellings v = ["dpu0", "Dpu1"] ∧ p.Index v := by
  obtain ⟨v, hv, hspellings⟩ :
      ∃ v, Json.parse twoSpellings = some v ∧ spellings v = ["dpu0", "Dpu1"] :=
    Option.map_eq_some_iff.1 (by decide +kernel)
  have h := transcript_detect_board hv
  refine ⟨_, _, v, h, hv, hspellings, ?_⟩
  refine (index_iff_of_detect h (name_describe _ v) (if_pos rfl) hv).1.2 ?_
  rw [Distinct, hspellings]
  decide

/-- A description that spells one DPU in two ways, and another with a letter outside ASCII. -/
def badSpellings : String :=
  "\x7b\x22DPUS\x22: \x7b\x22dpu0\x22: null, \x22DPU0\x22: null, \x22dpuä\x22: null\x7d\x7d"

/-- A platform lists a DPU twice, and a DPU that it lists is not found by the spelling of the
description. -/
theorem not_index_of_detect : ∃ t p v,
    (detect boardSettings none).Transcript (Held (board badSpellings)) () t (.ok p) () ∧
    Json.parse badSpellings = some v ∧ spellings v = ["dpu0", "DPU0", "dpuä"] ∧
    p.dpus.count "DPU0" = 2 ∧ "DPUÄ" ∈ p.dpus ∧ p.findDpu "dpuä" = none ∧ ¬p.Index v := by
  obtain ⟨v, hv, hspellings⟩ :
      ∃ v, Json.parse badSpellings = some v ∧ spellings v = ["dpu0", "DPU0", "dpuä"] :=
    Option.map_eq_some_iff.1 (by decide +kernel)
  have h := transcript_detect_board hv
  have hlists : (described (some "board") v).Lists v := lists_described _ v
  have hcount : (described (some "board") v).dpus.count "DPU0" = 2 := by
    rw [hlists.count_eq, hspellings]
    decide +kernel
  refine ⟨_, _, v, h, hv, hspellings, hcount, ?_, ?_, fun hindex => ?_⟩
  · rw [List.Perm.mem_iff hlists, hspellings]
    decide +kernel
  · rw [hlists.findDpu_eq (by rw [hspellings]; decide)]
    decide +kernel
  · have hle := List.nodup_iff_count_le_one.1 hindex.nodup "DPU0"
    rw [hcount] at hle
    exact absurd hle (by decide)

end ChassisAdmin.Platform
