import ChassisAdmin.Proofs.Platform.Detected
import ChassisAdmin.Proofs.Text.Entries

/-!
# The interfaces of a platform

A file lists the interfaces that lead to the other cards in one of its entries,
by the name of the key (`IsSetting`).  What is read is the first line in which
the name occurs at all (`Mentions`), trimmed before it is divided, which makes no
difference (`interfacesIn_eq`).

A setting mentions its name.  So the two readings are the same where the first
line that mentions the name is a setting, and apart from equal items they are the
same nowhere else (`interfacesIn_eq_setting_iff`).  A comment in front of the
setting hides it (`setting_hidden`).
-/

namespace ChassisAdmin.Platform

variable {content name : String} {line : List Char}

/-! ## Two readings of a file -/

/-- The key of a line is the name of the setting. -/
def IsSetting (line : List Char) : Prop := Text.keyOf line = some interfacesWord.toList

/-- The name of the setting occurs in a line. -/
def Mentions (line : List Char) : Prop := Text.occursIn interfacesWord.toList line = true

instance : DecidablePred IsSetting := fun _ => inferInstanceAs (Decidable (_ = _))

instance : DecidablePred Mentions := fun _ => inferInstanceAs (Decidable (_ = _))

/-- The items that stand after the first equals sign of a line. -/
def itemsOf (line : List Char) : List String :=
  ((Text.splitOnce '=' line).map fun r => listItems r.2).getD []

/-- The first line of a kind. -/
def firstLine? (P : List Char → Prop) [DecidablePred P] (content : String) : Option (List Char) :=
  (Text.lines content.toList).find? fun line => P line

/-- The items of the first line of a kind. -/
def firstItems (P : List Char → Prop) [DecidablePred P] (content : String) : List String :=
  ((firstLine? P content).map itemsOf).getD []

theorem IsSetting.mentions (h : IsSetting line) : Mentions line := Text.occursIn_of_keyOf h

theorem not_isBlank_interfacesWord : ∀ c ∈ interfacesWord.toList, Text.isBlank c = false := by
  have h : interfacesWord.toList.all (fun c => !Text.isBlank c) = true := rfl
  simpa using h

theorem listItems_trimEnd (cs : List Char) : listItems (Text.trimEnd cs) = listItems cs := by
  rw [listItems, listItems, Text.map_trim_pieces (by decide)]

theorem itemsOf_trim (line : List Char) : itemsOf (Text.trim line) = itemsOf line := by
  rw [itemsOf, itemsOf, Text.splitOnce_trim (by decide), Option.map_map]
  simp only [Function.comp_def, listItems_trimEnd]

/-- The interfaces are the items of the first line that mentions the name. -/
theorem interfacesIn_eq (content : String) : interfacesIn content = firstItems Mentions content := by
  have hline : Text.occursIn interfacesWord.toList ∘ Text.trim =
      fun line => decide (Mentions line) := by
    funext line
    exact (Text.occursIn_trim not_isBlank_interfacesWord line).trans Bool.decide_eq_true.symm
  rw [interfacesIn, List.find?_map, hline, firstItems, firstLine?]
  cases (Text.lines content.toList).find? fun line => decide (Mentions line) with
  | none => rfl
  | some line =>
    simp only [Option.map_some, Option.getD_some]
    rw [← itemsOf_trim, itemsOf]
    cases Text.splitOnce '=' (Text.trim line) <;> rfl

/-! ## Where they agree -/

theorem firstItems_of_firstLine? {P : List Char → Prop} [DecidablePred P]
    (h : firstLine? P content = some line) : firstItems P content = itemsOf line := by
  rw [firstItems, h]
  rfl

theorem firstItems_eq_nil {P : List Char → Prop} [DecidablePred P]
    (h : ∀ line ∈ Text.lines content.toList, ¬P line) : firstItems P content = [] := by
  have hnone : firstLine? P content = none := List.find?_eq_none.2 (by simpa using h)
  rw [firstItems, hnone]
  rfl

/-- The first line of a kind is the first of the lines of that kind. -/
theorem firstLine?_eq_head? {P : List Char → Prop} [DecidablePred P] (content : String) :
    firstLine? P content = ((Text.lines content.toList).filter fun line => P line).head? :=
  List.head?_filter.symm

/-- A setting that is the first line to mention the name is the first setting. -/
theorem firstLine?_isSetting (h : firstLine? Mentions content = some line) (hline : IsSetting line) :
    firstLine? IsSetting content = some line := by
  obtain ⟨-, before, after, hlines, hbefore⟩ := List.find?_eq_some_iff_append.1 h
  refine List.find?_eq_some_iff_append.2 ⟨decide_eq_true hline, before, after, hlines, ?_⟩
  intro l hl
  have hmentions : ¬Mentions l := by simpa using hbefore l hl
  simpa using fun hsetting : IsSetting l => hmentions hsetting.mentions

/-- What is read is what the first setting lists exactly if the first line that mentions the name is
a setting, or lists the same. -/
theorem interfacesIn_eq_setting_iff (content : String) :
    interfacesIn content = firstItems IsSetting content ↔
      ∀ line, firstLine? Mentions content = some line →
        IsSetting line ∨ itemsOf line = firstItems IsSetting content := by
  rw [interfacesIn_eq]
  constructor
  · intro heq line hline
    exact .inr ((firstItems_of_firstLine? hline).symm.trans heq)
  · intro h
    cases hfirst : firstLine? Mentions content with
    | none =>
      have hnone : ∀ line ∈ Text.lines content.toList, ¬Mentions line := by
        simpa [firstLine?] using hfirst
      rw [firstItems_eq_nil hnone,
        firstItems_eq_nil fun line hline hsetting => hnone line hline hsetting.mentions]
    | some line =>
      rw [firstItems_of_firstLine? hfirst]
      rcases h line hfirst with hsetting | hitems
      · rw [firstItems_of_firstLine? (firstLine?_isSetting hfirst hsetting)]
      · exact hitems

/-! ## The platform that is detected -/

variable {slots : String → Files.Slot} {c : PlatformSettings} {environment : Option (List UInt8)}
  {t : List (Exchange Files.Call Files.Answer)} {mode : Nat} {p : Platform}

theorem localInterfaces_of_detect
    (h : (detect c environment).Transcript (Held slots) () t (.ok p) ()) (hname : p.name = some name)
    (hslot : slots (Files.within (Files.within c.deviceDir name) interfacesFile) =
      .file mode (Text.Utf8.encode content)) : p.localInterfaces = interfacesIn content := by
  obtain ⟨_, p', _, t', -, -, h'⟩ := exists_described_of_detect h hname
  rcases Attempt.transcript_bind_iff.1 h' with ⟨e, -, he⟩ | ⟨text, _, _, _, hread, hrest, -⟩
  · cases he
  cases transcript_readOptional hread hslot
  obtain ⟨hp, -, -⟩ := Attempt.transcript_pure_iff.1 hrest
  cases hp
  rfl

/-- The interfaces of a platform are what the first setting in its file lists exactly if the first
line that mentions the name is a setting, or lists the same.  They are the items of that line in any
case, and none if there is no such line.  Lines that do not mention the name change nothing. -/
theorem interfaces_iff_of_detect
    (h : (detect c environment).Transcript (Held slots) () t (.ok p) ()) (hname : p.name = some name)
    (hslot : slots (Files.within (Files.within c.deviceDir name) interfacesFile) =
      .file mode (Text.Utf8.encode content)) :
    (p.localInterfaces = firstItems IsSetting content ↔
      ∀ line, firstLine? Mentions content = some line →
        IsSetting line ∨ itemsOf line = firstItems IsSetting content) ∧
    (∀ line, firstLine? Mentions content = some line → p.localInterfaces = itemsOf line) ∧
    ((∀ line ∈ Text.lines content.toList, ¬Mentions line) → p.localInterfaces = []) ∧
    ∀ content', ((Text.lines content'.toList).filter fun line => Mentions line) =
        ((Text.lines content.toList).filter fun line => Mentions line) →
      interfacesIn content' = p.localInterfaces := by
  rw [localInterfaces_of_detect h hname hslot]
  refine ⟨interfacesIn_eq_setting_iff content, fun line hline => ?_, fun hnone => ?_,
    fun content' hsame => ?_⟩
  · rw [interfacesIn_eq, firstItems_of_firstLine? hline]
  · rw [interfacesIn_eq, firstItems_eq_nil hnone]
  · rw [interfacesIn_eq, interfacesIn_eq, firstItems, firstItems, firstLine?_eq_head?, hsame,
      firstLine?_eq_head?]

/-- A machine with a list of interfaces for a platform and no other file. -/
def interfacesOnly (content path : String) : Files.Slot :=
  if path = "/usr/share/sonic/device/board/chassisdb.conf" then
    .file Files.Slot.readableForAll (Text.Utf8.encode content)
  else .free

theorem exists_detect_interfacesOnly (content : String) : ∃ t p,
    (detect boardSettings none).Transcript (Held (interfacesOnly content)) () t (.ok p) () ∧
      p.name = some "board" := by
  let description : Exchange Files.Call Files.Answer :=
    ⟨.read "/usr/share/sonic/device/board/platform.json", .error .notFound⟩
  let interfaces : Exchange Files.Call Files.Answer :=
    ⟨.read "/usr/share/sonic/device/board/chassisdb.conf", .ok (Text.Utf8.encode content)⟩
  have hdescription : (readOptional description.request.path).Transcript
      (Held (interfacesOnly content)) () [description] (.ok none) () :=
    Attempt.transcript_request_iff.2 ⟨_, rfl, rfl, rfl⟩
  have hinterfaces : (readOptional interfaces.request.path).Transcript
      (Held (interfacesOnly content)) () [interfaces] (.ok (some content)) () :=
    Attempt.transcript_request_iff.2 ⟨_, rfl, (optionalText_encode _ _).symm, rfl⟩
  refine ⟨[description, interfaces],
    { standard with name := some "board", localInterfaces := interfacesIn content }, ?_, rfl⟩
  refine Attempt.transcript_bind_iff.2 (.inr ⟨some "board", [], (), _,
    Attempt.transcript_pure_iff.2 ⟨rfl, rfl, rfl⟩, ?_, rfl⟩)
  refine Attempt.transcript_bind_iff.2 (.inr ⟨none, _, (), [interfaces], hdescription, ?_, rfl⟩)
  refine Attempt.transcript_bind_iff.2 (.inr ⟨{ standard with name := some "board" }, [], (), _,
    Attempt.transcript_pure_iff.2 ⟨rfl, rfl, rfl⟩, ?_, rfl⟩)
  refine Attempt.transcript_bind_iff.2 (.inr ⟨some content, _, (), [], hinterfaces, ?_, rfl⟩)
  exact Attempt.transcript_pure_iff.2 ⟨rfl, rfl, rfl⟩

/-- A file whose setting stands behind another one. -/
def twoSettings : String := "start_chassis_db=1\nchassis_internal_intfs = eth1-midplane, , eth2\n"

theorem interfaces_iff_of_detect_twoSettings : ∃ t p,
    (detect boardSettings none).Transcript (Held (interfacesOnly twoSettings)) () t (.ok p) () ∧
      p.name = some "board" ∧ p.localInterfaces = firstItems IsSetting twoSettings ∧
      firstItems IsSetting twoSettings = ["eth1-midplane", "eth2"] := by
  obtain ⟨t, p, h, hname⟩ := exists_detect_interfacesOnly twoSettings
  refine ⟨t, p, h, hname, (interfaces_iff_of_detect h hname (if_pos rfl)).1.2 ?_, by decide⟩
  have hfirst : firstLine? Mentions twoSettings =
      some "chassis_internal_intfs = eth1-midplane, , eth2".toList := by decide
  intro line hline
  cases hfirst.symm.trans hline
  exact .inl (by decide)

/-- A file with a comment in front of the setting. -/
def commented : String := "# chassis_internal_intfs lists midplane ports\nchassis_internal_intfs=eth1\n"

/-- A comment that mentions the setting hides it. -/
theorem setting_hidden : ∃ t p,
    (detect boardSettings none).Transcript (Held (interfacesOnly commented)) () t (.ok p) () ∧
      p.name = some "board" ∧ p.localInterfaces = [] ∧
      firstItems IsSetting commented = ["eth1"] := by
  obtain ⟨t, p, h, hname⟩ := exists_detect_interfacesOnly commented
  refine ⟨t, p, h, hname, ?_, by decide⟩
  rw [localInterfaces_of_detect h hname (if_pos rfl)]
  decide

end ChassisAdmin.Platform
