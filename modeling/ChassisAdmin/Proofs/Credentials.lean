import ChassisAdmin.Credentials
import ChassisAdmin.Proofs.Text.ByteOrder
import ChassisAdmin.Proofs.Text.Lines

/-!
# The pairs in the credentials file

A pair goes into the file as two lines and is found again by counting lines in
twos.  So what is read depends on every line before it, and a pair must not bring
more or fewer than two lines along.  A pair is `Plain` when neither part holds a
line feed or has blanks at its ends.  Parts may be empty, and may hold carriage
returns.

`parse_append` says that a plain pair in front of a text is read as that pair,
and the text after it as it would be alone.  From it, `run_step` says what one
change of the file does and `journal_of_edits` what a sequence of them does: a
file that is made by plain changes alone holds, after each of them, exactly the
pairs of a list that is changed alongside.
-/

namespace ChassisAdmin

namespace Credential

/-- Neither part of a pair holds a line feed or has blanks at its ends. -/
structure Plain (c : Credential) : Prop where
  /-- The name is one line. -/
  username_line : '\n' ∉ c.username.toList
  /-- The name is trimmed. -/
  username_trimmed : Text.trimmed c.username = c.username
  /-- The password is one line. -/
  password_line : '\n' ∉ c.password.toList
  /-- The password is trimmed. -/
  password_trimmed : Text.trimmed c.password = c.password

theorem toList_lines (c : Credential) :
    c.lines.toList = c.username.toList ++ '\n' :: (c.password.toList ++ ['\n']) := by
  simp [lines, String.toList_append]

end Credential

namespace Credentials

open Files (Slot)

/-! ## Reading pairs that were written -/

theorem trim_of_trimmed {s : String} (h : Text.trimmed s = s) : Text.trim s.toList = s.toList := by
  have := congrArg String.toList h
  rwa [Text.trimmed, String.toList_ofList] at this

/-- A trimmed line in front of a text is its first trimmed line. -/
theorem trimmedLines_append {line : String} (hline : '\n' ∉ line.toList)
    (htrimmed : Text.trimmed line = line) (rest : List Char) :
    trimmedLines (String.ofList (line.toList ++ '\n' :: rest)) =
      line :: trimmedLines (String.ofList rest) := by
  have htrim := trim_of_trimmed htrimmed
  rw [trimmedLines, String.toList_ofList, Text.lines_append hline,
    Text.dropReturn_of_trim htrim, List.map_cons, htrim, String.ofList_toList, trimmedLines,
    String.toList_ofList]

theorem parse_append {c : Credential} (hc : c.Plain) (rest : String) :
    parse (c.lines ++ rest) = c :: parse rest := by
  have htext : c.lines ++ rest = String.ofList
      (c.username.toList ++ '\n' :: (c.password.toList ++ '\n' :: rest.toList)) := by
    rw [← String.toList_inj, String.toList_append, c.toList_lines, String.toList_ofList]
    simp
  rw [parse, htext, trimmedLines_append hc.username_line hc.username_trimmed,
    trimmedLines_append hc.password_line hc.password_trimmed, String.ofList_toList, parse,
    pairsOfLines]

/-- The text of pairs in the file. -/
def contentOf (pairs : List Credential) : String := String.join (pairs.map Credential.lines)

theorem parse_contentOf {pairs : List Credential} (h : ∀ c ∈ pairs, c.Plain) :
    parse (contentOf pairs) = pairs := by
  induction pairs with
  | nil => rfl
  | cons c pairs ih =>
    obtain ⟨hc, hpairs⟩ := List.forall_mem_cons.1 h
    rw [contentOf, List.map_cons, String.join_cons, ← contentOf, parse_append hc, ih hpairs]

theorem contentOf_singleton (c : Credential) : contentOf [c] = c.lines := by
  simp [contentOf]

theorem contentOf_append (pairs pairs' : List Credential) :
    contentOf (pairs ++ pairs') = contentOf pairs ++ contentOf pairs' := by
  rw [contentOf, List.map_append, String.join_append]
  rfl

/-! ## Changes of the file -/

/-- A change of the credentials file. -/
inductive Edit where
  /-- Adds a pair. -/
  | add (c : Credential)
  /-- Puts a pair in place of all others. -/
  | replace (c : Credential)
  /-- Removes the file. -/
  | remove
  deriving DecidableEq, Repr

namespace Edit

/-- The pair that a change writes is plain. -/
def Plain : Edit → Prop
  | add c | replace c => c.Plain
  | remove => True

/-- Makes a change. -/
def step (path : String) : Edit → Attempt Files.Call Files.Answer Remote.Error Unit
  | add c => Credentials.add path c
  | replace c => Credentials.replace path c
  | remove => Credentials.remove path

/-- The pairs after a change. -/
def apply (pairs : List Credential) : Edit → List Credential
  | add c => pairs ++ [c]
  | replace c => [c]
  | remove => []

/-- What a change answers, when the file holds some pairs, or is absent where there are none.  Only
an absent file cannot be removed. -/
def answer (path : String) (pairs : List Credential) : Edit → Except Remote.Error Unit
  | add _ | replace _ => .ok ()
  | remove =>
      if pairs = [] then .error (.credentials path "file does not exist") else .ok ()

end Edit

/-- Makes changes one after the other, and reads the pairs after each of them. -/
def session (path : String) : List Edit →
    Program Files.Call Files.Answer (List (Except Remote.Error Unit × List Credential))
  | [] => .done []
  | e :: es =>
      (e.step path).run.bind fun answer => (read path).bind fun pairs =>
        (session path es).bind fun rest => .done ((answer, pairs) :: rest)

/-- What changes answer one after the other, from some pairs on, and the pairs after each. -/
def journal (path : String) : List Credential → List Edit →
    List (Except Remote.Error Unit × List Credential)
  | _, [] => []
  | pairs, e :: es => (e.answer path pairs, e.apply pairs) :: journal path (e.apply pairs) es

/-- What stands at the path when the file was made by adding and replacing pairs alone. -/
def slotOf : List Credential → Slot
  | [] => .free
  | pairs => .file Files.ownerOnly (Text.Utf8.encode (contentOf pairs))

/-! ## What changes do -/

theorem encode_append (s t : String) :
    Text.Utf8.encode (s ++ t) = Text.Utf8.encode s ++ Text.Utf8.encode t := by
  rw [Text.Utf8.encode_eq_flatMap, String.toList_append, List.flatMap_append,
    ← Text.Utf8.encode_eq_flatMap, ← Text.Utf8.encode_eq_flatMap]

theorem slotOf_append (pairs : List Credential) (c : Credential) :
    slotOf (pairs ++ [c]) =
      .file Files.ownerOnly (Text.Utf8.encode (contentOf pairs) ++ Text.Utf8.encode c.lines) := by
  have hcontent : contentOf (pairs ++ [c]) = contentOf pairs ++ c.lines := by
    rw [contentOf_append, contentOf_singleton]
  rw [← encode_append, ← hcontent]
  cases pairs <;> rfl

/-- A change answers and leaves what it would for the pairs that stand in the file. -/
theorem run_step (path : String) (pairs : List Credential) (e : Edit) :
    (e.step path).runWith Slot.answer (slotOf pairs) =
      (e.answer path pairs, slotOf (e.apply pairs)) := by
  cases e with
  | add c =>
    rw [Edit.apply, slotOf_append]
    cases pairs <;> rfl
  | replace c =>
    have hslot : slotOf [c] = .file Files.ownerOnly (Text.Utf8.encode c.lines) :=
      congrArg (fun s => Slot.file Files.ownerOnly (Text.Utf8.encode s)) (contentOf_singleton c)
    rw [Edit.apply, hslot]
    cases pairs <;> rfl
  | remove => cases pairs <;> rfl

theorem run_read (path : String) {pairs : List Credential} (h : ∀ c ∈ pairs, c.Plain) :
    (read path).run Slot.answer (slotOf pairs) = (pairs, slotOf pairs) := by
  cases pairs with
  | nil => rfl
  | cons c pairs =>
    have htext : Files.textOf (Text.Utf8.encode (contentOf (c :: pairs))) =
        .ok (contentOf (c :: pairs)) := by
      rw [Files.textOf, Text.Utf8.decode_encode]
    change (ofContent (Files.textOf _), _) = _
    rw [htext]
    exact congrArg (·, slotOf (c :: pairs)) (parse_contentOf h)

theorem Edit.plain_apply {pairs : List Credential} {e : Edit} (hpairs : ∀ c ∈ pairs, c.Plain)
    (he : e.Plain) : ∀ c ∈ e.apply pairs, c.Plain := by
  cases e with
  | add c => exact List.forall_mem_append.2 ⟨hpairs, List.forall_mem_singleton.2 he⟩
  | replace c => exact List.forall_mem_singleton.2 he
  | remove => exact List.forall_mem_nil _

/-- From a file of plain pairs on, the pairs that are read keep up with the list. -/
theorem run_session (path : String) {pairs : List Credential} (edits : List Edit)
    (hpairs : ∀ c ∈ pairs, c.Plain) (hedits : ∀ e ∈ edits, e.Plain) :
    (session path edits).run Slot.answer (slotOf pairs) =
      (journal path pairs edits, slotOf (edits.foldl Edit.apply pairs)) := by
  induction edits generalizing pairs with
  | nil => rfl
  | cons e edits ih =>
    obtain ⟨he, hedits⟩ := List.forall_mem_cons.1 hedits
    have hplain := Edit.plain_apply hpairs he
    have hstep : Program.run Slot.answer (e.step path).run (slotOf pairs) = _ :=
      run_step path pairs e
    rw [session, Program.run_bind, hstep, Program.run_bind, run_read path hplain,
      Program.run_bind, ih hplain hedits]
    rfl

/-- Where no file was before, plain changes answer and are read back as changes of a list of pairs,
and the file is absent exactly while the list is empty.  An absent file cannot be removed, and
stays absent. -/
theorem journal_of_edits (path : String) (edits : List Edit) (h : ∀ e ∈ edits, e.Plain) :
    (session path edits).run Slot.answer .free =
      (journal path [] edits, slotOf (edits.foldl Edit.apply [])) ∧
    (slotOf (edits.foldl Edit.apply []) = .free ↔ edits.foldl Edit.apply [] = []) ∧
    (remove path).runWith Slot.answer .free =
      (.error (.credentials path "file does not exist"), .free) := by
  refine ⟨run_session path edits (List.forall_mem_nil _) h, ?_, rfl⟩
  cases edits.foldl Edit.apply [] with
  | nil => exact iff_of_true rfl rfl
  | cons c pairs => exact iff_of_false (fun h => nomatch h) (List.cons_ne_nil c pairs)

/-- A pair without a name, whose password holds a carriage return. -/
def nameless : Credential := ⟨"", "a\rb"⟩

theorem journal_of_edits_nameless :
    (∀ e ∈ [Edit.remove, .add nameless, .add nameless], e.Plain) ∧
    (session "creds" [.remove, .add nameless, .add nameless]).run Slot.answer .free =
      ([(.error (.credentials "creds" "file does not exist"), []), (.ok (), [nameless]),
        (.ok (), [nameless, nameless])], slotOf [nameless, nameless]) := by
  have hplain : nameless.Plain := ⟨by decide, by decide, by decide, by decide⟩
  have h : ∀ e ∈ [Edit.remove, .add nameless, .add nameless], e.Plain := by
    simp [Edit.Plain, hplain]
  exact ⟨h, (journal_of_edits "creds" _ h).1⟩

end Credentials

end ChassisAdmin
