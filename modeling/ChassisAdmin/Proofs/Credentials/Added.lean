import ChassisAdmin.Proofs.Credentials
import ChassisAdmin.Proofs.Text.Trimmed
import Mathlib.Algebra.Group.Nat.Even

/-!
# A pair at the end of any file

What stands in the file may come from an editor.  Its last line may not be ended,
and its last name may have no password.  A pair is added as two lines all the
same.  Its name goes on with the open line, and is read as a password where the
line before it is a name (`parse_add_of_even` and `parse_add_of_odd`).

`reads_added_iff` says for which files and pairs adding is what it should be: the
pairs of before are read, and then the pair that was added.  The pair has to be
plain, since nothing else is ever read (`plain_of_mem_parse`), and the file has to
be `Settled`: no name waits for its password, and there is no open line but one of
blanks.  Other than that the two agree only by coincidence, when the waiting name
is also the name and the password that are added.  `pairs_lost` shows an added pair
that is not found, and a pair whose password is not the same any more.
-/

namespace ChassisAdmin.Credentials

open Files (Slot)

variable {content : String} {c : Credential} {ls front : List String} {name : String}

/-! ## The lines of a file -/

/-- The lines of a file that a line feed ends, trimmed. -/
def endedLines (content : String) : List String :=
  (Text.endedLines content.toList).map fun l => String.ofList (Text.trim l)

/-- What stands after the last line feed of a file. -/
def openLine (content : String) : String := String.ofList (Text.openLine content.toList)

theorem openLine_eq_empty_iff : openLine content = "" ↔ Text.openLine content.toList = [] := by
  rw [openLine, ← String.toList_inj, String.toList_ofList]
  rfl

theorem trimmedLines_eq (content : String) :
    trimmedLines content =
      endedLines content ++
        if openLine content = "" then [] else [Text.trimmed (openLine content)] := by
  rw [trimmedLines, Text.lines_eq, List.map_append, endedLines]
  simp only [openLine_eq_empty_iff]
  split
  · rfl
  · rw [Text.trimmed, openLine, String.toList_ofList]
    rfl

/-- The name of a plain pair that is added goes on with the open line. -/
theorem trimmedLines_add (content : String) (hc : c.Plain) :
    trimmedLines (content ++ c.lines) =
      endedLines content ++ [Text.trimmed (openLine content ++ c.username), c.password] := by
  have hname : '\n' ∉ Text.openLine content.toList ++ c.username.toList :=
    List.not_mem_append (Text.lineFeed_not_mem_openLine _) hc.username_line
  have hopen : Text.openLine content.toList ++ c.username.toList =
      (openLine content ++ c.username).toList := by
    rw [String.toList_append, openLine, String.toList_ofList]
  rw [trimmedLines, String.toList_append, Text.lines_append_eq, c.toList_lines,
    ← List.append_assoc (Text.openLine _), Text.lines_append hname,
    Text.lines_append hc.password_line, List.map_append, List.map_cons, List.map_cons,
    Text.trim_dropReturn, Text.trim_dropReturn, trim_of_trimmed hc.password_trimmed, hopen,
    String.ofList_toList]
  rfl

/-! ## The pairs of lines -/

theorem pairsOfLines_append (h : Even ls.length) (rest : List String) :
    pairsOfLines (ls ++ rest) = pairsOfLines ls ++ pairsOfLines rest := by
  fun_induction pairsOfLines ls with
  | case1 username password ls ih =>
    have hls : Even ls.length := by simpa [Nat.even_add_one] using h
    rw [List.cons_append, List.cons_append, pairsOfLines, ih hls, List.cons_append]
  | case2 ls hls =>
    cases ls with
    | nil => rfl
    | cons line ls =>
      cases ls with
      | nil => simp at h
      | cons line' ls => exact (hls _ _ _ rfl).elim

theorem exists_concat_of_not_even (h : ¬Even ls.length) :
    ∃ front line, ls = front ++ [line] ∧ Even front.length := by
  obtain rfl | ⟨front, line, rfl⟩ := List.eq_nil_or_concat ls
  · exact absurd (by simp) h
  · refine ⟨front, line, List.concat_eq_append, ?_⟩
    simpa [Nat.even_add_one] using h

/-! ## The pairs before and after -/

theorem parse_of_even (h : Even (endedLines content).length) :
    parse content = pairsOfLines (endedLines content) := by
  rw [parse, trimmedLines_eq, pairsOfLines_append h]
  split <;> simp [pairsOfLines]

theorem parse_add_of_even (hc : c.Plain) (h : Even (endedLines content).length) :
    parse (content ++ c.lines) =
      parse content ++ [⟨Text.trimmed (openLine content ++ c.username), c.password⟩] := by
  rw [parse_of_even h, parse, trimmedLines_add content hc, pairsOfLines_append h]
  rfl

theorem parse_of_odd (h : endedLines content = front ++ [name]) (heven : Even front.length) :
    parse content = pairsOfLines front ++
      if openLine content = "" then [] else [⟨name, Text.trimmed (openLine content)⟩] := by
  rw [parse, trimmedLines_eq, h, List.append_assoc, pairsOfLines_append heven]
  split <;> rfl

/-- The name that waits for its password gets the name that is added. -/
theorem parse_add_of_odd (hc : c.Plain) (h : endedLines content = front ++ [name])
    (heven : Even front.length) :
    parse (content ++ c.lines) =
      pairsOfLines front ++ [⟨name, Text.trimmed (openLine content ++ c.username)⟩] := by
  rw [parse, trimmedLines_add content hc, h, List.append_assoc, pairsOfLines_append heven]
  rfl

/-! ## When a pair is read as it was added -/

theorem mem_of_mem_pairsOfLines (h : c ∈ pairsOfLines ls) : c.username ∈ ls ∧ c.password ∈ ls := by
  fun_induction pairsOfLines ls with
  | case1 username password ls ih =>
    obtain rfl | h := List.mem_cons.1 h
    · simp
    · obtain ⟨hname, hpassword⟩ := ih h
      simp [hname, hpassword]
  | case2 => cases h

/-- Every pair that is read is plain. -/
theorem plain_of_mem_parse (h : c ∈ parse content) : c.Plain := by
  have hline {line : String} (h : line ∈ trimmedLines content) :
      '\n' ∉ line.toList ∧ Text.trimmed line = line := by
    obtain ⟨l, hl, rfl⟩ := List.mem_map.1 h
    rw [Text.trimmed, String.toList_ofList, Text.trim_trim]
    exact ⟨fun hmem => Text.lineFeed_not_mem_of_mem_lines hl (Text.trim_subset l hmem), rfl⟩
  obtain ⟨hname, hpassword⟩ := mem_of_mem_pairsOfLines h
  exact ⟨(hline hname).1, (hline hname).2, (hline hpassword).1, (hline hpassword).2⟩

/-- What is added to a file begins a line of its own, and that line is read as a name. -/
structure Settled (content : String) : Prop where
  /-- There is no open line, or one of blanks. -/
  blank : Text.Blank (openLine content).toList
  /-- No name waits for its password. -/
  even : Even (endedLines content).length

/-- The name that waits for its password in a file is the name and the password of a pair as
well. -/
def Coincides (content : String) (c : Credential) : Prop :=
  openLine content = "" ∧
    ∃ front, Even front.length ∧ endedLines content = front ++ [c.username] ∧
      c.password = c.username

/-- What stands in front of a trimmed name is trimmed away exactly if it is blank. -/
theorem trimmed_append_eq_iff {s name : String} (h : Text.trimmed name = name) :
    Text.trimmed (s ++ name) = name ↔ Text.Blank s.toList := by
  have htrim := trim_of_trimmed h
  rw [Text.trimmed, ← String.toList_inj, String.toList_ofList, String.toList_append]
  constructor
  · exact Text.blank_of_trim_append
  · intro hblank
    rw [Text.trim_blank_append hblank, htrim]

theorem mk_eq_iff {name password : String} :
    (⟨name, password⟩ : Credential) = c ↔ name = c.username ∧ password = c.password := by
  cases c
  exact Credential.mk.injEq .. ▸ Iff.rfl

theorem parse_add_eq_iff_of_even (hc : c.Plain) (h : Even (endedLines content).length) :
    parse (content ++ c.lines) = parse content ++ [c] ↔ Text.Blank (openLine content).toList := by
  rw [parse_add_of_even hc h, List.append_right_inj, List.singleton_inj, mk_eq_iff,
    ← trimmed_append_eq_iff hc.username_trimmed]
  exact and_iff_left rfl

theorem parse_add_eq_iff_of_odd (hc : c.Plain) (h : endedLines content = front ++ [name])
    (heven : Even front.length) :
    parse (content ++ c.lines) = parse content ++ [c] ↔
      openLine content = "" ∧ name = c.username ∧ c.password = c.username := by
  rw [parse_add_of_odd hc h heven, parse_of_odd h heven]
  split
  · next hopen =>
    rw [hopen, String.empty_append, hc.username_trimmed, List.append_nil, List.append_right_inj,
      List.singleton_inj, mk_eq_iff, eq_comm (a := c.username)]
    exact (and_iff_right rfl).symm
  · next hopen =>
    -- Two pairs are to be read from the lines of one.
    refine iff_of_false (fun hpairs => ?_) fun h => hopen h.1
    have hlength := congrArg List.length hpairs
    simp at hlength

theorem parse_add_eq_iff :
    parse (content ++ c.lines) = parse content ++ [c] ↔
      c.Plain ∧ (Settled content ∨ Coincides content c) := by
  have hplain (h : parse (content ++ c.lines) = parse content ++ [c]) : c.Plain :=
    plain_of_mem_parse (h ▸ List.mem_append_right _ (List.mem_singleton_self c))
  by_cases heven : Even (endedLines content).length
  · have hnot : ¬Coincides content c := by
      rintro ⟨-, front, hfront, hended, -⟩
      simp [hended, Nat.even_add_one, hfront] at heven
    constructor
    · intro h
      exact ⟨hplain h, .inl ⟨(parse_add_eq_iff_of_even (hplain h) heven).1 h, heven⟩⟩
    · rintro ⟨hc, hsettled | hcoincides⟩
      · exact (parse_add_eq_iff_of_even hc heven).2 hsettled.blank
      · exact absurd hcoincides hnot
  · obtain ⟨front, name, hended, hfront⟩ := exists_concat_of_not_even heven
    constructor
    · intro h
      obtain ⟨hopen, rfl, hpassword⟩ := (parse_add_eq_iff_of_odd (hplain h) hended hfront).1 h
      exact ⟨hplain h, .inr ⟨hopen, front, hfront, hended, hpassword⟩⟩
    · rintro ⟨hc, hsettled | ⟨hopen, front', hfront', hended', hpassword⟩⟩
      · exact absurd hsettled.even heven
      · exact (parse_add_eq_iff_of_odd hc hended' hfront').2 ⟨hopen, rfl, hpassword⟩

/-! ## The file -/

/-- What stands at the path of a file with some content. -/
def fileOf (mode : Nat) (content : String) : Slot := .file mode (Text.Utf8.encode content)

theorem run_read_fileOf (path : String) (mode : Nat) (content : String) :
    (read path).run Slot.answer (fileOf mode content) = (parse content, fileOf mode content) := by
  have htext : Files.textOf (Text.Utf8.encode content) = .ok content := by
    rw [Files.textOf, Text.Utf8.decode_encode]
  change (ofContent (Files.textOf _), _) = _
  rw [htext]
  rfl

theorem runWith_add_fileOf (path : String) (mode : Nat) (content : String) (c : Credential) :
    (add path c).runWith Slot.answer (fileOf mode content) =
      (.ok (), fileOf mode (content ++ c.lines)) := by
  unfold fileOf
  rw [encode_append]
  rfl

/-- Every pair is accepted, whatever stands in the file.  Afterwards the pairs of before are read
and then the pair that was added, exactly if the pair is plain and the file is settled, or by
coincidence.  Into other files a plain pair goes with a name that begins with the open line, or as
the password of the name that waits. -/
theorem reads_added_iff (path : String) (mode : Nat) (content : String) (c : Credential) :
    (read path).run Slot.answer (fileOf mode content) = (parse content, fileOf mode content) ∧
    ∃ after pairs, (add path c).runWith Slot.answer (fileOf mode content) = (.ok (), after) ∧
      (read path).run Slot.answer after = (pairs, after) ∧
      (pairs = parse content ++ [c] ↔ c.Plain ∧ (Settled content ∨ Coincides content c)) ∧
      (c.Plain →
        (Even (endedLines content).length → pairs =
          parse content ++ [⟨Text.trimmed (openLine content ++ c.username), c.password⟩]) ∧
        ∀ front name, endedLines content = front ++ [name] → Even front.length → pairs =
          pairsOfLines front ++ [⟨name, Text.trimmed (openLine content ++ c.username)⟩]) :=
  ⟨run_read_fileOf path mode content, _, _, runWith_add_fileOf path mode content c,
    run_read_fileOf path mode _, parse_add_eq_iff,
    fun hc => ⟨parse_add_of_even hc, fun _ _ h heven => parse_add_of_odd hc h heven⟩⟩

/-- A pair to add. -/
def root : Credential := ⟨"root", "pw2"⟩

theorem plain_root : root.Plain := ⟨by decide, by decide, by decide, by decide⟩

theorem reads_added_iff_indented :
    Settled "admin\npw1\n  " ∧
    ∃ after, (add "creds" root).runWith Slot.answer (fileOf 0o644 "admin\npw1\n  ") =
        (.ok (), after) ∧
      (read "creds").run Slot.answer after = ([⟨"admin", "pw1"⟩, root], after) := by
  have hsettled : Settled "admin\npw1\n  " := ⟨by decide +kernel, ⟨1, by decide +kernel⟩⟩
  obtain ⟨-, after, pairs, hadd, hread, hiff, -⟩ :=
    reads_added_iff "creds" 0o644 "admin\npw1\n  " root
  have hpairs := hiff.2 ⟨plain_root, .inl hsettled⟩
  have hparse : parse "admin\npw1\n  " = [⟨"admin", "pw1"⟩] := by decide +kernel
  rw [hpairs, hparse] at hread
  exact ⟨hsettled, after, hadd, hread⟩

/-- The last name of a file has no password, and gets the name of the pair that is added.  The last
line of a file is not ended, and the name of the pair that is added goes on with the password. -/
theorem pairs_lost :
    ((read "creds").run Slot.answer (fileOf 0o644 "admin\npw1\norphan\n")).1 =
        [⟨"admin", "pw1"⟩] ∧
    (∃ after, (add "creds" root).runWith Slot.answer (fileOf 0o644 "admin\npw1\norphan\n") =
        (.ok (), after) ∧
      ((read "creds").run Slot.answer after).1 = [⟨"admin", "pw1"⟩, ⟨"orphan", "root"⟩]) ∧
    ((read "creds").run Slot.answer (fileOf 0o644 "admin\npw1")).1 = [⟨"admin", "pw1"⟩] ∧
    ∃ after, (add "creds" root).runWith Slot.answer (fileOf 0o644 "admin\npw1") = (.ok (), after) ∧
      ((read "creds").run Slot.answer after).1 = [⟨"admin", "pw1root"⟩] := by
  refine ⟨?_, ⟨_, runWith_add_fileOf .., ?_⟩, ?_, _, runWith_add_fileOf .., ?_⟩ <;>
    rw [run_read_fileOf] <;> decide +kernel

end ChassisAdmin.Credentials
