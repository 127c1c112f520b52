import ChassisAdmin.Proofs.Remote.Installation
import ChassisAdmin.Proofs.Text.Numerals
import ChassisAdmin.Service

/-!
# Nothing gets out of quotes

Between double quotes a character is escaped if the run of backslashes in front
of it has an odd length (`EscapesNext`).  A double quote that is not escaped ends
the quoted text, and a dollar sign or a backquote that is not escaped begins an
expansion.  A text is `Enclosed` if it has none of these and the quote after it
is not escaped either.

Quoting encloses every text (`enclosed_flatMap_quotedChar`).  The invariant is
that after each character the run of backslashes at the end of what was written
has an even length.  A backslash in the text keeps it, since it is written as
two.  Any other character that is escaped comes after a single one and ends the
run.

So a shell that reads a quoted text takes all of it and no more, and a command
with a quoted argument has the words it was given and no others: the commands of
the service manager are one program each (`invokes_command`), whatever the unit
is called.  `confined_of_quote` puts these together with the command that
installs a key.
-/

namespace ChassisAdmin.Shell

open Remote (bareWord Echoes installCommand)

/-! ## Escaped characters -/

/-- What follows a text between double quotes is escaped by the backslashes at its end. -/
def EscapesNext (front : List Char) : Prop :=
  (Text.trailingRun (· = '\\') front).length % 2 = 1

instance (front : List Char) : Decidable (EscapesNext front) :=
  inferInstanceAs (Decidable (_ = 1))

theorem not_escapesNext_nil : ¬EscapesNext [] := by simp [EscapesNext, Text.trailingRun]

theorem escapesNext_concat_backslash {front : List Char} :
    EscapesNext (front ++ ['\\']) ↔ ¬EscapesNext front := by
  simp only [EscapesNext, Text.trailingRun_concat, decide_true, if_true, List.length_append,
    List.length_singleton]
  omega

theorem not_escapesNext_concat {c : Char} (h : c ≠ '\\') (front : List Char) :
    ¬EscapesNext (front ++ [c]) := by
  simp [EscapesNext, Text.trailingRun_concat, h]

example : EscapesNext ['a', '\\', '\\', '\\'] ∧ ¬EscapesNext ['\\', '\\'] := by decide

/-- Double quotes around a text reach to its end, and nothing in it is expanded. -/
structure Enclosed (inner : List Char) : Prop where
  inside : ∀ front c back, inner = front ++ c :: back → c = '"' ∨ c = '$' ∨ c = backquote →
    EscapesNext front
  closed : ¬EscapesNext inner

/-! ## Quoted texts -/

theorem needsBackslash_of_special {c : Char} (h : c = '"' ∨ c = '$' ∨ c = backquote) :
    needsBackslash c = true := by
  rcases h with rfl | rfl | rfl <;> decide

theorem not_escapesNext_append_quotedChar {front : List Char} (h : ¬EscapesNext front) (c : Char) :
    ¬EscapesNext (front ++ quotedChar c) := by
  unfold quotedChar
  split
  · rw [List.append_cons]
    by_cases hc : c = '\\'
    · rwa [hc, escapesNext_concat_backslash, escapesNext_concat_backslash, Classical.not_not]
    · exact not_escapesNext_concat hc _
  · next hc =>
    refine not_escapesNext_concat ?_ _
    rintro rfl
    exact hc rfl

theorem not_escapesNext_append_flatMap (cs : List Char) {front : List Char}
    (h : ¬EscapesNext front) : ¬EscapesNext (front ++ cs.flatMap quotedChar) := by
  induction cs generalizing front with
  | nil => simpa using h
  | cons c cs ih =>
    rw [List.flatMap_cons, ← List.append_assoc]
    exact ih (not_escapesNext_append_quotedChar h c)

theorem escapesNext_of_flatMap_eq {cs written front back : List Char} {c : Char}
    (hwritten : ¬EscapesNext written) (h : cs.flatMap quotedChar = front ++ c :: back)
    (hc : c = '"' ∨ c = '$' ∨ c = backquote) : EscapesNext (written ++ front) := by
  -- The special character is the first one that was quoted, or it comes after it.
  induction cs generalizing written front with
  | nil => simp at h
  | cons d cs ih =>
    have hnext := not_escapesNext_append_quotedChar hwritten d
    rw [List.flatMap_cons] at h
    by_cases hd : needsBackslash d = true
    · rw [quotedChar, if_pos hd] at h hnext
      match front with
      | [] =>
        obtain ⟨rfl, -⟩ : '\\' = c ∧ _ := by simpa using h
        exact absurd hc (by decide)
      | [_] =>
        obtain ⟨rfl, -⟩ : '\\' = _ ∧ _ := by simpa using h
        exact escapesNext_concat_backslash.2 hwritten
      | _ :: _ :: front =>
        obtain ⟨rfl, rfl, hcs⟩ : '\\' = _ ∧ d = _ ∧ cs.flatMap quotedChar = front ++ c :: back := by
          simpa using h
        rw [List.append_cons, List.append_cons, List.append_assoc written]
        exact ih hnext hcs
    · rw [quotedChar, if_neg hd] at h hnext
      match front with
      | [] =>
        obtain ⟨rfl, -⟩ : d = c ∧ _ := by simpa using h
        exact absurd (needsBackslash_of_special hc) hd
      | _ :: front =>
        obtain ⟨rfl, hcs⟩ : d = _ ∧ cs.flatMap quotedChar = front ++ c :: back := by
          simpa using h
        rw [List.append_cons]
        exact ih hnext hcs

theorem enclosed_flatMap_quotedChar (cs : List Char) : Enclosed (cs.flatMap quotedChar) where
  inside _ _ _ h hc := escapesNext_of_flatMap_eq not_escapesNext_nil h hc
  closed := not_escapesNext_append_flatMap cs not_escapesNext_nil

/-- A shell reads a text in front of another as a word of quoted characters, and goes on with the
other. -/
structure ReadAlone (text : String) (rest : List Char) (w : Word) : Prop where
  whole : readWord (text.toList ++ rest) = .ok (w, text.length)
  literal : ∀ part ∈ w, part = .quotes ∨ ∃ c, part = .char c true
  resumed : ∀ line, tokensFrom 0 line (text.toList ++ rest) =
    (line, .word w) :: tokensFrom 0 (line + text.toList.count '\n') rest

theorem literal_argumentWord {cs : List Char} {part : Part} (h : part ∈ argumentWord cs) :
    part = .quotes ∨ ∃ c, part = .char c true := by
  rw [argumentWord, flatMap_argumentParts] at h
  rcases List.mem_cons.1 h with rfl | h
  · exact .inl rfl
  · obtain ⟨c, -, rfl⟩ := List.mem_map.1 h
    exact .inr ⟨c, rfl⟩

theorem readAlone_quote (s : String) {rest : List Char} (h : EndsWord rest) :
    ReadAlone (quote s) rest (argumentWord s.toList) where
  whole := readWord_quote s h
  literal _ := literal_argumentWord
  resumed := tokensFrom_quote s h

/-! ## Commands with one quoted argument -/

/-- A text has a first character, which does not stand for the home directory. -/
def beginsPlain (s : String) : Bool := s.toList.head?.any (· ≠ '~')

theorem exists_cons_of_beginsPlain {s : String} (h : beginsPlain s = true) :
    ∃ c cs, s.toList = c :: cs ∧ c ≠ '~' := by
  unfold beginsPlain at h
  cases hs : s.toList with
  | nil =>
    rw [hs] at h
    cases h
  | cons c cs =>
    rw [hs] at h
    exact ⟨c, cs, rfl, by simpa using h⟩

namespace Interpreter

theorem expandHome_char {c : Char} (h : c ≠ '~') (home : List Char) (w : Word) :
    expandHome home (.char c false :: w) = .char c false :: w := by
  unfold expandHome
  split
  · next hw =>
    cases hw
    exact absurd rfl h
  · next hw =>
    cases hw
    exact absurd rfl h
  · rfl

/-- An unquoted text without expansions stands for itself. -/
theorem expandWord_bareWord (line fuel : Nat) (io : Streams) {s : String}
    (h : beginsPlain s = true) : expandWord line (fuel + 2) io (bareWord s) = pure [s] := by
  obtain ⟨c, cs, hs, hc⟩ := exists_cons_of_beginsPlain h
  have hword : bareWord s = .char c false :: cs.map (.char · false) := by
    rw [bareWord, hs, List.map_cons]
  have hfold : (bareWord s).foldlM (expandPart line (fuel + 1) io) ⟨[], none⟩ =
      pure ⟨[], some (cs.reverse ++ [c])⟩ := by
    rw [hword, List.foldlM_cons, expandPart_char, pure_bind]
    exact foldlM_expandPart_chars line fuel io false cs [] [c]
  have hfields : Fields.toList ⟨[], some (cs.reverse ++ [c])⟩ = [s] := by
    simp [Fields.toList, Fields.finish, ← hs]
  have hhome : ∀ home, expandHome home (bareWord s) = bareWord s := by
    intro home
    rw [hword, expandHome_char hc]
  change (do
    let state ← get
    let f ← (expandHome (valueOf state "HOME").toList (bareWord s)).foldlM
      (expandPart line (fuel + 1) io) ⟨[], none⟩
    return f.toList) = _
  simp only [hhome, hfold, pure_bind, hfields]
  rfl

theorem mapM_expandWord_bareWords {words : List String} (h : ∀ s ∈ words, beginsPlain s = true)
    (line fuel : Nat) (io : Streams) :
    (words.map bareWord).mapM (expandWord line (fuel + 2) io) = pure (words.map ([·])) := by
  induction words with
  | nil => rfl
  | cons s words ih =>
    obtain ⟨hs, hwords⟩ := List.forall_mem_cons.1 h
    rw [List.map_cons, List.mapM_cons, expandWord_bareWord line fuel io hs, pure_bind, ih hwords,
      pure_bind]
    rfl

end Interpreter

open Interpreter (expandWord expandWords)

/-- A shell reads a command as one program with these arguments, and as nothing else. -/
def Invokes (command : String) (args : List String) : Prop :=
  ∃ words, readLine (tokens command.toList) = .ok (.simple 1 [] words [], []) ∧
    ∀ line fuel io, expandWords line (fuel + 3) io words = pure args

/-- Words in front of a quoted argument. -/
def wordTokens (words : List String) : List (Nat × Token) :=
  words.map fun s => (1, .word (bareWord s))

/-- A text that reads as words, with a quoted argument after it. -/
theorem invokes_append_quote (front : String) (words : List String)
    (htokens : ∀ rest,
      tokensFrom 0 1 (front.toList ++ rest) = wordTokens words ++ tokensFrom 0 1 rest)
    (hline : ∀ w, readLine (wordTokens words ++ [(1, .word w)]) =
      .ok (.simple 1 [] (words.map bareWord ++ [w]) [], []))
    (hplain : ∀ s ∈ words, beginsPlain s = true) (argument : String) :
    Invokes (front ++ quote argument) (words ++ [withoutLineFeeds argument]) := by
  refine ⟨words.map bareWord ++ [argumentWord argument.toList], ?_, fun line fuel io => ?_⟩
  · have hquote := tokensFrom_quote argument .nil 1
    rw [List.append_nil] at hquote
    rw [tokens, String.toList_append, htokens, hquote]
    exact hline _
  · have hflatten : (words.map ([·])).flatten = words := by
      rw [← List.flatMap_def, List.flatMap_singleton']
    change (do
      let fields ← (words.map bareWord ++ [argumentWord argument.toList]).mapM
        (expandWord line (fuel + 2) io)
      return fields.flatten) = _
    simp only [List.mapM_append, List.mapM_cons, List.mapM_nil,
      Interpreter.mapM_expandWord_bareWords hplain,
      expandWord_argumentWord, pure_bind, List.flatten_append, hflatten]
    rfl

/-! ## The commands of the service manager -/

/-- The program that a call on the service manager runs, and its arguments. -/
def argumentsOf : Service.Call → List String
  | .isActive unit => [Service.systemctl, "is-active", "--quiet", withoutLineFeeds unit]
  | c => [Service.asRoot, Service.systemctl, c.verb, withoutLineFeeds c.unit]

theorem invokes_command (c : Service.Call) : Invokes (Service.command c) (argumentsOf c) := by
  cases c with
  | start unit =>
    exact invokes_append_quote "/usr/bin/sudo /bin/systemctl start "
      [Service.asRoot, Service.systemctl, "start"] (fun _ => rfl) (fun _ => rfl)
      (by decide) unit
  | stop unit =>
    exact invokes_append_quote "/usr/bin/sudo /bin/systemctl stop "
      [Service.asRoot, Service.systemctl, "stop"] (fun _ => rfl) (fun _ => rfl)
      (by decide) unit
  | resetFailed unit =>
    exact invokes_append_quote "/usr/bin/sudo /bin/systemctl reset-failed "
      [Service.asRoot, Service.systemctl, "reset-failed"] (fun _ => rfl) (fun _ => rfl)
      (by decide) unit
  | isActive unit =>
    exact invokes_append_quote "/bin/systemctl is-active --quiet "
      [Service.systemctl, "is-active", "--quiet"] (fun _ => rfl) (fun _ => rfl)
      (by decide) unit

/-- Whatever a text holds, its quotes are closed by the last of them and by none before, and nothing
between them is expanded.  A shell reads it as one word and goes on with what follows.  The commands
of the service manager consist of the words they were given, and so does the one that installs a
key. -/
theorem confined_of_quote (s : String) :
    (∃ inner, (quote s).toList = '"' :: inner ++ ['"'] ∧ Enclosed inner) ∧
    (∀ rest, EndsWord rest → ReadAlone (quote s) rest (argumentWord s.toList)) ∧
    (∀ c : Service.Call, c.unit = s → Invokes (Service.command c) (argumentsOf c)) ∧
    Echoes (installCommand s) (withoutLineFeeds s) := by
  refine ⟨⟨s.toList.flatMap quotedChar, ?_, enclosed_flatMap_quotedChar _⟩, ?_, ?_, ?_⟩
  · rw [quote, String.toList_ofList, quoteChars]
  · exact fun rest h => readAlone_quote s h
  · exact fun c _ => invokes_command c
  · exact Remote.echoes_installCommand_iff.2 rfl

theorem confined_of_quote_backslashAtEnd :
    EndsWord " >> keys".toList ∧
      ReadAlone (quote "a\\\"; $(b) `c` \\") " >> keys".toList
        (argumentWord "a\\\"; $(b) `c` \\".toList) ∧
      (Service.Call.stop "a\\\"; $(b) `c` \\").unit = "a\\\"; $(b) `c` \\" ∧
      Invokes (Service.command (.stop "a\\\"; $(b) `c` \\"))
        ["/usr/bin/sudo", "/bin/systemctl", "stop", "a\\\"; $(b) `c` \\"] := by
  obtain ⟨-, hread, hservice, -⟩ := confined_of_quote "a\\\"; $(b) `c` \\"
  have hinvokes : Invokes _ [_, _, "stop", withoutLineFeeds _] := hservice (.stop _) rfl
  rw [withoutLineFeeds_eq_self_iff.2 (by decide)] at hinvokes
  exact ⟨.blank _, hread _ (.blank _), rfl, hinvokes⟩

end ChassisAdmin.Shell
