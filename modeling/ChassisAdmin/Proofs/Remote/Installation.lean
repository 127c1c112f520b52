import ChassisAdmin.Proofs.Shell.Quoted
import ChassisAdmin.Remote.Provision

/-!
# The command that installs a key

A remote shell reads the command as four commands, each of which runs if the ones
before it succeed.  The third echoes one argument to the file of keys, and that
argument is the quoted key (`readLine_installCommand`).

`argument_of_quote` says what arguments quoting passes on, alone and in that
command: every text comes out without its line feeds.  So a key of one line is
echoed as it is, whatever stands in it, and the keys of a file with several lines
are run together (`lineFeed_lost`).
-/

namespace ChassisAdmin.Remote

open Shell

/-- A word of characters none of which is quoted. -/
def bareWord (s : String) : Word := s.toList.map (.char · false)

/-- What a shell reads the command that installs a key as.  The last of its parts stands on a line
of its own number, since line feeds in the key count. -/
def installation (line : Nat) (argument : Word) : Shell.Command :=
  .conditional true
    (.conditional true
      (.conditional true
        (.simple 1 [] [bareWord "mkdir", bareWord "-p", bareWord "~/.ssh"] [])
        (.simple 1 [] [bareWord "chmod", bareWord "700", bareWord "~/.ssh"] []))
      (.simple 1 [] [bareWord "echo", argument] [⟨1, ">>", bareWord keysFile⟩]))
    (.simple line [] [bareWord "chmod", bareWord "600", bareWord keysFile] [])

/-- The tokens in front of the key. -/
def tokensBefore : List (Nat × Token) :=
  [(1, .word (bareWord "mkdir")), (1, .word (bareWord "-p")), (1, .word (bareWord "~/.ssh")),
    (1, .operator "&&"), (1, .word (bareWord "chmod")), (1, .word (bareWord "700")),
    (1, .word (bareWord "~/.ssh")), (1, .operator "&&"), (1, .word (bareWord "echo"))]

/-- The tokens after the key. -/
def tokensAfter (line : Nat) : List (Nat × Token) :=
  [(line, .redirection 1 ">>"), (line, .word (bareWord keysFile)), (line, .operator "&&"),
    (line, .word (bareWord "chmod")), (line, .word (bareWord "600")),
    (line, .word (bareWord keysFile))]

/-- The text in front of the key. -/
def textBefore : String := "mkdir -p ~/.ssh && chmod 700 ~/.ssh && echo "

/-- The text after the key. -/
def textAfter : String := " >> " ++ keysFile ++ " && chmod 600 " ++ keysFile

theorem toList_installCommand (key : String) : (installCommand key).toList =
    textBefore.toList ++ ((quote key).toList ++ textAfter.toList) := by
  unfold installCommand textBefore textAfter
  simp only [String.toList_append, List.append_assoc]

theorem toList_textAfter : textAfter.toList = ' ' ::
    ">> ~/.ssh/authorized_keys && chmod 600 ~/.ssh/authorized_keys".toList := by
  decide

theorem tokensFrom_textBefore (rest : List Char) :
    tokensFrom 0 1 (textBefore.toList ++ rest) = tokensBefore ++ tokensFrom 0 1 rest := rfl

theorem tokensFrom_textAfter (line : Nat) :
    tokensFrom 0 line textAfter.toList = tokensAfter line := by
  have hstream : usualStream ">>" = 1 := by simp [usualStream]
  rw [toList_textAfter, tokensAfter, ← hstream]
  rfl

theorem endsWord_textAfter : EndsWord textAfter.toList := toList_textAfter ▸ .blank _

theorem readLine_tokens (line : Nat) (w : Word) :
    readLine (tokensBefore ++ (1, .word w) :: tokensAfter line) = .ok (installation line w, []) :=
  rfl

theorem readLine_installCommand (key : String) : ∃ line,
    readLine (tokens (installCommand key).toList) =
      .ok (installation line (argumentWord key.toList), []) := by
  rw [tokens, toList_installCommand, tokensFrom_textBefore,
    tokensFrom_quote key endsWord_textAfter, tokensFrom_textAfter]
  exact ⟨_, readLine_tokens _ _⟩

/-! ## The argument that is echoed -/

/-- A shell reads a command as one that installs a key, and passes `echo` this one argument. -/
def Echoes (command argument : String) : Prop :=
  ∃ line w, readLine (tokens command.toList) = .ok (installation line w, []) ∧
    ∀ line fuel io, Interpreter.expandWords line (fuel + 3) io [bareWord "echo", w] =
      pure ["echo", argument]

theorem expandWords_echo (line fuel : Nat) (io : Streams) (key : String) :
    Interpreter.expandWords line (fuel + 3) io [bareWord "echo", argumentWord key.toList] =
      pure ["echo", withoutLineFeeds key] := by
  have hecho : Interpreter.expandWord line (fuel + 2) io (bareWord "echo") = pure ["echo"] := rfl
  change (do
    let args ← [bareWord "echo", argumentWord key.toList].mapM
      (Interpreter.expandWord line (fuel + 2) io)
    return args.flatten) = _
  simp only [List.mapM_cons, List.mapM_nil, hecho, expandWord_argumentWord, pure_bind]
  rfl

theorem echoes_installCommand_iff {key argument : String} :
    Echoes (installCommand key) argument ↔ argument = withoutLineFeeds key := by
  obtain ⟨line, hread⟩ := readLine_installCommand key
  constructor
  · rintro ⟨line', w, hread', hexpand⟩
    have hcommand : installation line (argumentWord key.toList) = installation line' w :=
      (Prod.mk.inj (Except.ok.inj (hread.symm.trans hread'))).1
    have hword : w = argumentWord key.toList := by
      simp only [installation, Command.conditional.injEq, Command.simple.injEq, List.cons.injEq,
        true_and, and_true] at hcommand
      exact hcommand.1.symm
    subst hword
    have hpure := (hexpand 0 0 ⟨none, none⟩).symm.trans (expandWords_echo 0 0 _ key)
    exact (List.cons.inj (List.cons.inj (pure_run_inj hpure)).2).1
  · rintro rfl
    exact ⟨line, _, hread, fun line fuel io => expandWords_echo line fuel io key⟩

/-- A quoted text comes out of a shell without its line feeds, wherever its word ends; and so does
the key that the command for installing it echoes.  The texts that come out as they are, are those
of one line. -/
theorem argument_of_quote (s : String) :
    (∀ rest argument, EndsWord rest →
      (Reads (quote s) rest argument ↔ argument = withoutLineFeeds s)) ∧
    (∀ argument, Echoes (installCommand s) argument ↔ argument = withoutLineFeeds s) ∧
    (withoutLineFeeds s = s ↔ '\n' ∉ s.toList) :=
  ⟨fun _ _ => reads_quote_iff, fun _ => echoes_installCommand_iff, withoutLineFeeds_eq_self_iff⟩

theorem argument_of_quote_specialCharacters :
    Reads (quote "ssh-rsa A+/\\\"= $(a)@\\`b") " >> keys".toList "ssh-rsa A+/\\\"= $(a)@\\`b" ∧
      Echoes (installCommand "ssh-rsa A+/\\\"= $(a)@\\`b") "ssh-rsa A+/\\\"= $(a)@\\`b" := by
  obtain ⟨hreads, hechoes, hline⟩ := argument_of_quote "ssh-rsa A+/\\\"= $(a)@\\`b"
  have hsame := (hline.2 (by decide)).symm
  exact ⟨(hreads _ _ (.blank _)).2 hsame, (hechoes _).2 hsame⟩

/-- The keys of a file with two lines are run together. -/
theorem lineFeed_lost :
    ¬Reads (quote "ssh-rsa AAAA a@b\nssh-rsa BBBB c@d") [] "ssh-rsa AAAA a@b\nssh-rsa BBBB c@d" ∧
    ¬Echoes (installCommand "ssh-rsa AAAA a@b\nssh-rsa BBBB c@d")
      "ssh-rsa AAAA a@b\nssh-rsa BBBB c@d" ∧
    Echoes (installCommand "ssh-rsa AAAA a@b\nssh-rsa BBBB c@d")
      "ssh-rsa AAAA a@bssh-rsa BBBB c@d" := by
  have hlost : "ssh-rsa AAAA a@b\nssh-rsa BBBB c@d" ≠
      withoutLineFeeds "ssh-rsa AAAA a@b\nssh-rsa BBBB c@d" := by
    intro h
    exact withoutLineFeeds_eq_self_iff.1 h.symm (by decide)
  exact ⟨fun h => hlost ((reads_quote_iff .nil).1 h),
    fun h => hlost (echoes_installCommand_iff.1 h), echoes_installCommand_iff.2 (by decide)⟩

end ChassisAdmin.Remote
