import ChassisAdmin.Shell.Interpreter

/-!
# How a shell reads a quoted argument

An argument is quoted one character at a time, and a shell reads it back one
character at a time (`readParts_quotedChar`).  A backslash in front of a dollar
sign, a backquote, a double quote or a backslash gives that character.  A
backslash in front of a line feed vanishes together with it, so a quoted line
feed is lost.  All other characters stand for themselves.

So the word that is read consists of the characters of the argument but its line
feeds, all of them quoted (`readWord_quote`).  Nothing in it is expanded, and
nothing divides it: it becomes one argument wherever the shell expands it
(`expandWord_argumentWord`).  `reads_quote_iff` puts the two together.
-/

namespace ChassisAdmin.Shell

/-! ## Reading -/

theorem withParts_withParts (ps qs : List Part) (n k : Nat) (r : Except Fault (Word × Nat)) :
    withParts ps n (withParts qs k r) = withParts (ps ++ qs) (n + k) r := by
  cases r with
  | error f => rfl
  | ok r => simp [withParts, Except.map, Nat.add_assoc]

theorem withParts_nil (r : Except Fault (Word × Nat)) : withParts [] 0 r = r := by
  cases r with
  | error f => rfl
  | ok r => simp [withParts, Except.map]

/-- The parts that a shell reads a quoted character as. -/
def argumentParts (c : Char) : List Part := if c = '\n' then [] else [.char c true]

theorem escapedParts_of_needsBackslash {c : Char} (h : needsBackslash c = true) :
    escapedParts .double c = argumentParts c := by
  unfold escapedParts argumentParts
  simp [h]

/-- Between double quotes a character without a meaning there stands for itself. -/
theorem readParts_double_cons {c : Char} (h : needsBackslash c = false) (cs : List Char) :
    readParts .double 0 (c :: cs) = withParts [.char c true] 1 (readParts .double 0 cs) := by
  simp only [needsBackslash, Bool.or_eq_false_iff, decide_eq_false_iff_not] at h
  obtain ⟨⟨⟨⟨hdollar, hback⟩, hquote⟩, hslash⟩, -⟩ := h
  simp only [readParts, hdollar, hback, hquote, hslash, if_false, if_true]

theorem readParts_quotedChar (c : Char) (cs : List Char) :
    readParts .double 0 (quotedChar c ++ cs) =
      withParts (argumentParts c) (quotedChar c).length (readParts .double 0 cs) := by
  unfold quotedChar
  cases h : needsBackslash c with
  | true =>
    have hread : readParts .double 0 ('\\' :: c :: cs) =
        withParts (escapedParts .double c) 1 (withParts [] 1 (readParts .double 0 cs)) := rfl
    rw [if_pos rfl, List.cons_append, List.singleton_append, hread,
      escapedParts_of_needsBackslash h, withParts_withParts, List.append_nil]
    rfl
  | false =>
    have hc : c ≠ '\n' := by
      rintro rfl
      cases h
    rw [if_neg Bool.false_ne_true, List.singleton_append, readParts_double_cons h, argumentParts,
      if_neg hc]
    rfl

theorem readParts_flatMap_quotedChar (cs rest : List Char) :
    readParts .double 0 (cs.flatMap quotedChar ++ rest) =
      withParts (cs.flatMap argumentParts) (cs.flatMap quotedChar).length
        (readParts .double 0 rest) := by
  induction cs with
  | nil => exact (withParts_nil _).symm
  | cons c cs ih =>
    rw [List.flatMap_cons, List.append_assoc, readParts_quotedChar, ih, withParts_withParts,
      List.flatMap_cons, List.length_append]

/-- The word that a shell reads a quoted argument as. -/
def argumentWord (cs : List Char) : Word := .quotes :: cs.flatMap argumentParts

/-- No word goes on at the front of a text. -/
def EndsWord (rest : List Char) : Prop := ∀ c ∈ rest.head?, endsWord c = true

theorem EndsWord.nil : EndsWord [] := by simp [EndsWord]

theorem EndsWord.blank (rest : List Char) : EndsWord (' ' :: rest) := by
  rintro c ⟨⟩
  rfl

theorem readParts_bare_of_endsWord {rest : List Char} (h : EndsWord rest) :
    readParts .bare 0 rest = .ok ([], 0) := by
  cases rest with
  | nil => rfl
  | cons c rest =>
    have hc : endsWord c = true := h c rfl
    have hne : ∀ d, endsWord d = false → c ≠ d := by
      rintro d hd rfl
      cases hc.symm.trans hd
    simp only [readParts, hne '\\' (by decide), hne '$' (by decide), hne backquote (by decide),
      hne '"' (by decide), hne '\'' (by decide), hc, reduceCtorEq, if_false, if_true]

/-- A quoted argument is read as a whole, and as one word. -/
theorem readWord_quote (s : String) {rest : List Char} (h : EndsWord rest) :
    readWord ((quote s).toList ++ rest) = .ok (argumentWord s.toList, (quote s).length) := by
  have hopen : ∀ cs, readWord ('"' :: cs) = withParts [.quotes] 1 (readParts .double 0 cs) :=
    fun _ => rfl
  have hclose : readParts .double 0 ('"' :: rest) = withParts [] 1 (.ok ([], 0)) := by
    rw [← readParts_bare_of_endsWord h]
    rfl
  have htext : (quote s).toList ++ rest =
      '"' :: (s.toList.flatMap quotedChar ++ '"' :: rest) := by
    rw [quote, String.toList_ofList, quoteChars]
    simp
  have hlength : (quote s).length = 1 + ((s.toList.flatMap quotedChar).length + 1) := by
    rw [quote, String.length_ofList, quoteChars]
    simp [Nat.add_comm]
  rw [htext, hopen, readParts_flatMap_quotedChar, hclose, hlength]
  simp only [withParts, Except.map, List.append_nil]
  rfl

/-- Characters that have been read already only count lines. -/
theorem tokensFrom_append (cs rest : List Char) (line : Nat) :
    tokensFrom cs.length line (cs ++ rest) = tokensFrom 0 (line + cs.count '\n') rest := by
  induction cs generalizing line with
  | nil => rfl
  | cons c cs ih =>
    rw [List.length_cons, List.cons_append, tokensFrom, ih]
    by_cases hc : c = '\n'
    · rw [if_pos hc, hc, List.count_cons_self, Nat.add_assoc, Nat.add_comm 1]
    · rw [if_neg hc, List.count_cons_of_ne hc]

/-- A quoted argument is one token. -/
theorem tokensFrom_quote (s : String) {rest : List Char} (h : EndsWord rest) (line : Nat) :
    tokensFrom 0 line ((quote s).toList ++ rest) =
      (line, .word (argumentWord s.toList)) ::
        tokensFrom 0 (line + (quote s).toList.count '\n') rest := by
  obtain ⟨cs, hcs⟩ : ∃ cs, (quote s).toList = '"' :: cs := ⟨_, String.toList_ofList⟩
  have hread := readWord_quote s h
  have hlength : (quote s).length = cs.length + 1 := by
    rw [← String.length_toList, hcs, List.length_cons]
  have hredirection : redirectionAt ('"' :: (cs ++ rest)) = none := rfl
  have hoperator : beginsWith operators ('"' :: (cs ++ rest)) = none := rfl
  rw [hcs, List.cons_append, hlength] at hread
  rw [hcs, List.cons_append, tokensFrom]
  simp only [hredirection, hoperator, hread]
  rw [if_neg (by decide), if_neg (by decide), if_neg (by decide), List.count_cons_of_ne (by decide),
    ← tokensFrom_append]
  rfl

/-! ## Expanding -/

/-- A text without its line feeds. -/
def withoutLineFeeds (s : String) : String := String.ofList (s.toList.filter (· ≠ '\n'))

theorem withoutLineFeeds_eq_self_iff {s : String} :
    withoutLineFeeds s = s ↔ '\n' ∉ s.toList := by
  rw [withoutLineFeeds, ← String.toList_inj, String.toList_ofList, List.filter_eq_self]
  simp only [decide_eq_true_eq]
  exact ⟨fun h hmem => h _ hmem rfl, fun h c hc hnl => h (hnl ▸ hc)⟩

theorem flatMap_argumentParts (cs : List Char) :
    cs.flatMap argumentParts = (cs.filter (· ≠ '\n')).map (.char · true) := by
  induction cs with
  | nil => rfl
  | cons c cs ih =>
    rw [List.flatMap_cons, ih, argumentParts]
    by_cases hc : c = '\n' <;> simp [hc]

namespace Interpreter

theorem expandPart_char (line fuel : Nat) (io : Streams) (f : Fields) (c : Char) (quoted : Bool) :
    expandPart line (fuel + 1) io f (.char c quoted) = pure (f.add [c]) := rfl

/-- Characters are added to the field under way, one after the other. -/
theorem foldlM_expandPart_chars (line fuel : Nat) (io : Streams) (quoted : Bool) (cs : List Char)
    (complete : List (List Char)) (current : List Char) :
    (cs.map (Part.char · quoted)).foldlM (expandPart line (fuel + 1) io) ⟨complete, some current⟩ =
      pure ⟨complete, some (cs.reverse ++ current)⟩ := by
  induction cs generalizing current with
  | nil => rfl
  | cons c cs ih =>
    rw [List.map_cons, List.foldlM_cons, expandPart_char, pure_bind]
    refine (ih (c :: current)).trans ?_
    rw [List.reverse_cons, List.append_assoc]
    rfl

end Interpreter

open Interpreter (expandWord)

theorem expandWord_argumentWord (line fuel : Nat) (io : Streams) (s : String) :
    expandWord line (fuel + 2) io (argumentWord s.toList) = pure [withoutLineFeeds s] := by
  let cs := s.toList.filter (· ≠ '\n')
  have hquotes : Interpreter.expandPart line (fuel + 1) io ⟨[], none⟩ .quotes =
      pure ⟨[], some []⟩ := rfl
  have hfold : (argumentWord s.toList).foldlM (Interpreter.expandPart line (fuel + 1) io)
      ⟨[], none⟩ = pure ⟨[], some cs.reverse⟩ := by
    rw [argumentWord, List.foldlM_cons, hquotes, pure_bind, flatMap_argumentParts,
      Interpreter.foldlM_expandPart_chars, List.append_nil]
  -- Opening quotes come first, so there is no tilde for the home directory.
  change (do
    let _ ← get
    let f ← (argumentWord s.toList).foldlM (Interpreter.expandPart line (fuel + 1) io) ⟨[], none⟩
    return f.toList) = _
  rw [hfold, withoutLineFeeds]
  have hfields : Interpreter.Fields.toList ⟨[], some cs.reverse⟩ = [String.ofList cs] := by
    simp [Interpreter.Fields.toList, Interpreter.Fields.finish]
  rw [pure_bind, hfields]
  rfl

/-- A shell reads a text in front of another as one word, which becomes one argument wherever it is
expanded. -/
def Reads (text : String) (rest : List Char) (argument : String) : Prop :=
  ∃ w, readWord (text.toList ++ rest) = .ok (w, text.length) ∧
    ∀ line fuel io, expandWord line (fuel + 2) io w = pure [argument]

/-- What runs without effect ends with one value. -/
theorem pure_run_inj {α : Type} {a b : α} (h : (pure a : Run α) = pure b) : a = b := by
  have hrun := congrFun h (⟨[], 0, [], []⟩ : State)
  exact Except.ok.inj (congrArg Prod.fst hrun)

/-- What a shell reads a quoted text as is the text without its line feeds. -/
theorem reads_quote_iff {s argument : String} {rest : List Char} (h : EndsWord rest) :
    Reads (quote s) rest argument ↔ argument = withoutLineFeeds s := by
  constructor
  · rintro ⟨w, hread, hexpand⟩
    obtain ⟨rfl, -⟩ := Prod.mk.inj (Except.ok.inj ((readWord_quote s h).symm.trans hread))
    have hpure := (hexpand 0 0 ⟨none, none⟩).symm.trans (expandWord_argumentWord 0 0 _ s)
    exact List.singleton_inj.1 (pure_run_inj hpure)
  · rintro rfl
    exact ⟨_, readWord_quote s h, fun line fuel io => expandWord_argumentWord line fuel io s⟩

end ChassisAdmin.Shell
