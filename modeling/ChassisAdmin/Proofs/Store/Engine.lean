import ChassisAdmin.Proofs.Store.Expression
import ChassisAdmin.Proofs.Store.Mirror
import ChassisAdmin.Proofs.Text.Glob

/-!
# Patterns as regular expressions

The expression for a pattern has one item for each character of the pattern and
the two marks around them.  The marks leave nothing before the first piece and
nothing after the last.  So the expression takes whole texts, in pieces that the
characters of the pattern can take (`found_globItems_iff`), and a documented
engine finds the keys that the matcher of patterns finds (`glob_of_documented`).
-/

namespace ChassisAdmin.Store

variable {c p : Char} {a : Atom} {item : Item} {items : List Item}
  {before piece after text : List Char}

/-! ## The expression for a pattern -/

/-- The item for one character of a pattern. -/
def globItem (c : Char) : Item :=
  if c = '*' then .repeated .any else if c = '?' then .once .any else .once (.literal c)

/-- The items for a pattern. -/
def globItems (pattern : List Char) : List Item := .start :: pattern.map globItem ++ [.stop]

theorem render_globItem (g : Engine) (c : Char) :
    (globItem c).render g.escape = g.charText c := by
  unfold globItem Engine.charText
  split
  · rfl
  · split <;> rfl

theorem foldl_append_charText (g : Engine) (pattern : List Char) (text : String) :
    pattern.foldl (fun text c => text ++ g.charText c) text =
      text ++ String.join (pattern.map g.charText) := by
  induction pattern generalizing text with
  | nil => simp
  | cons c pattern ih => rw [List.foldl_cons, ih, List.map_cons, String.join_cons, String.append_assoc]

/-- The expression for a pattern is made of its items. -/
theorem globText_eq (g : Engine) (pattern : String) :
    g.globText pattern = String.join ((globItems pattern.toList).map (Item.render g.escape)) := by
  have hmap : (pattern.toList.map globItem).map (Item.render g.escape) =
      pattern.toList.map g.charText := by
    rw [List.map_map]
    exact List.map_congr_left fun c _ => render_globItem g c
  rw [Engine.globText, foldl_append_charText, globItems, List.map_append, List.map_cons, hmap,
    String.join_append, String.join_cons]
  rfl

/-! ## What the expression for a pattern takes -/

theorem takes_once_iff :
    (Item.once a).takes before piece after = true ↔ ∃ c, a.accepts c = true ∧ piece = [c] := by
  constructor
  · intro h
    match piece with
    | [c] => exact ⟨c, h, rfl⟩
    | [] | _ :: _ :: _ => cases h
  · rintro ⟨c, h, rfl⟩
    exact h

/-- An item for a character of a pattern takes what the character takes, wherever it is. -/
theorem takes_globItem_iff :
    (globItem p).takes before piece after = true ↔ Text.Glob.Takes p piece := by
  unfold globItem Text.Glob.Takes
  split
  · simp only [Item.takes, List.all_eq_true, Atom.accepts, decide_eq_true_eq]
    exact ⟨fun h hmem => h _ hmem rfl, fun h c hc heq => h (heq ▸ hc)⟩
  · split
    · rw [takes_once_iff]
      simp only [Atom.accepts, decide_eq_true_eq]
    · rw [takes_once_iff]
      simp only [Atom.accepts, decide_eq_true_eq, exists_eq_left]

theorem inTurn_nil_iff : InTurn [] before piece after ↔ piece = [] := by
  constructor
  · intro h
    cases h
    rfl
  · rintro rfl
    exact .nil

theorem inTurn_cons_iff : InTurn (item :: items) before text after ↔
    ∃ piece rest, text = piece ++ rest ∧ item.takes before piece (rest ++ after) = true ∧
      InTurn items (before ++ piece) rest after := by
  constructor
  · intro h
    cases h with
    | cons h hs => exact ⟨_, _, rfl, h, hs⟩
  · rintro ⟨piece, rest, rfl, h, hs⟩
    exact .cons h hs

/-- The items for characters of a pattern and the mark for the end take what is left of a text, a
piece for each character. -/
theorem inTurn_globItems_iff {pattern : List Char} :
    InTurn (pattern.map globItem ++ [.stop]) before text after ↔
      after = [] ∧ ∃ pieces, List.Forall₂ Text.Glob.Takes pattern pieces ∧ text = pieces.flatten := by
  induction pattern generalizing before text with
  | nil =>
    rw [List.map_nil, List.nil_append, inTurn_cons_iff]
    simp only [inTurn_nil_iff, Item.takes, Bool.and_eq_true, List.isEmpty_iff,
      List.forall₂_nil_left_iff]
    constructor
    · rintro ⟨piece, rest, rfl, ⟨rfl, hafter⟩, rfl⟩
      exact ⟨hafter, [], rfl, rfl⟩
    · rintro ⟨rfl, pieces, rfl, rfl⟩
      exact ⟨[], [], rfl, ⟨rfl, rfl⟩, rfl⟩
  | cons p pattern ih =>
    rw [List.map_cons, List.cons_append, inTurn_cons_iff]
    simp only [takes_globItem_iff, ih]
    constructor
    · rintro ⟨piece, _, rfl, hpiece, hafter, pieces, hpieces, rfl⟩
      exact ⟨hafter, piece :: pieces, .cons hpiece hpieces, List.flatten_cons.symm⟩
    · rintro ⟨hafter, _, hpieces, rfl⟩
      cases hpieces with
      | cons hpiece hpieces =>
        exact ⟨_, _, List.flatten_cons, hpiece, hafter, _, hpieces, rfl⟩

/-- The expression for a pattern takes the whole of a text, a piece for each character. -/
theorem found_globItems_iff {pattern : List Char} : Found (globItems pattern) text ↔
    ∃ pieces, List.Forall₂ Text.Glob.Takes pattern pieces ∧ text = pieces.flatten := by
  simp only [Found, globItems, List.cons_append, inTurn_cons_iff, inTurn_globItems_iff, Item.takes,
    Bool.and_eq_true, List.isEmpty_iff]
  constructor
  · rintro ⟨_, _, _, rfl, _, _, rfl, ⟨rfl, rfl⟩, rfl, pieces, hpieces, rfl⟩
    exact ⟨pieces, hpieces, by simp⟩
  · rintro ⟨pieces, hpieces, rfl⟩
    exact ⟨[], pieces.flatten, [], by simp, [], _, rfl, ⟨rfl, rfl⟩, rfl, pieces, hpieces, rfl⟩

/-! ## What an engine finds -/

variable {g : Engine} {pattern : String}

theorem compile_of_compileGlob {expression : g.Compiled}
    (h : g.compileGlob pattern = .ok expression) :
    g.compile (String.join ((globItems pattern.toList).map (Item.render g.escape))) =
      .ok expression := by
  rw [← globText_eq]
  cases hcompile : g.compile (g.globText pattern) with
  | error message =>
    rw [Engine.compileGlob, hcompile] at h
    cases h
  | ok expression' =>
    rw [Engine.compileGlob, hcompile] at h
    cases h
    rfl

/-- An engine that goes by the documentation matches a pattern with the texts that can be cut into
pieces, one for each of its characters.  The keys that it finds in a database are these, in the
order of their bytes, and they are the keys that the database answers with. -/
theorem glob_of_documented (hg : g.Documented) {expression : g.Compiled}
    (h : g.compileGlob pattern = .ok expression) :
    (∀ text, g.isMatch expression text = true ↔
      ∃ pieces, List.Forall₂ Text.Glob.Takes pattern.toList pieces ∧
        text.toList = pieces.flatten) ∧
    ∀ m : Memory, ∃ keys, g.keys pattern m = .ok keys ∧
      (Memory.answer (.keys pattern) m).1 = .ok keys ∧ Ascending keys ∧
      ∀ key, key ∈ keys ↔ (m.records.get? key).isSome = true ∧
        ∃ pieces, List.Forall₂ Text.Glob.Takes pattern.toList pieces ∧
          key.toList = pieces.flatten := by
  have hmatch (text : String) := (hg.isMatch_iff _ _ (compile_of_compileGlob h) text).trans
    found_globItems_iff
  have hsame : g.isMatch expression = Text.Glob.isMatch pattern := by
    funext text
    rw [Bool.eq_iff_iff, hmatch, Text.Glob.isMatch_iff]
  refine ⟨hmatch, fun m => ⟨m.matching pattern, ?_, rfl, ?_, fun key => ?_⟩⟩
  · rw [Engine.keys, h]
    change Except.ok (m.records.keys.filter (g.isMatch expression)) = _
    rw [hsame]
    rfl
  · exact ascending_of_lt ((ascending_keys m.records).sublist List.filter_sublist)
  · rw [Memory.matching, List.mem_filter, Keyed.mem_keys_iff, Text.Glob.isMatch_iff]

/-- The engine for expressions of items compiles every pattern. -/
theorem compileGlob_reference (pattern : String) :
    reference.compileGlob pattern = .ok (globItems pattern.toList) := by
  have hcompile (text : String) : reference.compile text = compileItems text := rfl
  have hescape : reference.escape = escapeText := rfl
  rw [Engine.compileGlob, globText_eq, hcompile, hescape, compileItems_render]
  rfl

/-- A database with three keys, one with another character where the pattern has a dot and one with
more than one line. -/
def dotted : Memory :=
  Memory.empty.seed [("A.B", "x", [("f", "")]), ("AxB", "x", [("f", "")]), ("A.B", "y\n", [("f", "")])]

theorem glob_of_documented_dotted :
    reference.Documented ∧ (∃ expression, reference.compileGlob "A.B|*" = .ok expression) ∧
    reference.keys "A.B|*" dotted = .ok ["A.B|x"] := by
  obtain ⟨-, hkeys⟩ := glob_of_documented documented_reference (compileGlob_reference "A.B|*")
  obtain ⟨keys, hkeys, hanswer, -⟩ := hkeys dotted
  have hfound : (Memory.answer (.keys "A.B|*") dotted).1 = .ok ["A.B|x"] := by rfl
  rw [hanswer] at hfound
  exact ⟨documented_reference, ⟨_, compileGlob_reference "A.B|*"⟩, hkeys.trans hfound⟩

end ChassisAdmin.Store
