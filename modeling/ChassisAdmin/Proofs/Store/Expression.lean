import ChassisAdmin.Proofs.Text.Numerals
import ChassisAdmin.Store.Engine

/-!
# Expressions and engines

Of regular expressions only a few are made here.  They are sequences of items:
the marks for the start and the end of a text, characters, and any numbers of
characters, where a character stands for itself or is any but a line feed.
`Item.takes` says what the documentation of an engine says of each.  An
expression matches a text if its items take consecutive pieces somewhere in it
(`Found`), so what stands before the first piece and after the last is up to the
items.  An engine that goes by this is `Documented`.

`reference` is such an engine.  It compiles an expression by reading its items
back, which finds those that were written (`scanMany_render`), and it looks for a
match by trying all pieces (`search_iff`).
-/

namespace ChassisAdmin.Store

/-! ## Expressions -/

/-- What stands for one character. -/
inductive Atom where
  /-- Any character but a line feed. -/
  | any
  /-- A character that stands for itself. -/
  | literal (c : Char)
  deriving DecidableEq

/-- A part of an expression. -/
inductive Item where
  /-- The mark for the start of a text. -/
  | start
  /-- The mark for the end of a text. -/
  | stop
  /-- One character. -/
  | once (a : Atom)
  /-- Any number of characters. -/
  | repeated (a : Atom)
  deriving DecidableEq

variable {c p : Char} {a : Atom} {item : Item} {items : List Item}
  {before piece pieceAfter after text rest : List Char} {escape : String → String}

/-- The expression for a character. -/
def Atom.render (escape : String → String) : Atom → String
  | any => "."
  | literal c => escape (String.singleton c)

/-- Whether a character is stood for. -/
def Atom.accepts : Atom → Char → Bool
  | any, c => c ≠ '\n'
  | literal d, c => c = d

/-- The expression for an item. -/
def Item.render (escape : String → String) : Item → String
  | start => "^"
  | stop => "$"
  | once a => a.render escape
  | repeated a => a.render escape ++ "*"

/-- Whether an item takes a piece of a text that has so much before and after it. -/
def Item.takes : Item → (before piece after : List Char) → Bool
  | start, before, piece, _ => before.isEmpty && piece.isEmpty
  | stop, _, piece, after => piece.isEmpty && after.isEmpty
  | once a, _, [c], _ => a.accepts c
  | once _, _, _, _ => false
  | repeated a, _, piece, _ => piece.all a.accepts

/-- Items one after the other take consecutive pieces. -/
inductive InTurn : List Item → (before piece after : List Char) → Prop where
  | nil {before after : List Char} : InTurn [] before [] after
  | cons {item : Item} {items : List Item} {before piece pieces after : List Char}
      (h : item.takes before piece (pieces ++ after) = true)
      (hs : InTurn items (before ++ piece) pieces after) :
      InTurn (item :: items) before (piece ++ pieces) after

/-- Items take pieces somewhere in a text. -/
def Found (items : List Item) (text : List Char) : Prop :=
  ∃ before piece after, text = before ++ (piece ++ after) ∧ InTurn items before piece after

/-- An engine goes by the documentation: an expression made of items matches a text if the items
are found in it. -/
structure Engine.Documented (g : Engine) : Prop where
  isMatch_iff : ∀ items expression,
    g.compile (String.join (items.map (Item.render g.escape))) = .ok expression →
    ∀ text, g.isMatch expression text = true ↔ Found items text.toList

/-! ## An engine for expressions of items -/

open Text (Scan scanAny scanAny_cons scanChar scanChar_cons scanMany scanOption scanTimes scan_bind
  wholeText)

/-- The characters that mean something in an expression. -/
def isMeta (c : Char) : Bool := "\\.+*?()|[]\x7b\x7d^$#&-~".toList.contains c

/-- A character as an expression that stands for it. -/
def escapeChar (c : Char) : List Char := if isMeta c then ['\\', c] else [c]

/-- A text as an expression that stands for it. -/
def escapeText (s : String) : String := String.ofList (s.toList.flatMap escapeChar)

/-- Reads what stands for one character. -/
def scanAtom : Scan Atom :=
  (do
    scanChar '.'
    return .any) <|>
  (do
    scanChar '\\'
    return .literal (← scanAny isMeta)) <|>
  (do return .literal (← scanAny fun c => !isMeta c))

/-- Reads an item. -/
def scanItem : Scan Item :=
  (do
    scanChar '^'
    return .start) <|>
  (do
    scanChar '$'
    return .stop) <|>
  (do
    let a ← scanAtom
    return if (← scanOption (scanChar '*')).isSome then .repeated a else .once a)

/-- The ways to cut a text in two. -/
def cuts (text : List Char) : List (List Char × List Char) :=
  (List.range (text.length + 1)).map fun n => (text.take n, text.drop n)

/-- Whether items can take consecutive pieces from the front of a text. -/
def search : List Item → (before text : List Char) → Bool
  | [], _, _ => true
  | item :: items, before, text =>
      (cuts text).any fun cut =>
        item.takes before cut.1 cut.2 && search items (before ++ cut.1) cut.2

/-- The items of an expression. -/
def compileItems (expression : String) : Except String (List Item) :=
  match wholeText (scanMany scanItem) expression.toList with
  | some items => .ok items
  | none => .error "not an expression of items"

/-- Whether items take consecutive pieces somewhere in a text. -/
def foundIn (items : List Item) (text : String) : Bool :=
  (cuts text.toList).any fun cut => search items cut.1 cut.2

/-- An engine that reads the items of an expression back and tries all pieces. -/
def reference : Engine where
  Compiled := List Item
  compile := compileItems
  isMatch := foundIn
  escape := escapeText

theorem mem_cuts_iff {cut : List Char × List Char} :
    cut ∈ cuts text ↔ text = cut.1 ++ cut.2 := by
  rw [cuts, List.mem_map]
  constructor
  · rintro ⟨n, -, rfl⟩
    exact (List.take_append_drop n text).symm
  · intro h
    refine ⟨cut.1.length, List.mem_range.2 ?_, ?_⟩
    · rw [h, List.length_append]
      omega
    · rw [h, List.take_left, List.drop_left]

theorem search_iff : search items before text = true ↔
    ∃ piece after, text = piece ++ after ∧ InTurn items before piece after := by
  induction items generalizing before text with
  | nil => exact iff_of_true rfl ⟨[], text, rfl, .nil⟩
  | cons item items ih =>
    simp only [search, List.any_eq_true, Bool.and_eq_true, ih]
    constructor
    · rintro ⟨cut, hcut, htakes, pieces, after, hrest, hs⟩
      refine ⟨cut.1 ++ pieces, after, ?_, .cons (hrest ▸ htakes) hs⟩
      rw [mem_cuts_iff.1 hcut, hrest, List.append_assoc]
    · rintro ⟨_, after, rfl, h⟩
      cases h with
      | @cons _ _ _ piece pieces _ htakes hs =>
        exact ⟨(piece, pieces ++ after), mem_cuts_iff.2 (List.append_assoc _ _ _), htakes, pieces,
          after, rfl, hs⟩

/-! ### Reading items back -/

section Scanning

variable {α β : Type} {q q' : Scan α} {f : α → Scan β} {cs : List Char} {x : α × List Char}

theorem scan_or_left (h : q cs = some x) : (q <|> q') cs = some x := by
  change (q cs <|> q' cs) = _
  rw [h]
  rfl

theorem scan_or_right (h : q cs = none) : (q <|> q') cs = q' cs := by
  change (q cs <|> q' cs) = _
  rw [h]
  rfl

theorem scan_bind_none (h : q cs = none) : (q >>= f) cs = none := by
  change (q cs).bind _ = _
  rw [h]
  rfl

theorem scanChar_ne {c d : Char} (h : d ≠ c) (rest : List Char) : scanChar c (d :: rest) = none :=
  if_neg h

end Scanning

theorem ne_of_isMeta {d : Char} (h : isMeta c = false) (hd : isMeta d = true) : c ≠ d := by
  rintro rfl
  rw [h] at hd
  cases hd

theorem escapeText_singleton (c : Char) :
    (escapeText (String.singleton c)).toList = escapeChar c := by
  simp [escapeText]

/-- What is escaped begins with a backslash or a character that means nothing else. -/
theorem exists_escapeChar_eq_cons (c : Char) :
    ∃ d rest, escapeChar c = d :: rest ∧ (d = '\\' ∨ isMeta d = false) := by
  unfold escapeChar
  split
  · exact ⟨_, _, rfl, .inl rfl⟩
  · next h => exact ⟨_, _, rfl, .inr (Bool.eq_false_iff.2 h)⟩

theorem scanAtom_render (a : Atom) (rest : List Char) :
    scanAtom ((a.render escapeText).toList ++ rest) = some (a, rest) := by
  cases a with
  | any => rfl
  | literal c =>
    rw [Atom.render, escapeText_singleton, escapeChar]
    split
    · next h =>
      refine (scan_or_right rfl).trans (scan_or_left ?_)
      refine (scan_bind (scanChar_cons '\\' (c :: rest))).trans ?_
      exact (scan_bind (scanAny_cons h rest)).trans rfl
    · next h =>
      have hmeta : isMeta c = false := Bool.eq_false_iff.2 h
      have hother : (!isMeta c) = true := by rw [hmeta]; rfl
      have hdot : scanChar '.' (c :: rest) = none := scanChar_ne (ne_of_isMeta hmeta rfl) rest
      have hslash : scanChar '\\' (c :: rest) = none := scanChar_ne (ne_of_isMeta hmeta rfl) rest
      refine (scan_or_right (scan_bind_none hdot)).trans ?_
      refine (scan_or_right (scan_bind_none hslash)).trans ?_
      exact (scan_bind (scanAny_cons hother rest)).trans rfl

/-- What stands for a character begins like no mark. -/
theorem Atom.exists_render_eq_cons (a : Atom) : ∃ d rest, (a.render escapeText).toList = d :: rest ∧
    d ≠ '^' ∧ d ≠ '$' ∧ d ≠ '*' := by
  cases a with
  | any => exact ⟨'.', [], rfl, by decide⟩
  | literal c =>
    obtain ⟨d, rest, hrender, hd⟩ := exists_escapeChar_eq_cons c
    refine ⟨d, rest, (escapeText_singleton c).trans hrender, ?_⟩
    rcases hd with rfl | hd
    · decide
    · exact ⟨ne_of_isMeta hd rfl, ne_of_isMeta hd rfl, ne_of_isMeta hd rfl⟩

theorem scanItem_atom (a : Atom) (rest : List Char) :
    scanItem ((a.render escapeText).toList ++ rest) = (do
      return if (← scanOption (scanChar '*')).isSome then .repeated a else .once a : Scan Item) rest := by
  obtain ⟨d, rest', hrender, hstart, hstop, -⟩ := a.exists_render_eq_cons
  have hscan := scanAtom_render a rest
  rw [hrender, List.cons_append] at hscan ⊢
  refine (scan_or_right (scan_bind_none (scanChar_ne hstart _))).trans ?_
  refine (scan_or_right (scan_bind_none (scanChar_ne hstop _))).trans ?_
  exact scan_bind hscan

theorem scanItem_render (item : Item) (hrest : rest.head? ≠ some '*') :
    scanItem ((item.render escapeText).toList ++ rest) = some (item, rest) := by
  cases item with
  | start | stop => rfl
  | once a =>
    rw [Item.render, scanItem_atom]
    cases rest with
    | nil => rfl
    | cons d rest =>
      have hd : d ≠ '*' := fun heq => hrest (congrArg some heq)
      have hnone : scanOption (scanChar '*') (d :: rest) = some (none, d :: rest) := by
        rw [scanOption, scanChar_ne hd]
      exact (scan_bind hnone).trans rfl
  | repeated a =>
    rw [Item.render, String.toList_append, List.append_assoc, scanItem_atom]
    rfl

/-- No item begins with the mark for repetition. -/
theorem Item.exists_render_eq_cons (item : Item) :
    ∃ d rest, (item.render escapeText).toList = d :: rest ∧ d ≠ '*' := by
  cases item with
  | start | stop => exact ⟨_, _, rfl, by decide⟩
  | once a =>
    obtain ⟨d, rest, hrender, -, -, hd⟩ := a.exists_render_eq_cons
    exact ⟨d, rest, hrender, hd⟩
  | repeated a =>
    obtain ⟨d, rest, hrender, -, -, hd⟩ := a.exists_render_eq_cons
    exact ⟨d, rest ++ ['*'], by rw [Item.render, String.toList_append, hrender]; rfl, hd⟩

theorem head?_join_render (items : List Item) :
    (String.join (items.map (Item.render escapeText))).toList.head? ≠ some '*' := by
  cases items with
  | nil => exact fun h => nomatch h
  | cons item items =>
    obtain ⟨d, rest, hrender, hd⟩ := item.exists_render_eq_cons
    rw [List.map_cons, String.join_cons, String.toList_append, hrender]
    exact fun h => hd (Option.some.inj h)

theorem length_le_length_join_render (items : List Item) :
    items.length ≤ (String.join (items.map (Item.render escapeText))).toList.length := by
  induction items with
  | nil => exact Nat.zero_le _
  | cons item items ih =>
    obtain ⟨d, rest, hrender, -⟩ := item.exists_render_eq_cons
    rw [List.map_cons, String.join_cons, String.toList_append, hrender, List.length_append,
      List.length_cons, List.length_cons]
    omega

theorem scanTimes_render {n : Nat} (h : items.length ≤ n) :
    scanTimes scanItem n (String.join (items.map (Item.render escapeText))).toList =
      some (items, []) := by
  induction items generalizing n with
  | nil =>
    cases n with
    | zero | succ => rfl
  | cons item items ih =>
    cases n with
    | zero => cases h
    | succ n =>
      have hitem := scanItem_render item (head?_join_render items)
      rw [List.map_cons, String.join_cons, String.toList_append]
      simp only [scanTimes, hitem, ih (Nat.le_of_succ_le_succ h), Option.map_some]

/-- The items that were written are read back. -/
theorem compileItems_render (items : List Item) :
    compileItems (String.join (items.map (Item.render escapeText))) = .ok items := by
  rw [compileItems, wholeText, scanMany, scanTimes_render (length_le_length_join_render items)]

theorem foundIn_iff {text : String} : foundIn items text = true ↔ Found items text.toList := by
  simp only [foundIn, List.any_eq_true, mem_cuts_iff, search_iff, Found]
  constructor
  · rintro ⟨cut, hcut, piece, after, hrest, h⟩
    exact ⟨cut.1, piece, after, hcut.trans (congrArg _ hrest), h⟩
  · rintro ⟨before, piece, after, htext, h⟩
    exact ⟨(before, piece ++ after), htext, piece, after, rfl, h⟩

theorem documented_reference : reference.Documented := by
  constructor
  intro items expression h text
  obtain rfl : items = expression := Except.ok.inj ((compileItems_render items).symm.trans h)
  exact foundIn_iff

end ChassisAdmin.Store
