import ChassisAdmin.Proofs.Text.Trimmed
import ChassisAdmin.StatusTable
import Mathlib.Algebra.GroupWithZero.Nat
import Mathlib.Data.List.Forall2

/-!
# The layout of the status table

The width of a column is counted in bytes, and cells are filled up to it by
counting characters.  A text has no more characters than bytes, so a filled cell
has as many characters as its column is wide, whatever it holds
(`length_toList_filled`).  Hence a column begins at one position in all lines and
no cell reaches into the next column.  What is taken off the end of a line is
only what the last cell was filled up with (`toList_line`), because no cell of
the last column ends in a blank.

`table_of_noFeed` says so of the whole table.  Its second line has a dash at a
position exactly if the position belongs to a column.  So the columns can be read
off that line, and then the cells off every other.
-/

namespace ChassisAdmin.StatusTable

variable {ws : List Nat} {row : List String} {rows : List (List String)} {cell : String}
  {line' : List Char} {column position start stop w : Nat}

/-! ## Columns -/

/-- Where a column begins: two characters after the end of the one before. -/
def columnStart (ws : List Nat) (column : Nat) : Nat := ((ws.take column).map (· + 2)).sum

/-- The width of a column is the greatest size in bytes that a cell in it has. -/
structure IsWidth (rows : List (List String)) (column w : Nat) : Prop where
  attained : ∃ row ∈ rows, ∃ cell, row[column]? = some cell ∧ cell.utf8ByteSize = w
  bound : ∀ row ∈ rows, ∀ cell, row[column]? = some cell → cell.utf8ByteSize ≤ w

/-- A cell stands in a line from one position on, with nothing but spaces after it up to another. -/
def StandsAt (line : List Char) (cell : String) (start stop : Nat) : Prop :=
  ∃ before spaces after, line = before ++ (cell.toList ++ spaces) ++ after ∧
    before.length = start ∧ start + (cell.toList ++ spaces).length = stop ∧ ∀ c ∈ spaces, c = ' '

/-- Where the room of a cell ends: at the next column, or at the end of the line. -/
def columnEnd (ws : List Nat) (line : List Char) (column : Nat) : Nat :=
  if column + 1 < ws.length then columnStart ws (column + 1) else line.length

/-- The cells of a row stand in a line, each in its column, and the line ends in no blank. -/
structure Aligned (ws : List Nat) (row : List String) (line : List Char) : Prop where
  stands : ∀ column cell, row[column]? = some cell →
    StandsAt line cell (columnStart ws column) (columnEnd ws line column)
  ended : ∃ c, line.getLast? = some c ∧ Text.isBlank c = false

theorem columnStart_cons_succ (w : Nat) (ws : List Nat) (column : Nat) :
    columnStart (w :: ws) (column + 1) = w + 2 + columnStart ws column := by
  rw [columnStart, List.take_succ_cons, List.map_cons, List.sum_cons, columnStart]

/-- Every position belongs to a column or to the spaces after it. -/
theorem exists_column (hws : ws ≠ []) (position : Nat) :
    ∃ column < ws.length, columnStart ws column ≤ position ∧
      (column + 1 < ws.length → position < columnStart ws (column + 1)) := by
  induction ws generalizing position with
  | nil => exact absurd rfl hws
  | cons w ws ih =>
    by_cases hfirst : position < w + 2 ∨ ws = []
    · refine ⟨0, Nat.zero_lt_succ _, Nat.zero_le _, fun hlt => ?_⟩
      rw [columnStart_cons_succ]
      rcases hfirst with hfirst | rfl
      · exact hfirst
      · exact absurd hlt (Nat.lt_irrefl _)
    · obtain ⟨hlt, hne⟩ := not_or.1 hfirst
      obtain ⟨column, hcolumn, hle, hnext⟩ := ih hne (position - (w + 2))
      refine ⟨column + 1, Nat.succ_lt_succ hcolumn, ?_, fun hlast => ?_⟩
      · rw [columnStart_cons_succ]
        omega
      · have := hnext (Nat.lt_of_succ_lt_succ hlast)
        rw [columnStart_cons_succ]
        omega

/-! ## Widths -/

/-- A row of cells, one for each heading. -/
def Full (row : List String) : Prop := row.length = headings.length

/-- Widening by the cells of one more row keeps the widths of all rows. -/
theorem isWidth_widen (hws : ∀ column w, ws[column]? = some w → IsWidth rows column w)
    (h : (widen ws row)[column]? = some w) : IsWidth (rows ++ [row]) column w := by
  obtain ⟨w₀, cell, hw₀, hcell, rfl⟩ := List.getElem?_zipWith_eq_some.1 h
  obtain ⟨⟨row₀, hrow₀, cell₀, hcell₀, hsize⟩, hbound⟩ := hws column w₀ hw₀
  constructor
  · rcases Nat.le_total w₀ cell.utf8ByteSize with hle | hle
    · exact ⟨row, List.mem_append_right _ (List.mem_singleton_self row), cell, hcell,
        (Nat.max_eq_right hle).symm⟩
    · refine ⟨row₀, List.mem_append_left _ hrow₀, cell₀, hcell₀, ?_⟩
      rw [Nat.max_eq_left hle, hsize]
  · intro row' hrow' cell' hcell'
    rcases List.mem_append.1 hrow' with hrow' | hrow'
    · exact Nat.le_trans (hbound row' hrow' cell' hcell') (Nat.le_max_left _ _)
    · rw [List.mem_singleton.1 hrow', hcell] at hcell'
      cases hcell'
      exact Nat.le_max_right _ _

theorem isWidth_foldl_widen {more : List (List String)}
    (hws : ∀ column w, ws[column]? = some w → IsWidth rows column w)
    (h : (more.foldl widen ws)[column]? = some w) : IsWidth (rows ++ more) column w := by
  induction more generalizing rows ws with
  | nil => rw [List.append_nil]; exact hws column w h
  | cons row more ih =>
    have hwidened := ih (fun _ _ => isWidth_widen hws) h
    rwa [List.append_assoc] at hwidened

theorem isWidth_of_widths (h : (widths rows)[column]? = some w) :
    IsWidth (headings :: rows) column w := by
  have hfirst : ∀ column w, (headings.map String.utf8ByteSize)[column]? = some w →
      IsWidth [headings] column w := by
    intro column w hw
    rw [List.getElem?_map, Option.map_eq_some_iff] at hw
    obtain ⟨cell, hcell, rfl⟩ := hw
    refine ⟨⟨headings, List.mem_singleton_self _, cell, hcell, rfl⟩, fun row hrow cell' hcell' => ?_⟩
    rw [List.mem_singleton.1 hrow, hcell] at hcell'
    cases hcell'
    exact Nat.le_refl _
  exact isWidth_foldl_widen hfirst h

theorem length_widths (h : ∀ row ∈ rows, Full row) : (widths rows).length = headings.length := by
  have hfold (ws : List Nat) (hws : ws.length = headings.length) :
      (rows.foldl widen ws).length = headings.length := by
    induction rows generalizing ws with
    | nil => exact hws
    | cons row rows ih =>
      obtain ⟨hrow, hrows⟩ := List.forall_mem_cons.1 h
      refine ih hrows _ ?_
      rw [widen, List.length_zipWith, hws, show row.length = _ from hrow, Nat.min_self]
  exact hfold _ (List.length_map _)

/-! ## Lines -/

theorem length_toList_le_utf8ByteSize (s : String) : s.toList.length ≤ s.utf8ByteSize := by
  obtain ⟨cs, rfl⟩ : ∃ cs, s = String.ofList cs := ⟨s.toList, String.ofList_toList.symm⟩
  rw [String.toList_ofList]
  induction cs with
  | nil => exact Nat.zero_le _
  | cons c cs ih =>
    rw [String.ofList_cons, String.utf8ByteSize_append, String.utf8ByteSize_singleton,
      List.length_cons]
    have hc := c.utf8Size_pos
    omega

/-- The spaces that a cell is filled up with. -/
def filling (w : Nat) (cell : String) : List Char := List.replicate (w - cell.length) ' '

theorem toList_filled (w : Nat) (cell : String) :
    (filled w cell).toList = cell.toList ++ filling w cell := by
  rw [filled, String.toList_append, String.toList_ofList, filling]

theorem length_toList_filled (h : cell.utf8ByteSize ≤ w) : (filled w cell).toList.length = w := by
  have hlength := Nat.le_trans (length_toList_le_utf8ByteSize cell) h
  rw [toList_filled, filling, List.length_append, List.length_replicate, ← String.length_toList]
  omega

/-- What stands before a cell: the cells before it, filled up, and the spaces between columns. -/
def cellsBefore (cols : List (String × Nat)) : List Char :=
  cols.flatMap fun col => (filled col.2 col.1).toList ++ "  ".toList

theorem length_cellsBefore {cols : List (String × Nat)}
    (h : ∀ col ∈ cols, col.1.utf8ByteSize ≤ col.2) :
    (cellsBefore cols).length = ((cols.map (·.2)).map (· + 2)).sum := by
  induction cols with
  | nil => rfl
  | cons col cols ih =>
    obtain ⟨hcol, hcols⟩ := List.forall_mem_cons.1 h
    rw [cellsBefore, List.flatMap_cons, List.length_append, List.length_append,
      length_toList_filled hcol, ← cellsBefore, ih hcols, List.map_cons, List.map_cons,
      List.sum_cons]
    rfl

/-- The last column is not filled up, and otherwise nothing is taken off a line. -/
theorem toList_line {front : List String} {ws : List Nat} (hlength : front.length = ws.length)
    {last : String} {c : Char} (hc : last.toList.getLast? = some c)
    (hblank : Text.isBlank c = false) (w : Nat) :
    (line (ws ++ [w]) (front ++ [last])).toList =
      cellsBefore (front.zip ws) ++ last.toList := by
  have hspaces : Text.Blank (filling w last) := fun c hc => by
    rw [List.eq_of_mem_replicate hc]
    rfl
  have hbefore : (front.zipWith (fun cell w => filled w cell) ws).flatMap
      (fun s => s.toList ++ "  ".toList) = cellsBefore (front.zip ws) := by
    have hzip : front.zipWith (fun cell w => filled w cell) ws =
        (front.zip ws).map fun col => filled col.2 col.1 :=
      (List.map_zip_eq_zipWith (f := fun col : String × Nat => filled col.2 col.1)).symm
    rw [hzip, List.flatMap_map, cellsBefore]
  rw [line, Text.trimmedEnd, String.toList_ofList, List.zipWith_append hlength,
    List.zipWith_cons_cons, List.zipWith_nil_left, Text.toList_joined_append_cons, hbefore,
    List.flatMap_nil, List.append_nil, toList_filled, ← List.append_assoc]
  refine Text.trimEnd_append hspaces fun d hd => ?_
  rw [List.getLast?_append, hc, Option.some_or] at hd
  cases hd
  exact hblank

/-- The last cell of a row ends in a character that is no blank. -/
def Closed (row : List String) : Prop :=
  ∃ cell c, row.getLast? = some cell ∧ cell.toList.getLast? = some c ∧ Text.isBlank c = false

/-- The cells of a row fit the columns. -/
def Fits (ws : List Nat) (row : List String) : Prop :=
  ∀ (column : Nat) (cell : String) (w : Nat), row[column]? = some cell → ws[column]? = some w →
    cell.utf8ByteSize ≤ w

/-- What stands before a cell is as long as the columns before its own. -/
theorem length_cellsBefore_take {front : List String} (hlength : front.length = ws.length)
    (hfits : Fits ws front) (column : Nat) :
    (cellsBefore ((front.zip ws).take column)).length = columnStart ws column := by
  have hcols : ∀ col ∈ (front.zip ws).take column, col.1.utf8ByteSize ≤ col.2 := by
    rintro ⟨cell, w⟩ hcol
    obtain ⟨i, hi⟩ := List.getElem?_of_mem (List.mem_of_mem_take hcol)
    obtain ⟨hcell, hw⟩ := List.getElem?_zip_eq_some.1 hi
    exact hfits i cell w hcell hw
  rw [length_cellsBefore hcols, List.map_take, List.map_snd_zip (Nat.le_of_eq hlength.symm),
    columnStart]

/-- A cell before the last stands at the start of its column. -/
theorem standsAt_of_getElem? {front : List String} {rest : List Char}
    (hlength : front.length = ws.length) (hfits : Fits ws front)
    (hcell : front[column]? = some cell) :
    StandsAt (cellsBefore (front.zip ws) ++ rest) cell (columnStart ws column)
      (columnStart ws (column + 1)) := by
  obtain ⟨w, hw⟩ : ∃ w, ws[column]? = some w := by
    obtain ⟨hlt, -⟩ := List.getElem?_eq_some_iff.1 hcell
    exact ⟨_, List.getElem?_eq_getElem (hlength ▸ hlt)⟩
  have hcol : (front.zip ws)[column]? = some (cell, w) :=
    List.getElem?_zip_eq_some.2 ⟨hcell, hw⟩
  obtain ⟨hlt, hget⟩ := List.getElem?_eq_some_iff.1 hcol
  have htake : (front.zip ws).take (column + 1) = (front.zip ws).take column ++ [(cell, w)] := by
    rw [List.take_add_one, hcol]
    rfl
  have hblock : cellsBefore [(cell, w)] = cell.toList ++ (filling w cell ++ "  ".toList) := by
    rw [cellsBefore, List.flatMap_singleton, toList_filled, List.append_assoc]
  have hsplit : cellsBefore (front.zip ws) = cellsBefore ((front.zip ws).take column) ++
      cellsBefore [(cell, w)] ++ cellsBefore ((front.zip ws).drop (column + 1)) := by
    simp only [cellsBefore, ← List.flatMap_append]
    rw [← htake, List.take_append_drop]
  refine ⟨cellsBefore ((front.zip ws).take column), filling w cell ++ "  ".toList,
    cellsBefore ((front.zip ws).drop (column + 1)) ++ rest, ?_, ?_, ?_, ?_⟩
  · rw [hsplit, hblock]
    simp only [List.append_assoc]
  · exact length_cellsBefore_take hlength hfits column
  · rw [← hblock, ← length_cellsBefore_take hlength hfits column,
      ← length_cellsBefore_take hlength hfits (column + 1), htake]
    simp only [cellsBefore, List.flatMap_append, List.length_append]
  · intro c hc
    rcases List.mem_append.1 hc with hc | hc
    · exact List.eq_of_mem_replicate hc
    · simpa using hc

theorem aligned_line (hlength : row.length = ws.length) (hfits : Fits ws row)
    (hclosed : Closed row) : Aligned ws row (line ws row).toList := by
  obtain ⟨last, c, hlast, hc, hblank⟩ := hclosed
  obtain ⟨front, rfl⟩ := List.getLast?_eq_some_iff.1 hlast
  obtain ⟨ws, w, rfl⟩ : ∃ ws' w, ws = ws' ++ [w] := by
    have hne : ws ≠ [] := by
      rintro rfl
      simp at hlength
    exact ⟨_, _, (List.dropLast_append_getLast hne).symm⟩
  have hfront : front.length = ws.length := by simpa using hlength
  have hfitsFront : Fits ws front := by
    intro column cell w' hcell hw
    refine hfits column cell w' ?_ ?_
    · rw [List.getElem?_append_left (List.getElem?_eq_some_iff.1 hcell).1, hcell]
    · rw [List.getElem?_append_left (List.getElem?_eq_some_iff.1 hw).1, hw]
  have hstart {column : Nat} (h : column ≤ ws.length) :
      columnStart (ws ++ [w]) column = columnStart ws column := by
    rw [columnStart, List.take_append_of_le_length h, columnStart]
  have hall : columnStart ws ws.length = (cellsBefore (front.zip ws)).length := by
    rw [← length_cellsBefore_take hfront hfitsFront, List.take_of_length_le]
    rw [List.length_zip, hfront, Nat.min_self]
  rw [toList_line hfront hc hblank]
  refine ⟨fun column cell hcell => ?_, c, ?_, hblank⟩
  · unfold columnEnd
    split
    · next hcolumn =>
      have hlt : column < ws.length := by simpa using hcolumn
      rw [List.getElem?_append_left (hfront ▸ hlt)] at hcell
      rw [hstart (Nat.le_of_lt hlt), hstart hlt]
      exact standsAt_of_getElem? hfront hfitsFront hcell
    · next hcolumn =>
      obtain ⟨hlt, -⟩ := List.getElem?_eq_some_iff.1 hcell
      obtain rfl : column = front.length := by
        rw [List.length_append, List.length_singleton] at hcolumn hlt
        omega
      rw [List.getElem?_concat_length] at hcell
      cases hcell
      refine ⟨cellsBefore (front.zip ws), [], [], by simp, ?_, ?_, fun _ h => nomatch h⟩
      · rw [hfront, hstart le_rfl, hall]
      · rw [hfront, hstart le_rfl, hall, List.append_nil, List.length_append]
  · rw [List.getLast?_append, hc, Option.some_or]

example : line [6, 2, 4] ["DÜ0", "up", "True"] = "DÜ0     up  True" := by rfl

/-- A line holds nothing but its cells and spaces. -/
theorem eq_space_or_mem_cell {c : Char} (h : c ∈ (line ws row).toList) :
    c = ' ' ∨ ∃ cell ∈ row, c ∈ cell.toList := by
  rw [line, Text.trimmedEnd, String.toList_ofList] at h
  rcases Text.mem_or_exists_mem_of_mem_joined (Text.trimEnd_subset _ h) with h | ⟨s, hs, h⟩
  · exact .inl (by simpa using h)
  · obtain ⟨i, hi⟩ := List.getElem?_of_mem hs
    obtain ⟨cell, w, hcell, -, rfl⟩ := List.getElem?_zipWith_eq_some.1 hi
    rw [toList_filled] at h
    rcases List.mem_append.1 h with h | h
    · exact .inr ⟨cell, List.mem_of_getElem? hcell, h⟩
    · exact .inl (List.eq_of_mem_replicate h)

/-! ## The line of dashes -/

theorem utf8ByteSize_dashes (w : Nat) : (dashes w).utf8ByteSize = w := by
  induction w with
  | zero => rfl
  | succ w ih =>
    rw [dashes, List.replicate_succ, String.ofList_cons, String.utf8ByteSize_append, ← dashes, ih,
      String.utf8ByteSize_singleton]
    exact Nat.add_comm 1 w

/-- At a position in the room of a cell stands a character of the cell or a space. -/
theorem StandsAt.getElem? (h : StandsAt line' cell start stop) (hstart : start ≤ position)
    (hstop : position < stop) :
    line'[position]? = some (cell.toList[position - start]?.getD ' ') := by
  obtain ⟨before, spaces, after, rfl, rfl, rfl, hspaces⟩ := h
  rw [List.append_assoc, List.getElem?_append_right hstart, List.getElem?_append_left (by omega)]
  by_cases hcell : position - before.length < cell.toList.length
  · rw [List.getElem?_append_left hcell, List.getElem?_eq_getElem hcell, Option.getD_some]
  · have hspace : position - before.length - cell.toList.length < spaces.length := by
      rw [List.length_append] at hstop
      omega
    rw [List.getElem?_append_right (Nat.le_of_not_lt hcell), List.getElem?_eq_getElem hspace,
      List.getElem?_eq_none (Nat.le_of_not_lt hcell), hspaces _ (List.getElem_mem hspace)]
    rfl

theorem StandsAt.add_length_le (h : StandsAt line' cell start stop) :
    start + cell.toList.length ≤ stop := by
  obtain ⟨-, spaces, -, -, -, rfl, -⟩ := h
  rw [List.length_append]
  omega

/-- The line of dashes has a dash at a position exactly if the position belongs to a column. -/
theorem Aligned.dash_iff (h : Aligned ws (ws.map dashes) line') (hws : ws ≠ []) :
    line'[position]? = some '-' ↔ ∃ column w, ws[column]? = some w ∧
      columnStart ws column ≤ position ∧ position < columnStart ws column + w := by
  have hcell {column w : Nat} (hw : ws[column]? = some w) :
      StandsAt line' (dashes w) (columnStart ws column) (columnEnd ws line' column) :=
    h.stands column _ (by rw [List.getElem?_map, hw]; rfl)
  have hdash (w i : Nat) : (dashes w).toList[i]?.getD ' ' = '-' ↔ i < w := by
    rw [dashes, String.toList_ofList]
    by_cases hi : i < w <;> simp [hi]
  constructor
  · intro hposition
    obtain ⟨column, hcolumn, hle, hnext⟩ := exists_column hws position
    have hw := List.getElem?_eq_getElem hcolumn
    have hlt : position < columnEnd ws line' column := by
      unfold columnEnd
      split
      · next hlt => exact hnext hlt
      · exact (List.getElem?_eq_some_iff.1 hposition).1
    rw [(hcell hw).getElem? hle hlt, Option.some_inj, hdash] at hposition
    exact ⟨column, _, hw, hle, by omega⟩
  · rintro ⟨column, w, hw, hle, hlt⟩
    have hroom := (hcell hw).add_length_le
    rw [dashes, String.toList_ofList, List.length_replicate] at hroom
    rw [(hcell hw).getElem? hle (by omega), Option.some_inj, hdash]
    omega

/-! ## The table -/

/-- The widths of the columns of a table. -/
def tableWidths (statuses : List (String × TransitionState)) : List Nat :=
  widths (statuses.map cells)

/-- The texts of the cells in all lines of a table. -/
def tableRows (statuses : List (String × TransitionState)) : List (List String) :=
  headings :: (tableWidths statuses).map dashes :: statuses.map cells

/-- The lines of a table whose columns have these widths. -/
structure Table (statuses : List (String × TransitionState)) (ws : List Nat)
    (lines : List (List Char)) : Prop where
  length : lines.length = statuses.length + 2
  columns : ws.length = headings.length
  widths : ∀ column w, ws[column]? = some w → IsWidth (headings :: statuses.map cells) column w
  aligned : List.Forall₂ (Aligned ws) (headings :: ws.map dashes :: statuses.map cells) lines
  marked : ∃ marks, lines[1]? = some marks ∧ ∀ position, marks[position]? = some '-' ↔
    ∃ column w, ws[column]? = some w ∧
      columnStart ws column ≤ position ∧ position < columnStart ws column + w

variable {statuses : List (String × TransitionState)}

theorem length_tableWidths (statuses : List (String × TransitionState)) :
    (tableWidths statuses).length = headings.length := by
  refine length_widths fun row hrow => ?_
  obtain ⟨x, -, rfl⟩ := List.mem_map.1 hrow
  rfl

theorem tableWidths_ne_nil (statuses : List (String × TransitionState)) :
    tableWidths statuses ≠ [] := by
  refine List.ne_nil_of_length_pos ?_
  rw [length_tableWidths]
  exact Nat.zero_lt_succ _

theorem isWidth_of_tableWidths (h : (tableWidths statuses)[column]? = some w) :
    IsWidth (headings :: statuses.map cells) column w := isWidth_of_widths h

/-- A column is at least as wide as its heading. -/
theorem pos_of_mem_tableWidths (h : w ∈ tableWidths statuses) : 0 < w := by
  obtain ⟨column, hw⟩ := List.getElem?_of_mem h
  have hheadings : ∀ heading ∈ headings, 0 < heading.utf8ByteSize := by decide
  have hlt : column < headings.length := by
    rw [← length_tableWidths statuses]
    exact (List.getElem?_eq_some_iff.1 hw).1
  refine Nat.lt_of_lt_of_le (hheadings _ (List.getElem_mem hlt)) ?_
  exact (isWidth_of_tableWidths hw).bound headings List.mem_cons_self _
    (List.getElem?_eq_getElem hlt)

theorem length_of_mem_tableRows (h : row ∈ tableRows statuses) :
    row.length = (tableWidths statuses).length := by
  rcases List.mem_cons.1 h with rfl | h
  · exact (length_tableWidths statuses).symm
  rcases List.mem_cons.1 h with rfl | h
  · exact List.length_map _
  · obtain ⟨x, -, rfl⟩ := List.mem_map.1 h
    exact (length_tableWidths statuses).symm

theorem fits_of_mem_tableRows (h : row ∈ tableRows statuses) : Fits (tableWidths statuses) row := by
  intro column cell w hcell hw
  have hbound := (isWidth_of_tableWidths hw).bound
  rcases List.mem_cons.1 h with rfl | h
  · exact hbound _ List.mem_cons_self cell hcell
  rcases List.mem_cons.1 h with rfl | h
  · rw [List.getElem?_map, hw] at hcell
    cases hcell
    exact Nat.le_of_eq (utf8ByteSize_dashes w)
  · exact hbound _ (List.mem_cons_of_mem _ h) cell hcell

theorem closed_of_mem_tableRows (h : row ∈ tableRows statuses) : Closed row := by
  rcases List.mem_cons.1 h with rfl | h
  · exact ⟨"Timed-Out", 't', rfl, rfl, rfl⟩
  rcases List.mem_cons.1 h with rfl | h
  · have hlast := List.getLast?_eq_some_getLast (tableWidths_ne_nil statuses)
    have hpos := pos_of_mem_tableWidths (List.mem_of_getLast? hlast)
    refine ⟨_, '-', by rw [List.getLast?_map, hlast, Option.map_some], ?_, rfl⟩
    rw [dashes, String.toList_ofList, List.getLast?_replicate, if_neg (Nat.ne_of_gt hpos)]
  · obtain ⟨⟨name, state⟩, -, rfl⟩ := List.mem_map.1 h
    refine ⟨flagText state.timedOut, 'e', rfl, ?_, rfl⟩
    cases state.timedOut <;> rfl

/-- A name and a start time without line feeds. -/
def NoFeed (status : String × TransitionState) : Prop :=
  '\n' ∉ status.1.toList ∧ ∀ start ∈ status.2.startTime, '\n' ∉ start.toList

theorem noFeed_of_mem_tableRows (hstatuses : ∀ x ∈ statuses, NoFeed x)
    (h : row ∈ tableRows statuses) : ∀ cell ∈ row, '\n' ∉ cell.toList := by
  rcases List.mem_cons.1 h with rfl | h
  · decide
  rcases List.mem_cons.1 h with rfl | h
  · intro cell hcell hfeed
    obtain ⟨w, -, rfl⟩ := List.mem_map.1 hcell
    rw [dashes, String.toList_ofList] at hfeed
    cases List.eq_of_mem_replicate hfeed
  · obtain ⟨⟨name, state⟩, hx, rfl⟩ := List.mem_map.1 h
    obtain ⟨hname, hstart⟩ := hstatuses _ hx
    have hflag (b : Bool) : '\n' ∉ (flagText b).toList := by cases b <;> decide
    have hadmin (s : AdminStatus) : '\n' ∉ s.text.toList := by cases s <;> decide
    have htime : '\n' ∉ (state.startTime.getD "N/A").toList := by
      cases htime : state.startTime with
      | none => decide
      | some start => exact hstart start htime
    simp only [cells, List.forall_mem_cons]
    exact ⟨hname, hadmin _, hflag _, htime, hflag _, List.forall_mem_nil _⟩

theorem lines_eq (statuses : List (String × TransitionState)) :
    lines statuses = (tableRows statuses).map (line (tableWidths statuses)) := by
  rw [lines, tableRows, List.map_cons, List.map_cons, tableWidths]

/-- The lines of a table are got back from its text. -/
theorem pieces_render (hstatuses : ∀ x ∈ statuses, NoFeed x) :
    Text.pieces '\n' (render statuses).toList =
      (tableRows statuses).map fun row => (line (tableWidths statuses) row).toList := by
  have hlines : ∀ s ∈ lines statuses, '\n' ∉ s.toList := by
    intro s hs hfeed
    rw [lines_eq] at hs
    obtain ⟨row, hrow, rfl⟩ := List.mem_map.1 hs
    rcases eq_space_or_mem_cell hfeed with h | ⟨cell, hcell, h⟩
    · cases h
    · exact noFeed_of_mem_tableRows hstatuses hrow cell hcell h
  have hrender : render statuses = Text.joined (String.singleton '\n') (lines statuses) := rfl
  have hne : lines statuses ≠ [] := List.cons_ne_nil _ _
  rw [hrender, Text.pieces_joined hne hlines, lines_eq, List.map_map]
  rfl

theorem aligned_of_mem_tableRows (h : row ∈ tableRows statuses) :
    Aligned (tableWidths statuses) row (line (tableWidths statuses) row).toList :=
  aligned_line (length_of_mem_tableRows h) (fits_of_mem_tableRows h) (closed_of_mem_tableRows h)

/-- The table has two lines and one for each module.  In all of them every cell stands whole at the
start of its column, which is as wide as its longest cell has bytes, and only spaces follow it up to
the next.  The second line marks the columns. -/
theorem table_of_noFeed (hstatuses : ∀ x ∈ statuses, NoFeed x) :
    Table statuses (tableWidths statuses) (Text.pieces '\n' (render statuses).toList) := by
  rw [pieces_render hstatuses]
  constructor
  case length => rw [List.length_map, tableRows, List.length_cons, List.length_cons, List.length_map]
  case columns => exact length_tableWidths statuses
  case widths => exact fun column w => isWidth_of_tableWidths
  case aligned =>
    rw [List.forall₂_map_right_iff, ← tableRows, List.forall₂_same]
    exact fun row => aligned_of_mem_tableRows
  case marked =>
    refine ⟨_, rfl, fun position => ?_⟩
    refine Aligned.dash_iff ?_ (tableWidths_ne_nil statuses)
    exact aligned_of_mem_tableRows (List.mem_cons_of_mem _ List.mem_cons_self)

/-- A module with letters of two bytes in its name, and one whose name is empty. -/
def twoModules : List (String × TransitionState) :=
  [("DPÜ-ÄÖ", ⟨.up, true, some "2025-01-01T12:00:00.000000", false⟩),
    ("", ⟨.down, false, none, false⟩)]

theorem table_of_noFeed_twoModules :
    (∀ x ∈ twoModules, NoFeed x) ∧ tableWidths twoModules = [9, 12, 13, 26, 9] ∧
      Table twoModules [9, 12, 13, 26, 9] (Text.pieces '\n' (render twoModules).toList) := by
  have hmodules : ∀ x ∈ twoModules, NoFeed x := by
    simp only [twoModules, NoFeed, List.forall_mem_cons, Option.mem_def]
    exact ⟨⟨by decide, fun _ h => by cases h; decide⟩, ⟨by decide, fun _ h => nomatch h⟩,
      List.forall_mem_nil _⟩
  have hwidths : tableWidths twoModules = [9, 12, 13, 26, 9] := by decide
  exact ⟨hmodules, hwidths, hwidths ▸ table_of_noFeed hmodules⟩

end ChassisAdmin.StatusTable
