import ChassisAdmin.Text.Blank
import ChassisAdmin.Text.Split

/-!
# Lines that were written

A text that begins with a line and its line feed has that line as its first
(`lines_append`).  A carriage return at the end of the line is lost, but a line
that is trimmed has none there (`dropReturn_of_trim`), and one within the line
stays.

What is added at the end of a text does not change the lines that a line feed
ends.  It goes on with what stands after the last of them (`lines_append_eq`).

Texts that were joined with a separator none of them holds are got back as the
pieces between the separators (`pieces_joined`).
-/

namespace ChassisAdmin.Text

variable {sep : Char} {l rest cs last : List Char} {front : List (List Char)}

theorem pieces_append (h : sep ∉ l) : pieces sep (l ++ sep :: rest) = l :: pieces sep rest := by
  induction l with
  | nil => rw [List.nil_append, pieces, if_pos rfl]
  | cons c l ih =>
    obtain ⟨hc, hl⟩ := List.ne_and_not_mem_of_not_mem_cons h
    rw [List.cons_append, pieces, if_neg hc.symm, ih hl]

theorem lines_append (h : '\n' ∉ l) : lines (l ++ '\n' :: rest) = dropReturn l :: lines rest := by
  rw [lines, pieces_append h, lines]
  cases hp : pieces '\n' rest with
  | nil => exact absurd hp (pieces_ne_nil '\n' rest)
  | cons p ps => rfl

/-! ## Adding to a text -/

theorem exists_pieces_eq_concat (sep : Char) (cs : List Char) :
    ∃ front last, pieces sep cs = front ++ [last] := by
  obtain h | h := List.eq_nil_or_concat (pieces sep cs)
  · exact absurd h (pieces_ne_nil sep cs)
  · simpa using h

theorem pieces_cons_of_ne {c : Char} (hc : c ≠ sep) {p : List Char} {ps : List (List Char)}
    (h : pieces sep cs = p :: ps) : pieces sep (c :: cs) = (c :: p) :: ps := by
  rw [pieces, if_neg hc, h]

/-- What is added to a text goes on where the last piece of the text ends. -/
theorem pieces_append_of_eq (h : pieces sep cs = front ++ [last]) (rest : List Char) :
    pieces sep (cs ++ rest) = front ++ pieces sep (last ++ rest) := by
  induction cs generalizing front last with
  | nil =>
    obtain ⟨rfl, rfl⟩ : front = [] ∧ last = [] := by
      simpa [pieces, List.cons_eq_append_iff] using h
    rfl
  | cons c cs ih =>
    obtain ⟨front', last', hcs⟩ := exists_pieces_eq_concat sep cs
    have hrest := ih hcs
    by_cases hc : c = sep
    · have hpieces : front ++ [last] = ([] :: front') ++ [last'] := by
        rw [← h, pieces, if_pos hc, hcs, List.cons_append]
      obtain ⟨rfl, ⟨⟩⟩ := List.append_inj' hpieces rfl
      rw [List.cons_append, pieces, if_pos hc, hrest, List.cons_append]
    · cases front' with
      | nil =>
        -- The first piece is the last as well, so the text that is added goes on with it.
        obtain ⟨p, ps, hp⟩ := List.exists_cons_of_ne_nil (pieces_ne_nil sep (last' ++ rest))
        have hpieces : front ++ [last] = [] ++ [c :: last'] := by
          rw [← h, pieces_cons_of_ne hc hcs, List.nil_append]
        obtain ⟨rfl, ⟨⟩⟩ := List.append_inj' hpieces rfl
        rw [List.cons_append, List.nil_append, List.cons_append,
          pieces_cons_of_ne hc (hrest.trans hp), pieces_cons_of_ne hc hp]
      | cons p front' =>
        have hpieces : front ++ [last] = ((c :: p) :: front') ++ [last'] := by
          rw [← h, pieces_cons_of_ne hc hcs]
          rfl
        obtain ⟨rfl, ⟨⟩⟩ := List.append_inj' hpieces rfl
        rw [List.cons_append, pieces_cons_of_ne hc hrest]
        rfl

theorem not_mem_of_mem_pieces (h : l ∈ pieces sep cs) : sep ∉ l := by
  induction cs generalizing l with
  | nil =>
    rw [List.mem_singleton.1 h]
    exact List.not_mem_nil
  | cons c cs ih =>
    obtain ⟨p, ps, hp⟩ := List.exists_cons_of_ne_nil (pieces_ne_nil sep cs)
    by_cases hc : c = sep
    · rw [pieces, if_pos hc] at h
      obtain rfl | h := List.mem_cons.1 h
      · exact List.not_mem_nil
      · exact ih h
    · rw [pieces_cons_of_ne hc hp] at h
      obtain rfl | h := List.mem_cons.1 h
      · exact List.not_mem_cons_of_ne_of_not_mem (Ne.symm hc) (ih (hp ▸ List.mem_cons_self))
      · exact ih (hp ▸ List.mem_cons_of_mem p h)

/-- The lines of a text that a line feed ends. -/
def endedLines (cs : List Char) : List (List Char) := (pieces '\n' cs).dropLast.map dropReturn

/-- What stands after the last line feed of a text. -/
def openLine (cs : List Char) : List Char := (pieces '\n' cs).getLastD []

theorem lineFeed_not_mem_openLine (cs : List Char) : '\n' ∉ openLine cs := by
  obtain ⟨front, last, h⟩ := exists_pieces_eq_concat '\n' cs
  have hlast : openLine cs = last := by simp [openLine, h]
  exact hlast ▸ not_mem_of_mem_pieces (h ▸ List.mem_append_right front (List.mem_singleton_self last))

theorem linesOfPieces_append {ps : List (List Char)} (h : ps ≠ []) :
    linesOfPieces (front ++ ps) = front.map dropReturn ++ linesOfPieces ps := by
  induction front with
  | nil => rfl
  | cons p front ih =>
    have hne : front ++ ps ≠ [] := by simp [h]
    obtain ⟨q, qs, hq⟩ := List.exists_cons_of_ne_nil hne
    rw [List.cons_append, hq, linesOfPieces, ← hq, ih]
    · rfl
    · exact fun hnil => nomatch hnil

theorem lines_append_eq (cs rest : List Char) :
    lines (cs ++ rest) = endedLines cs ++ lines (openLine cs ++ rest) := by
  obtain ⟨front, last, h⟩ := exists_pieces_eq_concat '\n' cs
  have hended : endedLines cs = front.map dropReturn := by simp [endedLines, h]
  have hlast : openLine cs = last := by simp [openLine, h]
  rw [lines, pieces_append_of_eq h, linesOfPieces_append (pieces_ne_nil _ _), hended, hlast, lines]

theorem pieces_of_not_mem (h : sep ∉ l) : pieces sep l = [l] := by
  induction l with
  | nil => rfl
  | cons c l ih =>
    obtain ⟨hc, hl⟩ := List.ne_and_not_mem_of_not_mem_cons h
    exact pieces_cons_of_ne hc.symm (ih hl)

theorem lines_eq (cs : List Char) :
    lines cs = endedLines cs ++ if openLine cs = [] then [] else [openLine cs] := by
  have hopen : lines (openLine cs) = if openLine cs = [] then [] else [openLine cs] := by
    rw [lines, pieces_of_not_mem (lineFeed_not_mem_openLine cs)]
    simp [linesOfPieces]
  have h := lines_append_eq cs []
  rwa [List.append_nil, List.append_nil, hopen] at h

theorem dropReturn_subset (cs : List Char) : dropReturn cs ⊆ cs := by
  unfold dropReturn
  split
  · next r hr =>
    intro c hc
    exact List.mem_reverse.1 (hr ▸ List.mem_cons_of_mem _ (List.mem_reverse.1 hc))
  · exact List.Subset.refl _

theorem lineFeed_not_mem_of_mem_lines (h : l ∈ lines cs) : '\n' ∉ l := by
  rw [lines_eq] at h
  obtain h | h := List.mem_append.1 h
  · obtain ⟨p, hp, rfl⟩ := List.mem_map.1 h
    exact fun hmem => not_mem_of_mem_pieces (List.dropLast_subset _ hp) (dropReturn_subset p hmem)
  · split at h
    · cases h
    · exact List.mem_singleton.1 h ▸ lineFeed_not_mem_openLine cs

/-! ## Joined texts -/

/-- The texts before one of several joined texts are each followed by the separator, and those
after it each follow one. -/
theorem toList_joined_append_cons (sep : String) (before after : List String) (s : String) :
    (joined sep (before ++ s :: after)).toList =
      before.flatMap (fun t => t.toList ++ sep.toList) ++
        (s.toList ++ after.flatMap fun t => sep.toList ++ t.toList) := by
  induction before generalizing s with
  | nil =>
    induction after generalizing s with
    | nil => simp [joined]
    | cons t after ih =>
      have ht := ih t
      rw [List.nil_append, List.flatMap_nil, List.nil_append] at ht ⊢
      rw [joined, String.toList_append, String.toList_append, ht]
      simp
  | cons t before ih =>
    obtain ⟨u, r, hu⟩ := List.exists_cons_of_ne_nil (List.append_ne_nil_of_right_ne_nil before
      (List.cons_ne_nil s after))
    rw [List.cons_append, hu, joined, ← hu, String.toList_append, String.toList_append, ih]
    simp

theorem mem_or_exists_mem_of_mem_joined {sep : String} {texts : List String} {c : Char}
    (h : c ∈ (joined sep texts).toList) : c ∈ sep.toList ∨ ∃ s ∈ texts, c ∈ s.toList := by
  cases texts with
  | nil => cases h
  | cons s texts =>
    have hjoined := toList_joined_append_cons sep [] texts s
    rw [List.nil_append, List.flatMap_nil, List.nil_append] at hjoined
    rw [hjoined] at h
    rcases List.mem_append.1 h with h | h
    · exact .inr ⟨s, List.mem_cons_self, h⟩
    · obtain ⟨t, ht, h⟩ := List.mem_flatMap.1 h
      exact (List.mem_append.1 h).imp_right fun h => ⟨t, List.mem_cons_of_mem s ht, h⟩

/-- The pieces between the separators of joined texts are the texts. -/
theorem pieces_joined {texts : List String} (hne : texts ≠ [])
    (h : ∀ s ∈ texts, sep ∉ s.toList) :
    pieces sep (joined (String.singleton sep) texts).toList = texts.map String.toList := by
  induction texts with
  | nil => exact absurd rfl hne
  | cons s texts ih =>
    obtain ⟨hs, htexts⟩ := List.forall_mem_cons.1 h
    cases texts with
    | nil => exact pieces_of_not_mem hs
    | cons t texts =>
      rw [joined, String.toList_append, String.toList_append, String.toList_singleton,
        List.append_assoc, List.singleton_append, pieces_append hs,
        ih (List.cons_ne_nil t texts) htexts]
      rfl

/-! ## Trimmed lines -/

theorem not_isBlank_of_mem_getLast?_trim (cs : List Char) {c : Char}
    (hc : c ∈ (trim cs).getLast?) : isBlank c = false := by
  rw [trim, trimEnd, List.getLast?_reverse] at hc
  have hhead := List.head?_dropWhile_not isBlank (trimStart cs).reverse
  rw [Option.mem_def.1 hc] at hhead
  exact hhead

/-- A trimmed line ends with no carriage return. -/
theorem dropReturn_of_trim (h : trim l = l) : dropReturn l = l := by
  unfold dropReturn
  split
  · next r hr =>
    have hlast : '\r' ∈ l.getLast? := by
      rw [← List.head?_reverse, hr]
      rfl
    rw [← h] at hlast
    cases not_isBlank_of_mem_getLast?_trim l hlast
  · rfl

end ChassisAdmin.Text
