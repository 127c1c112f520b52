/-!
# Cutting texts into pieces

Lines, pieces between separators, the two sides of the first separator, and
whether one text occurs inside another.  All work on lists of characters and
recurse on them.
-/

namespace ChassisAdmin.Text

/-- The pieces of a text between occurrences of a separator: one more than it has separators. -/
def pieces (sep : Char) : List Char → List (List Char)
  | [] => [[]]
  | c :: cs =>
      if c = sep then [] :: pieces sep cs
      else
        match pieces sep cs with
        | [] => [[c]]
        | p :: ps => (c :: p) :: ps

/-- What stands before and after the first occurrence of a separator. -/
def splitOnce (sep : Char) : List Char → Option (List Char × List Char)
  | [] => none
  | c :: cs =>
      if c = sep then some ([], cs)
      else (splitOnce sep cs).map fun r => (c :: r.1, r.2)

/-- A line without the carriage return that ends it. -/
def dropReturn (cs : List Char) : List Char :=
  match cs.reverse with
  | '\r' :: r => r.reverse
  | _ => cs

/-- Reads lines from pieces between line feeds: the last piece is a line only if it holds
anything, and it keeps a carriage return at its end, since no line feed follows. -/
def linesOfPieces : List (List Char) → List (List Char)
  | [] => []
  | [last] => if last.isEmpty then [] else [last]
  | p :: ps => dropReturn p :: linesOfPieces ps

/-- The lines of a text, each ended by a line feed, with or without a carriage return before it,
or by the end of the text. -/
def lines (cs : List Char) : List (List Char) := linesOfPieces (pieces '\n' cs)

/-- Whether one text occurs inside another. -/
def occursIn (part : List Char) : List Char → Bool
  | [] => part.isEmpty
  | c :: cs => part.isPrefixOf (c :: cs) || occursIn part cs

/-- Whether one text occurs inside another. -/
def contains (whole part : String) : Bool := occursIn part.toList whole.toList

/-- Texts one after the other with a separator between neighbours. -/
def joined (sep : String) : List String → String
  | [] => ""
  | [s] => s
  | s :: t :: r => s ++ sep ++ joined sep (t :: r)

theorem pieces_ne_nil (sep : Char) (cs : List Char) : pieces sep cs ≠ [] := by
  cases cs with
  | nil => simp [pieces]
  | cons c cs =>
    unfold pieces
    split
    · simp
    · split <;> simp

example : lines "a\r\nb\n\nc\r".toList = [['a'], ['b'], [], ['c', '\r']] := by decide

example : lines "a\n".toList = [['a']] ∧ lines [] = [] := by decide

example : pieces ',' "a,,b".toList = [['a'], [], ['b']] := by decide

end ChassisAdmin.Text
