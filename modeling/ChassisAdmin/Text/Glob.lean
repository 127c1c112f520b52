/-!
# Patterns over raw keys

A pattern is a text in which `*` stands for any run of characters other than a
line feed, `?` for any one such character, and every other character for itself.
There are no character classes and no escapes.

A pattern is matched from the left.  After each of its characters the matcher
knows every remainder of the text that the pattern so far can leave
(`remainders`), each once, so the work grows with the square of the text and
never with the number of ways to share it out among the stars.  The text matches
when nothing can be left at the end.
-/

namespace ChassisAdmin.Text.Glob

/-- The remainders of a text after any run that holds no line feed, the empty run first. -/
def remaindersOfRun : List Char → List (List Char)
  | [] => [[]]
  | c :: cs => (c :: cs) :: (if c = '\n' then [] else remaindersOfRun cs)

/-- The remainders of a text after what one pattern character can take from its front. -/
def step (p : Char) (text : List Char) : List (List Char) :=
  if p = '*' then remaindersOfRun text
  else
    match text with
    | [] => []
    | c :: cs => if (if p = '?' then c ≠ '\n' else c = p) then [cs] else []

/-- The remainders that the characters of a pattern, taken in turn, can leave. -/
def remainders (pattern : List Char) (texts : List (List Char)) : List (List Char) :=
  pattern.foldl (fun ts p => (ts.flatMap (step p)).eraseDups) texts

/-- Whether a pattern matches the whole of a text. -/
def isMatch (pattern text : String) : Bool :=
  (remainders pattern.toList [text.toList]).contains []

example : (remainders "A|*".toList ["A|b\n".toList]).contains [] = false := by decide

example : (remainders "a?c*".toList ["abcd".toList]).contains [] = true := by decide

end ChassisAdmin.Text.Glob
