import ChassisAdmin.Guard
import ChassisAdmin.Text.Blank
import ChassisAdmin.Text.Split

/-!
# The table of module states

A table with a heading, a line of dashes and one line for each module.  A column
is as wide as its longest cell is in bytes of UTF-8.  Cells are filled up to
that width by counting characters, so a column with characters of several bytes
is wider than it need be, and the columns still line up.  Two spaces stand
between columns.  No line ends in blanks.
-/

namespace ChassisAdmin.StatusTable

/-- The heading of each column. -/
def headings : List String := ["Name", "Admin-Status", "In-Transition", "Start-Time", "Timed-Out"]

/-- The cells of a module. -/
def cells (row : String × TransitionState) : List String :=
  [row.1, row.2.adminStatus.text, flagText row.2.inProgress, row.2.startTime.getD "N/A",
    flagText row.2.timedOut]

/-- The greater of two widths in every column. -/
def widen (widths : List Nat) (row : List String) : List Nat :=
  widths.zipWith (fun w cell => max w cell.utf8ByteSize) row

/-- The width of every column. -/
def widths (rows : List (List String)) : List Nat :=
  rows.foldl widen (headings.map String.utf8ByteSize)

/-- A cell filled up with spaces to a width. -/
def filled (width : Nat) (cell : String) : String :=
  cell ++ String.ofList (List.replicate (width - cell.length) ' ')

/-- A line of cells. -/
def line (widths : List Nat) (row : List String) : String :=
  Text.trimmedEnd (Text.joined "  " (row.zipWith (fun cell w => filled w cell) widths))

/-- The dashes of a column. -/
def dashes (width : Nat) : String := String.ofList (List.replicate width '-')

/-- The lines of the table. -/
def lines (statuses : List (String × TransitionState)) : List String :=
  let rows := statuses.map cells
  let ws := widths rows
  line ws headings :: line ws (ws.map dashes) :: rows.map (line ws)

/-- The table. -/
def render (statuses : List (String × TransitionState)) : String :=
  Text.joined "\n" (lines statuses)

end ChassisAdmin.StatusTable
