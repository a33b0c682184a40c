/-!
# Pages

A page is a list of lines for a terminal: headings, labelled results and short notices.
-/

namespace OpticalBench

/-- The lines of a page. -/
abbrev Page := List String

namespace Page

/-- A horizontal rule. -/
def rule (c : Char) (width : Nat) : String := String.ofList (List.replicate width c)

/-- The title of a page. -/
def header (title : String) : Page :=
  ["", rule '═' 60, "  " ++ title, rule '═' 60, ""]

/-- The title of a part. -/
def heading (title : String) : Page := ["", "▶ " ++ title, rule '─' 40]

/-- A value with its label. -/
def result (label value : String) : Page := ["  " ++ label ++ ": " ++ value]

/-- A notice that something has worked. -/
def success (notice : String) : Page := ["✓ " ++ notice]

/-- A notice worth knowing. -/
def info (notice : String) : Page := ["ℹ " ++ notice]

/-- A notice that something is wrong. -/
def warning (notice : String) : Page := ["! " ++ notice]

/-- The text of a page. -/
def text (p : Page) : String := String.join (p.map (· ++ "\n"))

end Page

end OpticalBench
