/-!
# Crosscheck.Text.Lines

**The lines of a text.** A line ends at a line feed, and a carriage return right before that line
feed belongs to the line end as well. A text that ends in a line feed has no empty line after it.
-/

namespace Crosscheck.Text

/-- The lines of a text; `line` is the line that is being read, last character first. -/
def linesFrom (line : List Char) : List Char → List (List Char)
  | [] => if line.isEmpty then [] else [line.reverse]
  | '\n' :: cs =>
    let ended := match line with
      | '\r' :: before => before
      | _ => line
    ended.reverse :: linesFrom [] cs
  | c :: cs => linesFrom (c :: line) cs

/-- The lines of a text, without their ends. -/
def lines (s : String) : List (List Char) := linesFrom [] s.toList

end Crosscheck.Text
