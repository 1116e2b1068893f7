import Crosscheck.Text.Blank
import Crosscheck.Text.Lines

/-!
# Crosscheck.Device.Assembly

**The instructions of a kernel's text.** One line is one instruction: an opcode, a blank, and
operands between commas. Lines without a blank inside (an empty one, a label, a brace, a return) are
not instructions that anybody asks about; a directive is read like an instruction whose opcode nobody
knows.
-/

namespace Crosscheck

/-- An instruction. -/
structure Instruction where
  /-- The opcode. -/
  opcode : String
  /-- The operands, trimmed. -/
  operands : List String
  deriving DecidableEq, Repr

namespace Instruction

/-- The text without the given character at its end. -/
def dropTrailing (c : Char) (cs : List Char) : List Char :=
  (cs.reverse.dropWhile (· == c)).reverse

/-- The instruction of a line. -/
def ofLine? (line : List Char) : Option Instruction :=
  let line := dropTrailing ';' (Text.trim line)
  match line.dropWhile (!Text.isBlank ·) with
  | [] => none
  | _ :: rest => some {
      opcode := String.ofList (line.takeWhile (!Text.isBlank ·))
      operands := (Text.splitOnChar ',' rest).map fun o => String.ofList (Text.trim o) }

/-- The instructions of a text, in order. -/
def ofSource (source : String) : List Instruction := (Text.lines source).filterMap ofLine?

/-- An operand without the brackets around an address. -/
def unbracketed (operand : String) : String :=
  String.ofList <| Text.trim <| dropTrailing ']' <| operand.toList.dropWhile (· == '[')

/-- The operands without the brackets around addresses. -/
def addresses (i : Instruction) : List String := i.operands.map unbracketed

/-- The rest of the opcode after a given beginning. -/
def suffix? (i : Instruction) (start : String) : Option String :=
  (Text.dropPrefix? start.toList i.opcode.toList).map String.ofList

end Instruction

end Crosscheck
