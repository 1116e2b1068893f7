import Crosscheck.Json.Basic
import Crosscheck.Text.Numeral

/-!
# Crosscheck.Json.Printer

**Writing JSON.** `compact` writes no blank at all; `pretty` writes every item of an array or object
on a line of its own, two blanks deeper than the line before. In strings only quotes, backslashes and
control characters are escaped.
-/

namespace Crosscheck

namespace Json

/-- A character inside a string. -/
def escapedChar (c : Char) : List Char :=
  match c with
  | '"' => ['\\', '"']
  | '\\' => ['\\', '\\']
  | '\x08' => ['\\', 'b']
  | '\x0c' => ['\\', 'f']
  | '\n' => ['\\', 'n']
  | '\r' => ['\\', 'r']
  | '\t' => ['\\', 't']
  | c => if c.toNat < 32 then '\\' :: 'u' :: Text.hexDigits 4 c.toNat else [c]

/-- A string. -/
def quoted (s : List Char) : List Char := '"' :: s.flatMap escapedChar ++ ['"']

/-- A number. -/
def numberText : JsonNumber → List Char
  | .natural n => (toString n).toList
  | .decimal negative digits exponent =>
    (if negative then ['-'] else []) ++ (toString digits).toList ++ 'e' :: (toString exponent).toList

/-- The start of a line inside `depth` arrays or objects. -/
def lineStart (depth : Nat) : List Char := '\n' :: List.replicate (2 * depth) ' '

/-- Items between brackets: on lines of their own inside `depth` others, or one after the other. -/
def bracketed (lines : Bool) (depth : Nat) (first last : Char) (items : List (List Char)) :
    List Char :=
  if items.isEmpty then [first, last]
  else if lines then
    first :: [','].intercalate (items.map (lineStart (depth + 1) ++ ·)) ++ lineStart depth ++ [last]
  else first :: [','].intercalate items ++ [last]

mutual

/-- A value inside `depth` arrays or objects. -/
def render (lines : Bool) (depth : Nat) : Json → List Char
  | null => "null".toList
  | bool true => "true".toList
  | bool false => "false".toList
  | number n => numberText n
  | text s => quoted (s.getD "").toList
  | array items => bracketed lines depth '[' ']' (renderItems lines (depth + 1) items)
  | object members =>
    bracketed lines depth '\x7b' '\x7d' (renderMembers lines (depth + 1) members)

/-- The items of an array. -/
def renderItems (lines : Bool) (depth : Nat) : List Json → List (List Char)
  | [] => []
  | item :: items => render lines depth item :: renderItems lines depth items

/-- The members of an object. -/
def renderMembers (lines : Bool) (depth : Nat) :
    List (Option String × Json) → List (List Char)
  | [] => []
  | (key, value) :: members =>
    (quoted (key.getD "").toList ++ (if lines then [':', ' '] else [':'])
      ++ render lines depth value) :: renderMembers lines depth members

end

/-- A value on one line, without blanks. -/
def compact (j : Json) : String := String.ofList (render false 0 j)

/-- A value with every item on its own line. -/
def pretty (j : Json) : String := String.ofList (render true 0 j)

end Json

end Crosscheck
