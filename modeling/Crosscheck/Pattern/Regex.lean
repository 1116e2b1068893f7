import Crosscheck.Pattern.CodeSet

/-!
# Crosscheck.Pattern.Regex

**Regular expressions and where they match.** Only whether a text contains a match is ever asked, so
a match is a set question: given the places where a match may start, `Regex.reach` gives the places
where one can end, and greediness does not matter.

A set of places of one text is a list of marks along the text, one for each place. An expression
turns marks into marks: a character moves them, a condition removes some of them, and a repetition
can stop as soon as a round changes nothing, which it does after as many rounds as there are places.
-/

namespace Crosscheck

/-- A place in a text. -/
structure Place where
  /-- The character before the place. -/
  before : Option Char
  /-- The text after the place. -/
  rest : List Char
  deriving DecidableEq, Repr

/-- The kinds of conditions on a place that consider words. -/
inductive WordEdge where
  /-- Exactly one side is a word character. -/
  | boundary
  /-- Both sides are word characters, or none is. -/
  | inside
  /-- A word starts here. -/
  | start
  /-- A word ends here. -/
  | finish
  /-- No word character stands before. -/
  | startHalf
  /-- No word character follows. -/
  | finishHalf
  deriving DecidableEq, Repr

/-- A condition on a place. -/
inductive Anchor where
  /-- The text starts here. -/
  | textStart
  /-- The text ends here. -/
  | textEnd
  /-- A line starts here; with `crlf`, carriage returns end lines as well. -/
  | lineStart (crlf : Bool)
  /-- A line ends here; with `crlf`, carriage returns end lines as well. -/
  | lineEnd (crlf : Bool)
  /-- A condition on words, over all characters or over the basic alphabet. -/
  | word (edge : WordEdge) (basic : Bool)
  deriving DecidableEq, Repr

/-- A regular expression. -/
inductive Regex where
  /-- Matches the empty text. -/
  | empty
  /-- Matches one character of a set. -/
  | char (set : CodeSet)
  /-- Matches the empty text where a condition holds. -/
  | anchor (a : Anchor)
  /-- Matches one expression after the other. -/
  | seq (r s : Regex)
  /-- Matches either expression. -/
  | alt (r s : Regex)
  /-- Matches an expression `least` times or more, at most `most` times if there is such a limit. -/
  | repeat (r : Regex) (least : Nat) (most : Option Nat)

namespace Anchor

/-- Whether a character on one side of a place is a word character. -/
def isWordAt (basic : Bool) : Option Char → Bool
  | some c => CodeSet.wordCharacters basic c.toNat
  | none => false

/-- Whether a condition holds at a place. -/
def holds (a : Anchor) (p : Place) : Bool :=
  match a with
  | .textStart => p.before.isNone
  | .textEnd => p.rest.isEmpty
  | .lineStart crlf =>
    match p.before with
    | none => true
    | some '\n' => true
    | some '\r' => crlf && p.rest.head? != some '\n'
    | some _ => false
  | .lineEnd crlf =>
    match p.rest with
    | [] => true
    | '\n' :: _ => !(crlf && p.before == some '\r')
    | '\r' :: _ => crlf
    | _ :: _ => false
  | .word edge basic =>
    let left := isWordAt basic p.before
    let right := isWordAt basic p.rest.head?
    match edge with
    | .boundary => left != right
    | .inside => left == right
    | .start => !left && right
    | .finish => left && !right
    | .startHalf => !left
    | .finishHalf => !right

end Anchor

/-- A set of places of one text: a mark for each place in turn. -/
abbrev Marks := List Bool

namespace Place

/-- The places of a text that come after the given character, in order. -/
def along (before : Option Char) : List Char → List Place
  | [] => [⟨before, []⟩]
  | c :: cs => ⟨before, c :: cs⟩ :: along (some c) cs

/-- Whether the character at the place is in a set. -/
def isAt (set : CodeSet) (p : Place) : Bool :=
  match p.rest with
  | c :: _ => set c.toNat
  | [] => false

end Place

namespace Marks

/-- The places of either set. -/
def union (m n : Marks) : Marks := List.zipWith (· || ·) m n

/-- The places of a set where a condition holds. -/
def keep (holds : Place → Bool) (places : List Place) (m : Marks) : Marks :=
  List.zipWith (fun p marked => marked && holds p) places m

/-- The places one character further on. -/
def shift (m : Marks) : Marks := false :: m.dropLast

/-- The marks after `n` steps; ends when a step changes nothing. -/
def iterate (step : Marks → Marks) : Nat → Marks → Marks
  | 0, m => m
  | n + 1, m =>
    let next := step m
    if next = m then m else iterate step n next

end Marks

namespace Regex

/-- The places of a text where a match that starts at one of the marked places can end. -/
def reach (places : List Place) : Regex → Marks → Marks
  | .empty, m => m
  | .char set, m => (m.keep (Place.isAt set) places).shift
  | .anchor a, m => m.keep a.holds places
  | .seq r s, m => reach places s (reach places r m)
  | .alt r s, m => (reach places r m).union (reach places s m)
  | .repeat r least most, m =>
    let required := Marks.iterate (reach places r) least m
    let further := match most with
      | some n => n - least
      | none => places.length
    Marks.iterate (fun n => n.union (reach places r n)) further required

/-- Whether a text contains a match. -/
def isMatch (r : Regex) (text : String) : Bool :=
  let places := Place.along none text.toList
  (r.reach places (places.map fun _ => true)).any id

/-- An expression that matches one given character. -/
def literal (c : Char) : Regex := .char (CodeSet.single c.toNat)

end Regex

end Crosscheck
