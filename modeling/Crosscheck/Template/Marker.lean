import Crosscheck.Order

/-!
# Crosscheck.Template.Marker

**Markers: names in angle brackets.** A marker is `<NAME>`. Which names are allowed is a
`MarkerGrammar`: a class of first characters and a class of further ones. Placeholders are the
markers with upper-case names; the wider grammar of identifiers finds markers that were probably
meant to be placeholders.

`segments` cuts a text into markers and single characters, from left to right. A bracket that does
not open a marker is a character like any other, so `<A<B>>` holds the marker `B`. Writing the
segments back (`Segment.text`) gives the text again.
-/

namespace Crosscheck

/-- Which names a marker can have. -/
structure MarkerGrammar where
  /-- The characters that can begin a name. -/
  first : Char → Bool
  /-- The characters that can follow. -/
  later : Char → Bool

namespace MarkerGrammar

/-- Upper-case letters of the basic alphabet. -/
def isUpper (c : Char) : Bool := decide ('A' ≤ c) && decide (c ≤ 'Z')

/-- Letters of the basic alphabet. -/
def isLetter (c : Char) : Bool := isUpper c || (decide ('a' ≤ c) && decide (c ≤ 'z'))

/-- Decimal digits of the basic alphabet. -/
def isDigit (c : Char) : Bool := decide ('0' ≤ c) && decide (c ≤ '9')

/-- Placeholder names: an upper-case letter, then upper-case letters, digits and underscores. -/
def placeholder : MarkerGrammar where
  first := isUpper
  later c := isUpper c || isDigit c || c == '_'

/-- Identifiers: a letter or underscore, then letters, digits and underscores. -/
def identifier : MarkerGrammar where
  first c := isLetter c || c == '_'
  later c := isLetter c || isDigit c || c == '_'

/-- Whether a text is a name of the grammar. -/
def isName (g : MarkerGrammar) : List Char → Bool
  | [] => false
  | c :: cs => g.first c && cs.all g.later

/-- The name of the marker whose opening bracket has just been read, and the text after it. -/
def markerAfterBracket? (g : MarkerGrammar) : List Char → Option (List Char × List Char)
  | [] => none
  | c :: cs =>
    if g.first c then
      match cs.dropWhile g.later with
      | '>' :: rest => some (c :: cs.takeWhile g.later, rest)
      | _ => none
    else none

theorem length_markerAfterBracket? {g : MarkerGrammar} {cs name rest : List Char}
    (h : g.markerAfterBracket? cs = some (name, rest)) : rest.length < cs.length := by
  cases cs with
  | nil => simp [markerAfterBracket?] at h
  | cons c cs =>
    rw [markerAfterBracket?] at h
    split at h
    · split at h
      · rename_i after heq
        obtain ⟨-, rfl⟩ := by simpa using h
        have := (List.dropWhile_suffix (l := cs) g.later).length_le
        rw [heq] at this
        simp only [List.length_cons] at this ⊢
        omega
      · simp at h
    · simp at h

end MarkerGrammar

/-- A piece of a text: a marker, or a character that is not part of one. -/
inductive Segment where
  /-- A character. -/
  | literal (c : Char)
  /-- A marker of the given name. -/
  | marker (name : List Char)
  deriving DecidableEq, Repr

namespace Segment

/-- The characters of a segment. -/
def text : Segment → List Char
  | .literal c => [c]
  | .marker name => '<' :: name ++ ['>']

/-- The name of a marker. -/
def name? : Segment → Option String
  | .literal _ => none
  | .marker name => some (String.ofList name)

/-- The characters of a segment with the marker replaced. -/
def fill (value : String → List Char) : Segment → List Char
  | .literal c => [c]
  | .marker name => value (String.ofList name)

end Segment

namespace MarkerGrammar

/-- The markers and other characters of a text, in order. -/
def segments (g : MarkerGrammar) : List Char → List Segment
  | [] => []
  | c :: cs =>
    if c = '<' then
      match _h : g.markerAfterBracket? cs with
      | some (name, rest) => .marker name :: segments g rest
      | none => .literal c :: segments g cs
    else .literal c :: segments g cs
termination_by cs => cs.length
decreasing_by
  · have := length_markerAfterBracket? _h
    simp only [List.length_cons]
    omega
  · simp
  · simp

/-- The names of all markers of a text, in order of occurrence. -/
def occurrences (g : MarkerGrammar) (text : String) : List String :=
  (g.segments text.toList).filterMap Segment.name?

end MarkerGrammar

/-- The distinct placeholder names of a text, in ascending order. -/
def placeholders (text : String) : List String :=
  ascendingTexts (MarkerGrammar.placeholder.occurrences text)

end Crosscheck
