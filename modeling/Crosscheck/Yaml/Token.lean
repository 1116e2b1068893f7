import Crosscheck.Yaml.Scalar

/-!
# Crosscheck.Yaml.Token

**The words of YAML.** Besides the texts there are anchors, aliases, tags, directives and the
indicators of structure. Structures that are told by indentation alone get tokens as well, which
`Layout` supplies.
-/

namespace Crosscheck.Yaml

/-- A word of YAML. -/
inductive Token where
  /-- The version that a document claims to follow. -/
  | version (major minor : Nat)
  /-- An abbreviation for the beginnings of tags. -/
  | tagHandle (handle start : String)
  /-- The mark before a document. -/
  | documentStart
  /-- The mark after a document. -/
  | documentEnd
  /-- A sequence told by indentation starts. -/
  | blockSequenceStart
  /-- A mapping told by indentation starts. -/
  | blockMappingStart
  /-- A structure told by indentation ends. -/
  | blockEnd
  /-- An opening bracket. -/
  | flowSequenceStart
  /-- A closing bracket. -/
  | flowSequenceEnd
  /-- An opening brace. -/
  | flowMappingStart
  /-- A closing brace. -/
  | flowMappingEnd
  /-- The dash before an item. -/
  | blockEntry
  /-- A comma. -/
  | flowEntry
  /-- A key follows. -/
  | key
  /-- A value follows. -/
  | value
  /-- A reference to an anchor. -/
  | alias (name : String)
  /-- A name for the node that follows. -/
  | anchor (name : String)
  /-- The tag of the node that follows. -/
  | tag (handle suffix : String)
  /-- A text. -/
  | scalar (style : ScalarStyle) (text : String)
  deriving DecidableEq, Repr

namespace Token

/-- Reads the name of an anchor or alias. -/
def name? (c : Cursor) : Option (String × Cursor) :=
  let (name, c) := c.span isNameChar
  if name.isEmpty then none
  else if startsBlank c.rest || c.rest.head?.any ("?:,]\x7d%@`".toList.contains ·) then
    some (String.ofList name, c)
  else none

/-- Whether a character can be part of a tag as it is. -/
def isTagChar (inFull : Bool) (c : Char) : Bool :=
  isNameChar c || ";/?:@&=+$.!~*'()".toList.contains c || (inFull && ",[]".toList.contains c)

/-- The bytes that percent signs and two hexadecimal digits each spell, up to a number of bytes. -/
def tagBytes? : (count : Nat) → List Char → Option (List Nat × List Char)
  | 0, cs => some ([], cs)
  | count + 1, '%' :: a :: b :: rest => do
    let byte ← Text.ofDigits? 16 [a, b]
    let (bytes, rest) ← tagBytes? count rest
    some (byte :: bytes, rest)
  | _ + 1, _ => none

/-- The number of bytes of a character whose first byte is given. -/
def byteCount? (first : Nat) : Option Nat :=
  if first < 0x80 then some 1
  else if first < 0xC0 then none
  else if first < 0xE0 then some 2
  else if first < 0xF0 then some 3
  else if first < 0xF8 then some 4
  else none

/-- The character that is spelled in bytes at the front. -/
def escapedTagChar? (cs : List Char) : Option (Char × List Char) := do
  let (first, _) ← tagBytes? 1 cs
  let count ← byteCount? (first.headD 0)
  let (bytes, rest) ← tagBytes? count cs
  let s ← String.fromUTF8? ⟨(bytes.map UInt8.ofNat).toArray⟩
  let c ← s.toList.head?
  some (c, rest)

/-- Reads the characters of a tag. -/
def tagChars? (inFull : Bool) : (fuel : Nat) → Cursor → Option (List Char × Cursor)
  | 0, _ => none
  | fuel + 1, c =>
    match c.rest with
    | [] => some ([], c)
    | d :: _ =>
      if d == '%' then do
        let (e, rest) ← escapedTagChar? c.rest
        let (cs, c) ← tagChars? inFull fuel (c.skip (c.rest.length - rest.length))
        some (e :: cs, c)
      else if isTagChar inFull d then do
        let (cs, c) ← tagChars? inFull fuel (c.skip 1)
        some (d :: cs, c)
      else some ([], c)

/-- Reads the characters of a tag, of which there has to be one. -/
def tagText? (inFull : Bool) (c : Cursor) : Option (String × Cursor) := do
  let (cs, c) ← tagChars? inFull (c.rest.length + 1) c
  if cs.isEmpty then none else some (String.ofList cs, c)

/-- Reads a tag without its handle: in full between angle brackets, after a handle between
exclamation marks, or after one exclamation mark, which may also stand alone. -/
def tagParts? (c : Cursor) : Option (Token × Cursor) :=
  match c.rest with
  | _ :: '<' :: _ => do
    let (text, c) ← tagText? true (c.skip 2)
    if c.peek? = some '>' then some (.tag "" text, c.skip 1) else none
  | _ =>
    let (name, after) := (c.skip 1).span isNameChar
    if after.peek? = some '!' then do
      let (text, after) ← tagText? false (after.skip 1)
      some (.tag (String.ofList ('!' :: name ++ ['!'])) text, after)
    else do
      let (more, after) ← tagChars? false (after.rest.length + 1) after
      let suffix := String.ofList (name ++ more)
      if suffix = "" then some (.tag "" "!", after) else some (.tag "!" suffix, after)

/-- Reads a tag; between brackets or braces a comma may follow it, elsewhere a blank has to. -/
def tag? (flow : Bool) (c : Cursor) : Option (Token × Cursor) := do
  let (t, c) ← tagParts? c
  if startsBlank c.rest || (flow && c.peek? = some ',') then some (t, c) else none

/-- Reads a number of a version. -/
def versionNumber? (c : Cursor) : Option (Nat × Cursor) :=
  let (digits, c) := c.span Char.isDigit
  if digits.length ≤ 9 then (Text.ofDigits? 10 digits).map (·, c) else none

/-- Reads the handle that a directive declares. -/
def declaredHandle? (c : Cursor) : Option (String × Cursor) :=
  if c.peek? = some '!' then
    let (name, after) := (c.skip 1).span isNameChar
    if after.peek? = some '!' then some (String.ofList ('!' :: name ++ ['!']), after.skip 1)
    else if name.isEmpty then some ("!", after)
    else none
  else none

/-- Reads a directive after its percent sign, with the rest of its line. -/
def directive? (c : Cursor) : Option (Token × Cursor) := do
  let (name, c) := c.span isNameChar
  let c ← if startsBlank c.rest then some (c.skipWhile isSpace) else none
  match String.ofList name with
  | "YAML" => do
    let (major, c) ← versionNumber? c
    let c ← if c.peek? = some '.' then some (c.skip 1) else none
    let (minor, c) ← versionNumber? c
    some (.version major minor, ← c.skipLineRest?)
  | "TAG" => do
    let (handle, c) ← declaredHandle? c
    let c ← if c.rest.head?.any isSpace then some (c.skipWhile isSpace) else none
    let (start, c) ← tagText? true c
    if startsBlank c.rest then some (.tagHandle handle start, ← c.skipLineRest?) else none
  | _ => none

end Token

end Crosscheck.Yaml
