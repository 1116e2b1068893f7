import Crosscheck.Yaml.Node

/-!
# Crosscheck.Yaml.Record

**Reading values of fixed types from YAML.** What a text means depends on the type that is asked for:
every text is a string, and only a plain one can be a number, a truth value or nothing at all. Where a
record or a list is asked for, an empty place stands for one without members. An alias stands for the
node it names.
-/

namespace Crosscheck.Yaml

/-- A node, in the document whose anchors its aliases mean; `none` is the content of a text without a
document. -/
structure Value where
  /-- The document. -/
  root : Option Node
  /-- The node, which is no alias. -/
  node : Option Node

namespace Value

/-- A node of a document; an alias is followed. -/
def ofNode? (root : Option Node) : Node → Option Value
  | .alias anchor => do
    let target ← (← root).find? anchor
    some ⟨root, some target⟩
  | node => some ⟨root, some node⟩

/-- The document of a text as a value. -/
def ofText? (text : String) : Option Value :=
  (Node.ofDocument? text).map fun root => ⟨root, root⟩

/-- Whether there is nothing in the place of the value. -/
def isEmpty (v : Value) : Bool :=
  match v.node with
  | none => true
  | some (.scalar _ .plain text) => text == ""
  | _ => false

/-- The text of a value. -/
def string? (v : Value) : Option String :=
  match v.node with
  | some (.scalar _ _ text) => some text
  | _ => none

/-- The text of a value that is not read as a string: a plain one, or a block that keeps its lines
and has the tag of the type. -/
def literal? (tag : String) (v : Value) : Option String :=
  match v.node with
  | some (.scalar _ .plain text) => some text
  | some (.scalar p .literal text) => if p.tag = some tag then some text else none
  | _ => none

/-- The number of a decimal numeral without superfluous zeros, or of a numeral with the prefix `0x`,
`0o` or `0b`; one plus sign may precede. -/
def numeral? (cs : List Char) : Option Nat :=
  let cs := match cs with
    | '+' :: rest => rest
    | _ => cs
  match cs with
  | '0' :: 'x' :: rest => Text.ofDigits? 16 rest
  | '0' :: 'o' :: rest => Text.ofDigits? 8 rest
  | '0' :: 'b' :: rest => Text.ofDigits? 2 rest
  | '0' :: _ :: _ => none
  | cs => Text.ofDigits? 10 cs

/-- A count, which has 64 bits. -/
def count? (v : Value) : Option Nat := do
  let n ← numeral? (← v.literal? "tag:yaml.org,2002:int").toList
  if n < UInt64.size then some n else none

/-- A truth value. -/
def bool? (v : Value) : Option Bool := do
  match ← v.literal? "tag:yaml.org,2002:bool" with
  | "true" | "True" | "TRUE" => some true
  | "false" | "False" | "FALSE" => some false
  | _ => none

/-- Whether a text spells that there is nothing. -/
def spellsNull (text : String) : Bool := ["null", "Null", "NULL", "~"].contains text

/-- Whether there is nothing, or a plain text that says so. A tag other than that of nothing makes it
something, and the tag of nothing must not be on anything else. -/
def isNull? (v : Value) : Option Bool :=
  match v.node with
  | none => some true
  | some (.scalar p .plain text) =>
    match p.tag with
    | none => some (text == "" || spellsNull text)
    | some tag =>
      if tag = "tag:yaml.org,2002:null" then if spellsNull text then some true else none
      else some false
  | _ => some false

/-- A value that may be nothing. -/
def optional? (read : Value → Option α) (v : Value) : Option (Option α) := do
  if ← v.isNull? then some none else (read v).map some

/-- One of some named values. The name is a text, or else the tag of nothing. -/
def choice? (ofName? : String → Option α) (v : Value) : Option α :=
  match v.node with
  | some (.scalar p style text) =>
    match (p.tag.getD "").toList with
    | '!' :: name =>
      if style = .plain && (text == "" || spellsNull text) then ofName? (String.ofList name)
      else none
    | _ => ofName? text
  | _ => none

/-- A list. -/
def list? (read : Value → Option α) (v : Value) : Option (List α) :=
  match v.node with
  | some (.sequence _ items) => items.mapM fun item => (ofNode? v.root item).bind read
  | _ => if v.isEmpty then some [] else none

/-- The members of a record; every key has to be a text. -/
def members? (v : Value) : Option (List (String × Node)) :=
  match v.node with
  | some (.mapping _ entries) => entries.mapM fun (key, value) => do
    some (← (← ofNode? v.root key).string?, value)
  | _ => if v.isEmpty then some [] else none

/-- The value of a field that is named at most once. -/
def field? (root : Option Node) (members : List (String × Node)) (name : String) :
    Option (Option Value) :=
  match members.filter (·.1 == name) with
  | [] => some none
  | [(_, node)] => (ofNode? root node).map some
  | _ => none

/-- The fields of a record, in the order of their names; members with other names are allowed if the
record is `extensible`. -/
def record? (extensible : Bool) (names : List String) (v : Value) :
    Option (List (Option Value)) := do
  let members ← v.members?
  if extensible || members.all (names.contains ·.1) then names.mapM (field? v.root members)
  else none

/-- A field with a default. -/
def withDefault (fallback : α) (read : Value → Option α) : Option Value → Option α
  | some v => read v
  | none => some fallback

end Value

end Crosscheck.Yaml
