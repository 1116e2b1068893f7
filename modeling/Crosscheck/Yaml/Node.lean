import Crosscheck.Yaml.Layout

/-!
# Crosscheck.Yaml.Node

**Documents as trees.** A node is a text, a sequence, a mapping, or an alias of a node that has an
anchor. A place where a node could be and none is holds an empty plain text. Of a text that has several
documents nothing is read.
-/

namespace Crosscheck.Yaml

/-- What can be said about a node in front of it. -/
structure Properties where
  /-- The number of its anchor; anchors are numbered in the order in which they stand. -/
  anchor : Option Nat
  /-- Its tag. -/
  tag : Option String
  deriving DecidableEq, Repr

/-- A node of a document. -/
inductive Node where
  /-- The node of an anchor, by the number of the anchor. -/
  | alias (anchor : Nat)
  /-- A text. -/
  | scalar (properties : Properties) (style : ScalarStyle) (text : String)
  /-- A list of nodes. -/
  | sequence (properties : Properties) (items : List Node)
  /-- A list of pairs of nodes. -/
  | mapping (properties : Properties) (entries : List (Node × Node))

namespace Node

/-- The node in a place that has none. -/
def absent : Node := .scalar ⟨none, none⟩ .plain ""

mutual

/-- The node of an anchor inside a node. -/
def find? (anchor : Nat) : Node → Option Node
  | .alias _ => none
  | .scalar p style text => if p.anchor == some anchor then some (.scalar p style text) else none
  | .sequence p items =>
    if p.anchor == some anchor then some (.sequence p items) else findItem? anchor items
  | .mapping p entries =>
    if p.anchor == some anchor then some (.mapping p entries) else findPair? anchor entries

/-- The node of an anchor inside a list of nodes. -/
def findItem? (anchor : Nat) : List Node → Option Node
  | [] => none
  | item :: items => (find? anchor item).or (findItem? anchor items)

/-- The node of an anchor inside a list of pairs. -/
def findPair? (anchor : Nat) : List (Node × Node) → Option Node
  | [] => none
  | (key, value) :: entries =>
    ((find? anchor key).or (find? anchor value)).or (findPair? anchor entries)

end

/-- What is left to read: tokens, and the names of the anchors so far, last one first. -/
structure Source where
  /-- The tokens. -/
  tokens : List Token
  /-- The names of the anchors. -/
  anchors : List String

/-- The abbreviations of tags. -/
abbrev TagHandles := List (String × String)

/-- The abbreviations that need no directive. -/
def standardHandles : TagHandles := [("!", "!"), ("!!", "tag:yaml.org,2002:")]

/-- The number of the last anchor of a name. -/
def anchorNumber? (anchors : List String) (name : String) : Option Nat :=
  (anchors.findIdx? (· == name)).map (anchors.length - 1 - ·)

/-- The full tag; one with a handle that nothing declares is wrong. -/
def fullTag? (handles : TagHandles) (handle suffix : String) : Option String :=
  if handle = "" then some suffix
  else (handles.find? (·.1 == handle)).map (·.2 ++ suffix)

/-- Reads the properties of a node, an anchor and a tag in either order. -/
def properties? (handles : TagHandles) (s : Source) : Option (Properties × Source) :=
  match s.tokens with
  | .anchor name :: .tag handle suffix :: rest
  | .tag handle suffix :: .anchor name :: rest => do
    let tag ← fullTag? handles handle suffix
    some (⟨some s.anchors.length, some tag⟩, ⟨rest, name :: s.anchors⟩)
  | .anchor name :: rest => some (⟨some s.anchors.length, none⟩, ⟨rest, name :: s.anchors⟩)
  | .tag handle suffix :: rest => do
    let tag ← fullTag? handles handle suffix
    some (⟨none, some tag⟩, { s with tokens := rest })
  | _ => some (⟨none, none⟩, s)

/-- A text; a lone exclamation mark is no tag of texts. -/
def ofText (p : Properties) (style : ScalarStyle) (text : String) : Node :=
  .scalar (if p.tag = some "!" then { p with tag := none } else p) style text

/-- A place without a node that has an anchor or a tag. -/
def named? (p : Properties) : Option Node :=
  if p = ⟨none, none⟩ then none else some (.scalar p .plain "")

/-- Where a node may stand. -/
inductive Place where
  /-- Between brackets. -/
  | flow
  /-- Where structures are told by indentation. -/
  | block
  /-- Before or after the colon of such a structure, where the dashes of a sequence need not be
  indented. -/
  | mapping
  deriving DecidableEq, Repr

/-- Whether a token ends a place where a node could be. -/
def endsBlock : List Token → Bool
  | .blockEnd :: _ | .key :: _ | .value :: _ => true
  | _ => false

mutual

/-- Reads a node. Every call takes a token, or is the only one between two that do. -/
def node? (handles : TagHandles) : (fuel : Nat) → Place → Source → Option (Node × Source)
  | 0, _, _ => none
  | fuel + 1, place, s =>
    match s.tokens with
    | .alias name :: rest => do
      let number ← anchorNumber? s.anchors name
      some (.alias number, { s with tokens := rest })
    | _ => do
      let (p, s) ← properties? handles s
      match s.tokens with
      | .scalar style text :: rest => some (ofText p style text, { s with tokens := rest })
      | .flowSequenceStart :: rest => do
        let (items, s) ← flowItems? handles fuel true { s with tokens := rest }
        some (.sequence p items, s)
      | .flowMappingStart :: rest => do
        let (entries, s) ← flowEntries? handles fuel true { s with tokens := rest }
        some (.mapping p entries, s)
      | .blockEntry :: _ =>
        if place = .mapping then do
          let (items, s) ← openItems? handles fuel s
          some (.sequence p items, s)
        else (named? p).map (·, s)
      | .blockSequenceStart :: rest =>
        if place ≠ .flow then do
          let (items, s) ← blockItems? handles fuel { s with tokens := rest }
          some (.sequence p items, s)
        else (named? p).map (·, s)
      | .blockMappingStart :: rest =>
        if place ≠ .flow then do
          let (entries, s) ← blockEntries? handles fuel { s with tokens := rest }
          some (.mapping p entries, s)
        else (named? p).map (·, s)
      | _ => (named? p).map (·, s)

/-- Reads the items of an indented sequence, and its end. -/
def blockItems? (handles : TagHandles) : (fuel : Nat) → Source → Option (List Node × Source)
  | 0, _ => none
  | fuel + 1, s =>
    match s.tokens with
    | .blockEnd :: rest => some ([], { s with tokens := rest })
    | .blockEntry :: rest => do
      let s := { s with tokens := rest }
      let (item, s) ← match rest with
        | .blockEntry :: _ | .blockEnd :: _ => some (absent, s)
        | _ => node? handles fuel .block s
      let (items, s) ← blockItems? handles fuel s
      some (item :: items, s)
    | _ => none

/-- Reads the items of a sequence that is not indented and has no token at its end. -/
def openItems? (handles : TagHandles) : (fuel : Nat) → Source → Option (List Node × Source)
  | 0, _ => none
  | fuel + 1, s =>
    match s.tokens with
    | .blockEntry :: rest => do
      let s := { s with tokens := rest }
      let (item, s) ← match rest with
        | .blockEntry :: _ => some (absent, s)
        | _ => if endsBlock rest then some (absent, s) else node? handles fuel .block s
      let (items, s) ← openItems? handles fuel s
      some (item :: items, s)
    | _ => some ([], s)

/-- Reads the entries of an indented mapping, and its end. -/
def blockEntries? (handles : TagHandles) :
    (fuel : Nat) → Source → Option (List (Node × Node) × Source)
  | 0, _ => none
  | fuel + 1, s =>
    match s.tokens with
    | .blockEnd :: rest => some ([], { s with tokens := rest })
    | .key :: rest => do
      let s := { s with tokens := rest }
      let (key, s) ←
        if endsBlock rest then some (absent, s) else node? handles fuel .mapping s
      let (value, s) ← blockValue? handles fuel s
      let (entries, s) ← blockEntries? handles fuel s
      some ((key, value) :: entries, s)
    | _ => none

/-- Reads the value of an entry of an indented mapping. -/
def blockValue? (handles : TagHandles) : (fuel : Nat) → Source → Option (Node × Source)
  | 0, _ => none
  | fuel + 1, s =>
    match s.tokens with
    | .value :: rest =>
      let s := { s with tokens := rest }
      if endsBlock rest then some (absent, s) else node? handles fuel .mapping s
    | _ => some (absent, s)

/-- Reads the items of a sequence in brackets, and its end. Between two items is a comma, and one may
come before the end. An item may be a mapping of one entry. -/
def flowItems? (handles : TagHandles) :
    (fuel : Nat) → (first : Bool) → Source → Option (List Node × Source)
  | 0, _, _ => none
  | fuel + 1, first, s =>
    match s.tokens with
    | .flowSequenceEnd :: rest => some ([], { s with tokens := rest })
    | tokens => do
      let tokens ← if first then some tokens else
        match tokens with
        | .flowEntry :: rest => some rest
        | _ => none
      let s := { s with tokens := tokens }
      match tokens with
      | .flowSequenceEnd :: rest => some ([], { s with tokens := rest })
      | .key :: rest => do
        let (entry, s) ← flowPair? handles fuel { s with tokens := rest }
        let (items, s) ← flowItems? handles fuel false s
        some (.mapping ⟨none, none⟩ [entry] :: items, s)
      | _ => do
        let (item, s) ← node? handles fuel .flow s
        let (items, s) ← flowItems? handles fuel false s
        some (item :: items, s)

/-- Reads key and value of an item in brackets. Where the key is missing, so is the value. -/
def flowPair? (handles : TagHandles) : (fuel : Nat) → Source → Option ((Node × Node) × Source)
  | 0, _ => none
  | fuel + 1, s => do
    let (key, s) ← match s.tokens with
      | .value :: rest | .flowEntry :: rest | .flowSequenceEnd :: rest =>
        some (absent, { s with tokens := rest })
      | _ => node? handles fuel .flow s
    let (value, s) ← flowValue? handles fuel s
    some ((key, value), s)

/-- Reads the value of an entry in brackets or braces. -/
def flowValue? (handles : TagHandles) : (fuel : Nat) → Source → Option (Node × Source)
  | 0, _ => none
  | fuel + 1, s =>
    match s.tokens with
    | .value :: rest =>
      let s := { s with tokens := rest }
      match rest with
      | .flowEntry :: _ | .flowSequenceEnd :: _ | .flowMappingEnd :: _ => some (absent, s)
      | _ => node? handles fuel .flow s
    | _ => some (absent, s)

/-- Reads the entries of a mapping in braces, and its end. Between two entries is a comma, and one may
come before the end. An entry may be a key alone. -/
def flowEntries? (handles : TagHandles) :
    (fuel : Nat) → (first : Bool) → Source → Option (List (Node × Node) × Source)
  | 0, _, _ => none
  | fuel + 1, first, s =>
    match s.tokens with
    | .flowMappingEnd :: rest => some ([], { s with tokens := rest })
    | tokens => do
      let tokens ← if first then some tokens else
        match tokens with
        | .flowEntry :: rest => some rest
        | _ => none
      let s := { s with tokens := tokens }
      match tokens with
      | .flowMappingEnd :: rest => some ([], { s with tokens := rest })
      | .key :: rest => do
        let s := { s with tokens := rest }
        let (key, s) ← match rest with
          | .value :: _ | .flowEntry :: _ | .flowMappingEnd :: _ => some (absent, s)
          | _ => node? handles fuel .flow s
        let (value, s) ← flowValue? handles fuel s
        let (entries, s) ← flowEntries? handles fuel false s
        some ((key, value) :: entries, s)
      | _ => do
        let (key, s) ← node? handles fuel .flow s
        let (entries, s) ← flowEntries? handles fuel false s
        some ((key, absent) :: entries, s)

end

/-- Reads the directives before a document: at most one version, and every handle once. -/
def directives? (versions : Bool) (declared : TagHandles) :
    List Token → Option (TagHandles × List Token)
  | .version major minor :: rest =>
    if versions || major != 1 || (minor != 1 && minor != 2) then none
    else directives? true declared rest
  | .tagHandle handle start :: rest =>
    if declared.any (·.1 == handle) then none
    else directives? versions ((handle, start) :: declared) rest
  | tokens => some (declared ++ standardHandles, tokens)

/-- Whether a document ends here. -/
def endsDocument : List Token → Bool
  | [] => true
  | .version .. :: _ | .tagHandle .. :: _ | .documentStart :: _ | .documentEnd :: _ => true
  | _ => false

/-- Reads the only document of a text, if the text has one. -/
def ofTokens? (tokens : List Token) : Option (Option Node) :=
  match tokens with
  | [] => some none
  | first :: _ => do
    let (handles, after) ← directives? false [] tokens
    let content ← match after with
      | .documentStart :: rest => some rest
      | _ => if first matches .version .. | .tagHandle .. then none else some after
    let marked := after matches .documentStart :: _
    let (root, s) ←
      if marked && endsDocument content then some (absent, ⟨content, []⟩)
      else node? handles (3 * tokens.length + 3) .block ⟨content, []⟩
    if s.tokens.all (· == .documentEnd) then some (some root) else none

/-- The document of a text; the inner `none` stands for a text without any. -/
def ofDocument? (text : String) : Option (Option Node) :=
  (Token.ofText? text.toList).bind ofTokens?

end Node

end Crosscheck.Yaml
