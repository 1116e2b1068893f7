import Crosscheck.Json.Token

/-!
# Crosscheck.Json.Reader

**Reading JSON.** A text is one value and nothing after it. Arrays and objects have a comma between
two items and none before the end.
-/

namespace Crosscheck

namespace Json

mutual

/-- Reads the value at the front. Every call takes a token first, so `fuel` is enough if it exceeds
the number of tokens. -/
def value? : (fuel : Nat) → List JsonToken → Option (Json × List JsonToken)
  | 0, _ => none
  | fuel + 1, tokens =>
    match tokens with
    | .null :: rest => some (null, rest)
    | .bool b :: rest => some (bool b, rest)
    | .number n :: rest => some (number n, rest)
    | .text s :: rest => some (text s, rest)
    | .openArray :: .closeArray :: rest => some (array [], rest)
    | .openArray :: rest => (items? fuel rest).map fun (items, rest) => (array items, rest)
    | .openObject :: .closeObject :: rest => some (object [], rest)
    | .openObject :: rest =>
      (members? fuel rest).map fun (members, rest) => (object members, rest)
    | _ => none

/-- Reads the items of an array that has some, and its end. -/
def items? : (fuel : Nat) → List JsonToken → Option (List Json × List JsonToken)
  | 0, _ => none
  | fuel + 1, tokens => do
    let (item, rest) ← value? fuel tokens
    match rest with
    | .comma :: rest => (items? fuel rest).map fun (items, rest) => (item :: items, rest)
    | .closeArray :: rest => some ([item], rest)
    | _ => none

/-- Reads the members of an object that has some, and its end. -/
def members? : (fuel : Nat) → List JsonToken →
    Option (List (Option String × Json) × List JsonToken)
  | 0, _ => none
  | fuel + 1, .text key :: .colon :: rest => do
    let (value, rest) ← value? fuel rest
    match rest with
    | .comma :: rest =>
      (members? fuel rest).map fun (members, rest) => ((key, value) :: members, rest)
    | .closeObject :: rest => some ([(key, value)], rest)
    | _ => none
  | _ + 1, _ => none

end

/-- The value that tokens spell. -/
def ofTokens? (tokens : List JsonToken) : Option Json :=
  match value? (2 * tokens.length + 1) tokens with
  | some (value, []) => some value
  | _ => none

/-- The value of a JSON text. -/
def ofText? (s : String) : Option Json := (JsonToken.ofText? s).bind ofTokens?

end Json

end Crosscheck
