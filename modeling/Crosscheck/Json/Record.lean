import Crosscheck.Json.Basic

/-!
# Crosscheck.Json.Record

**Reading values of fixed types from JSON.** Nothing is converted: a count is digits only, a text is
a string. A record is an object, whose members may come in any order and whose unknown members are
passed over, or an array of its fields in order. A known field may be given once, and every key has
to be a text.
-/

namespace Crosscheck

namespace Json

/-- How a record has a field. -/
inductive Member where
  /-- With a value. -/
  | given (value : Json)
  /-- The object does not mention it. -/
  | absent
  /-- The array ends before it. -/
  | beyond

/-- The value of a field that is named at most once. -/
def memberOf? (members : List (Option String × Json)) (name : String) : Option Member :=
  match members.filter (fun member => member.1 == some name) with
  | [] => some .absent
  | [(_, value)] => some (.given value)
  | _ => none

/-- The fields of a record, in the order of their names. -/
def record? (names : List String) : Json → Option (List Member)
  | object members =>
    if members.all (fun member => member.1.isSome) then names.mapM (memberOf? members) else none
  | array items =>
    if items.length ≤ names.length then
      some (items.map .given ++ List.replicate (names.length - items.length) .beyond)
    else none
  | _ => none

/-- A field that has to be there. -/
def Member.required (read : Json → Option α) : Member → Option α
  | given value => read value
  | _ => none

/-- A value, or `null` for none. -/
def nullable (read : Json → Option α) : Json → Option (Option α)
  | null => some none
  | value => (read value).map some

/-- A field that an object need not have. -/
def Member.optional (read : Json → Option α) : Member → Option (Option α)
  | given value => nullable read value
  | absent => some none
  | beyond => none

/-- A field with a default. -/
def Member.withDefault (fallback : α) (read : Json → Option α) : Member → Option α
  | given value => read value
  | _ => some fallback

/-- A text. -/
def string? : Json → Option String
  | text s => s
  | _ => none

/-- A natural number below a limit. -/
def below? (limit : Nat) : Json → Option Nat
  | number (.natural n) => if n < limit then some n else none
  | _ => none

/-- A count. -/
def count? : Json → Option Nat := below? UInt64.size

/-- A word. -/
def word? (j : Json) : Option (BitVec 64) := (count? j).map (BitVec.ofNat 64)

/-- A list. -/
def list? (read : Json → Option α) : Json → Option (List α)
  | array items => items.mapM read
  | _ => none

/-- A table by name; of entries with one name the last one counts. -/
def table? (insert : String → α → β → β) (empty : β) (read : Json → Option α) :
    Json → Option β
  | object members =>
    members.foldlM (fun table (key, value) => do
      let key ← key
      let value ← read value
      some (insert key value table)) empty
  | _ => none

end Json

end Crosscheck
