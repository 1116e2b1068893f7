import Crosscheck.Catalog.ElementType
import Crosscheck.Error

/-!
# Crosscheck.Buffer

**Typed element buffers, as devices exchange them.** A buffer has a name, an element type and its
elements as words. `Buffer.ofWords` cuts the words to the type. In device memory every element takes
exactly the type's bytes, least significant byte first; `toBytes` and `ofBytes` are that image.
-/

namespace Crosscheck

/-- A named list of elements of one type. -/
structure Buffer where
  /-- The kernel parameter it stands for. -/
  name : String
  /-- The type of its elements. -/
  type : ElementType
  /-- Its elements. -/
  data : List Word
  deriving DecidableEq, Repr

/-- The shape of a buffer. -/
structure BufferSpec where
  /-- The kernel parameter it stands for. -/
  name : String
  /-- The type of its elements. -/
  type : ElementType
  /-- The number of its elements. -/
  length : Nat
  deriving DecidableEq, Repr

namespace Buffer

/-- A buffer of words, each cut to the element type. -/
def ofWords (name : String) (type : ElementType) (words : List Word) : Buffer :=
  ⟨name, type, words.map type.truncate⟩

/-- The number of elements. -/
def length (b : Buffer) : Nat := b.data.length

/-- The shape of the buffer. -/
def spec (b : Buffer) : BufferSpec := ⟨b.name, b.type, b.length⟩

/-- The `count` lowest bytes of a word, least significant first. -/
def wordBytes (count : Nat) (v : Word) : List UInt8 :=
  (List.range count).map fun i => UInt8.ofNat (v.toNat >>> (8 * i))

/-- The word of some bytes, least significant first. -/
def wordOfBytes (bytes : List UInt8) : Word :=
  BitVec.ofNat 64 (bytes.foldr (fun b acc => b.toNat + 256 * acc) 0)

/-- The image of the buffer in memory. -/
def toBytes (b : Buffer) : List UInt8 := b.data.flatMap (wordBytes b.type.bytes.toNat)

/-- Cuts a list into pieces of `size` elements; `count` is the number of pieces. -/
def pieces (size : Nat) : (count : Nat) → List α → List (List α)
  | 0, _ => []
  | count + 1, as => as.take size :: pieces size count (as.drop size)

/-- The buffer of an image in memory, which has to hold a whole number of elements. -/
def ofBytes (name : String) (type : ElementType) (bytes : List UInt8) :
    Except ExecutionFailure Buffer :=
  let width := type.bytes.toNat
  if width = 0 ∨ bytes.length % width ≠ 0 then
    .error (.driver (name ++ ": " ++ toString bytes.length ++ " byte(s) is not a whole number of "
      ++ toString width ++ "-byte elements"))
  else .ok ⟨name, type, (pieces width (bytes.length / width) bytes).map wordOfBytes⟩

@[simp] theorem length_ofWords (name : String) (type : ElementType) (words : List Word) :
    (ofWords name type words).length = words.length := by
  simp [ofWords, length]

/-- The elements at each of the indices below `count`, one list per index; columns that end early
are continued with zeros. -/
def rows : (count : Nat) → List (List Word) → List (List Word)
  | 0, _ => []
  | count + 1, columns =>
    columns.map (fun column => column.headD 0) :: rows count (columns.map List.tail)

@[simp] theorem length_rows (count : Nat) (columns : List (List Word)) :
    (rows count columns).length = count := by
  induction count generalizing columns with
  | zero => rfl
  | succ n ih => simp [rows, ih]

theorem getElem?_rows {count i : Nat} (h : i < count) (columns : List (List Word)) :
    (rows count columns)[i]? = some (columns.map fun column => column.getD i 0) := by
  induction count generalizing i columns with
  | zero => omega
  | succ n ih =>
    cases i with
    | zero =>
      simp only [rows, List.getElem?_cons_zero, Option.some.injEq]
      refine List.map_congr_left fun column _ => ?_
      cases column <;> simp
    | succ i =>
      simp only [rows, List.getElem?_cons_succ, ih (by omega : i < n), List.map_map,
        Option.some.injEq]
      refine List.map_congr_left fun column _ => ?_
      cases column <;> simp

end Buffer

/-- Checks the number of elements of a returned buffer. -/
def BufferSpec.check (spec : BufferSpec) (buffer : Buffer) : Except ExecutionFailure Unit :=
  if buffer.length = spec.length then .ok ()
  else .error (.outputShape spec.name spec.length buffer.length)

end Crosscheck
