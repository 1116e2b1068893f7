import Crosscheck.Json.Reader
import Crosscheck.Proofs.Json.Token

/-!
# Crosscheck.Proofs.Json.RoundTrip

**Written JSON is read again.** A value without halves of surrogate pairs is printed as its tokens
(`Json.Textual.writes_render`), on one line or on many, and is parsed back from them
(`Json.Textual.readsBack`), whatever follows. Together: `Json.ofText?_render`.
-/

namespace Crosscheck.Json

open JsonToken

/-! ### The tokens of a value -/

mutual

/-- The tokens of a value. -/
def tokens : Json → List JsonToken
  | null => [.null]
  | bool b => [.bool b]
  | number n => [.number n]
  | text s => [.text s]
  | array items => .openArray :: itemTokens items ++ [.closeArray]
  | object members => .openObject :: memberTokens members ++ [.closeObject]

/-- The tokens of the items of an array. -/
def itemTokens : List Json → List JsonToken
  | [] => []
  | [item] => tokens item
  | item :: items => tokens item ++ .comma :: itemTokens items

/-- The tokens of the members of an object. -/
def memberTokens : List (Option String × Json) → List JsonToken
  | [] => []
  | [(key, value)] => .text key :: .colon :: tokens value
  | (key, value) :: members => .text key :: .colon :: tokens value ++ .comma :: memberTokens members

end

theorem itemTokens_cons_cons (item next : Json) (items : List Json) :
    itemTokens (item :: next :: items) = item.tokens ++ .comma :: itemTokens (next :: items) := by
  rw [itemTokens]
  nofun

theorem memberTokens_cons_cons (key : Option String) (value : Json)
    (next : Option String × Json) (members : List (Option String × Json)) :
    memberTokens ((key, value) :: next :: members) =
      .text key :: .colon :: value.tokens ++ .comma :: memberTokens (next :: members) := by
  rw [memberTokens]
  nofun

/-- All strings in a value are texts. -/
inductive Textual : Json → Prop
  | null : Textual null
  | bool (b : Bool) : Textual (bool b)
  | number (n : JsonNumber) : Textual (number n)
  | text (s : String) : Textual (ofString s)
  | array {items : List Json} : (∀ item ∈ items, Textual item) → Textual (array items)
  | object {members : List (Option String × Json)} :
      (∀ member ∈ members, member.1.isSome = true) → (∀ member ∈ members, Textual member.2) →
      Textual (object members)

theorem Textual.ofFields {fields : List (String × Json)} (h : ∀ field ∈ fields, Textual field.2) :
    Textual (ofFields fields) := by
  refine .object (fun member hmember => ?_) (fun member hmember => ?_) <;>
    obtain ⟨field, hfield, rfl⟩ := List.mem_map.1 hmember
  · rfl
  · exact h field hfield

theorem Textual.array_map {α : Type} {write : α → Json} (h : ∀ a, (write a).Textual)
    (as : List α) : Textual (Json.array (as.map write)) := by
  refine .array fun item hitem => ?_
  obtain ⟨a, -, rfl⟩ := List.mem_map.1 hitem
  exact h a

/-! ### Parsing -/

/-- A value is read from its tokens, whatever follows them. -/
def ReadsBack (j : Json) : Prop :=
  ∀ fuel rest, j.tokens.length ≤ fuel → value? fuel (j.tokens ++ rest) = some (j, rest)

theorem head?_tokens (j : Json) (rest : List JsonToken) :
    (j.tokens ++ rest).head? ≠ some .closeArray := by
  cases j <;> simp [tokens]

theorem head?_itemTokens (item : Json) (items : List Json) (rest : List JsonToken) :
    (itemTokens (item :: items) ++ rest).head? ≠ some .closeArray := by
  cases items with
  | nil => exact head?_tokens item _
  | cons next items =>
      rw [itemTokens_cons_cons, List.append_assoc]
      exact head?_tokens item _

theorem value?_openArray {fuel : Nat} {ts : List JsonToken} (h : ts.head? ≠ some .closeArray) :
    value? (fuel + 1) (.openArray :: ts) = (items? fuel ts).map fun p => (array p.1, p.2) := by
  rw [value?]
  rintro rest rfl
  exact h rfl

/-- Items are read one after the other, each up to the comma or the bracket behind it. -/
theorem items?_tokens {item : Json} {items : List Json} (h : ∀ j ∈ item :: items, j.ReadsBack)
    (fuel : Nat) (hfuel : (itemTokens (item :: items)).length ≤ fuel) (rest : List JsonToken) :
    items? (fuel + 1) (itemTokens (item :: items) ++ .closeArray :: rest) =
      some (item :: items, rest) := by
  have hitem := h item List.mem_cons_self fuel
  induction items generalizing item fuel with
  | nil =>
      rw [itemTokens] at hfuel ⊢
      simp [items?, hitem _ hfuel]
  | cons next items ih =>
      simp only [itemTokens_cons_cons, List.length_append, List.length_cons] at hfuel
      obtain ⟨fuel, rfl⟩ := Nat.exists_eq_add_one_of_ne_zero (n := fuel) (by omega)
      have hnext := ih (fun j hj => h j (List.mem_cons_of_mem _ hj)) fuel (by omega)
        (h next (by simp) fuel)
      rw [itemTokens_cons_cons, List.append_assoc, items?, hitem _ (by omega)]
      simp [hnext]

theorem readsBack_array {items : List Json} (h : ∀ item ∈ items, item.ReadsBack) :
    (array items).ReadsBack := by
  intro fuel rest hfuel
  cases items with
  | nil =>
      obtain ⟨fuel, rfl⟩ := Nat.exists_eq_add_one_of_ne_zero (Nat.ne_zero_of_lt hfuel)
      simp [tokens, itemTokens, value?]
  | cons item items =>
      rw [tokens, List.length_append, List.length_cons, List.length_singleton] at hfuel
      obtain ⟨fuel, rfl⟩ := Nat.exists_eq_add_of_le' (m := 2) (n := fuel) (by omega)
      rw [tokens, List.cons_append, List.cons_append, List.append_assoc, List.singleton_append,
        value?_openArray (head?_itemTokens item items _), items?_tokens h fuel (by omega) rest]
      rfl

theorem members?_tokens {key : Option String} {value : Json}
    {members : List (Option String × Json)} (h : ∀ m ∈ (key, value) :: members, m.2.ReadsBack)
    (fuel : Nat) (hfuel : (memberTokens ((key, value) :: members)).length ≤ fuel)
    (rest : List JsonToken) :
    members? (fuel + 1) (memberTokens ((key, value) :: members) ++ .closeObject :: rest) =
      some ((key, value) :: members, rest) := by
  have hvalue : value.ReadsBack := h (key, value) List.mem_cons_self
  induction members generalizing key value fuel with
  | nil =>
      simp only [memberTokens, List.length_cons] at hfuel
      simp [memberTokens, members?, hvalue fuel _ (by omega)]
  | cons next members ih =>
      obtain ⟨nextKey, nextValue⟩ := next
      simp only [memberTokens_cons_cons, List.length_append, List.length_cons] at hfuel
      obtain ⟨fuel, rfl⟩ := Nat.exists_eq_add_one_of_ne_zero (n := fuel) (by omega)
      have hnext := ih (fun m hm => h m (List.mem_cons_of_mem _ hm)) fuel (by omega)
        (h (nextKey, nextValue) (by simp))
      simp only [memberTokens_cons_cons, List.cons_append, List.append_assoc]
      rw [members?, hvalue _ _ (by omega)]
      simp [hnext]

theorem readsBack_object {members : List (Option String × Json)}
    (h : ∀ member ∈ members, member.2.ReadsBack) : (object members).ReadsBack := by
  intro fuel rest hfuel
  cases members with
  | nil =>
      obtain ⟨fuel, rfl⟩ := Nat.exists_eq_add_one_of_ne_zero (Nat.ne_zero_of_lt hfuel)
      simp [tokens, memberTokens, value?]
  | cons member members =>
      obtain ⟨key, value⟩ := member
      rw [tokens, List.length_append, List.length_cons, List.length_singleton] at hfuel
      obtain ⟨fuel, rfl⟩ := Nat.exists_eq_add_of_le' (m := 2) (n := fuel) (by omega)
      have hmembers := members?_tokens h fuel (by omega) rest
      rw [tokens, List.cons_append, List.cons_append, List.append_assoc, List.singleton_append,
        value?]
      · rw [hmembers]
        rfl
      · cases members <;> simp [memberTokens]

theorem Textual.readsBack {j : Json} (h : j.Textual) : j.ReadsBack := by
  induction h with
  | array _ ih => exact readsBack_array ih
  | object _ _ ih => exact readsBack_object ih
  | _ =>
      intro fuel rest hfuel
      obtain ⟨fuel, rfl⟩ := Nat.exists_eq_add_one_of_ne_zero (Nat.ne_zero_of_lt hfuel)
      simp [tokens, value?, ofString]

/-! ### Printing -/

variable {lines : Bool} {depth : Nat} {before : List Char}

/-- With and without lines of their own, items have blanks before them and at the end. -/
theorem bracketed_eq (lines : Bool) (depth : Nat) (first last : Char) (items : List (List Char)) :
    ∃ before after, (∀ c ∈ before, isBlank c = true) ∧ (∀ c ∈ after, isBlank c = true) ∧
      bracketed lines depth first last items =
        first :: ([','].intercalate (items.map (before ++ ·)) ++ (after ++ [last])) := by
  have hstart : ∀ depth, ∀ c ∈ lineStart depth, isBlank c = true := by
    intro depth c hc
    rcases List.mem_cons.1 hc with rfl | hc
    · rfl
    · rw [List.eq_of_mem_replicate hc]
      rfl
  cases items with
  | nil => exact ⟨[], [], nofun, nofun, rfl⟩
  | cons item items =>
      cases lines with
      | true =>
          refine ⟨lineStart (depth + 1), lineStart depth, hstart _, hstart _, ?_⟩
          simp [bracketed]
      | false =>
          refine ⟨[], [], nofun, nofun, ?_⟩
          simp [bracketed]

theorem writes_bracketed {texts : List (List Char)} {ts : List JsonToken} {first last : Char}
    {opening closing : JsonToken}
    (hfirst : isBlank first = false ∧ ∀ rest, next? (first :: rest) = some (opening, rest))
    (hlast : isBlank last = false ∧ ∀ rest, next? (last :: rest) = some (closing, rest))
    (hstops : continuesNumber last = false)
    (h : ∀ before : List Char, (∀ c ∈ before, isBlank c = true) →
      Writes ([','].intercalate (texts.map (before ++ ·))) ts) :
    Writes (bracketed lines depth first last texts) (opening :: ts ++ [closing]) := by
  obtain ⟨before, after, hbefore, hafter, heq⟩ := bracketed_eq lines depth first last texts
  rw [heq]
  refine .mark hfirst.1 hfirst.2 ((h before hbefore).append ?_ fun rest _ => ?_)
  · exact (Writes.nil.mark hlast.1 hlast.2).after_blanks hafter
  · rw [List.append_assoc]
    exact stops_blanks hafter (stops_cons hstops _)

theorem writes_items {items : List Json} (hbefore : ∀ c ∈ before, isBlank c = true)
    (h : ∀ item ∈ items, Writes (render lines depth item) item.tokens) :
    Writes ([','].intercalate ((renderItems lines depth items).map (before ++ ·)))
      (itemTokens items) := by
  induction items with
  | nil => exact .nil
  | cons item items ih =>
      have hitem := (h item List.mem_cons_self).after_blanks hbefore
      have hitems := ih fun j hj => h j (List.mem_cons_of_mem _ hj)
      cases items with
      | nil => simpa [renderItems, itemTokens] using hitem
      | cons next items =>
          rw [itemTokens_cons_cons]
          simpa [renderItems] using hitem.comma hitems

theorem writes_member {value : Json} (key : String)
    (h : Writes (render lines depth value) value.tokens) :
    Writes (quoted key.toList ++ (if lines then [':', ' '] else [':']) ++ render lines depth value)
      (.text (some key) :: .colon :: value.tokens) := by
  rw [List.append_assoc, ← List.singleton_append]
  refine (Writes.quoted key).append ?_ fun rest _ => ?_
  · cases lines with
    | true =>
        have hblank : ∀ c ∈ [' '], isBlank c = true := List.forall_mem_singleton.2 rfl
        exact (h.after_blanks hblank).mark rfl fun _ => rfl
    | false => exact h.mark rfl fun _ => rfl
  · cases lines <;> exact stops_cons rfl _

theorem writes_members {members : List (Option String × Json)}
    (hbefore : ∀ c ∈ before, isBlank c = true) (hkeys : ∀ member ∈ members, member.1.isSome = true)
    (h : ∀ member ∈ members, Writes (render lines depth member.2) member.2.tokens) :
    Writes ([','].intercalate ((renderMembers lines depth members).map (before ++ ·)))
      (memberTokens members) := by
  induction members with
  | nil => exact .nil
  | cons member members ih =>
      obtain ⟨key, value⟩ := member
      obtain ⟨key, rfl⟩ := Option.isSome_iff_exists.1 (hkeys (key, value) List.mem_cons_self)
      have hvalue := h (some key, value) List.mem_cons_self
      have hmember := (writes_member key hvalue).after_blanks hbefore
      have hmembers := ih (fun j hj => hkeys j (List.mem_cons_of_mem _ hj))
        fun j hj => h j (List.mem_cons_of_mem _ hj)
      cases members with
      | nil => simpa [renderMembers, memberTokens] using hmember
      | cons next members =>
          obtain ⟨nextKey, nextValue⟩ := next
          rw [memberTokens_cons_cons]
          simpa [renderMembers] using hmember.comma hmembers

/-- A value is printed as its tokens. -/
theorem Textual.writes_render {j : Json} (h : j.Textual) (lines : Bool) (depth : Nat) :
    Writes (render lines depth j) j.tokens := by
  induction h generalizing depth with
  | null => exact .token rfl fun _ _ => rfl
  | bool b => cases b <;> exact .token rfl fun _ _ => rfl
  | number n => exact .numberText n
  | text s => exact .quoted s
  | array _ ih =>
      refine writes_bracketed ⟨rfl, fun _ => rfl⟩ ⟨rfl, fun _ => rfl⟩ rfl fun before hbefore => ?_
      exact writes_items hbefore fun item hitem => ih item hitem (depth + 1)
  | object hkeys _ ih =>
      refine writes_bracketed ⟨rfl, fun _ => rfl⟩ ⟨rfl, fun _ => rfl⟩ rfl fun before hbefore => ?_
      exact writes_members hbefore hkeys fun member hmember => ih member hmember (depth + 1)

/-- Every printed value is read back, whatever blanks follow. -/
theorem ofText?_render {j : Json} (h : j.Textual) (lines : Bool) {blanks : List Char}
    (hblanks : ∀ c ∈ blanks, isBlank c = true) :
    ofText? (String.ofList (render lines 0 j ++ blanks)) = some j := by
  have hblank : Spells blanks [] := by
    simpa using Writes.nil.after_blanks hblanks [] [] stops_nil .nil
  have hstops : Stops blanks := by simpa using stops_blanks hblanks stops_nil
  have htokens : Spells (render lines 0 j ++ blanks) j.tokens := by
    simpa using h.writes_render lines 0 blanks [] hstops hblank
  have hscan := htokens.scan? (Nat.lt_succ_of_le htokens.length_le)
  have hread := h.readsBack (2 * j.tokens.length + 1) [] (by omega)
  rw [List.append_nil] at hread
  rw [ofText?, JsonToken.ofText?, String.toList_ofList, String.length_ofList, hscan]
  simp [ofTokens?, hread]

end Crosscheck.Json
