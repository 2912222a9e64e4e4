import Mathlib.Data.List.Basic
import Mathlib.Data.Option.Basic

namespace MandateLedger.Data

/-- `serde_json::Value`.  A number is kept as its text. -/
inductive JsonValue where
  | null
  | bool (value : Bool)
  | number (text : String)
  | string (value : String)
  | array (items : List JsonValue)
  | object (fields : List (String × JsonValue))

namespace JsonValue

def isNull : JsonValue → Bool
  | .null => true
  | _ => false

def asStr : JsonValue → Option String
  | .string value => some value
  | _ => none

def asObject : JsonValue → Option (List (String × JsonValue))
  | .object fields => some fields
  | _ => none

def asArray : JsonValue → Option (List JsonValue)
  | .array items => some items
  | _ => none

/-- An unsigned integer below a bound.  A number with a sign, a fraction or an exponent
is none. -/
def asUnsigned (size : Nat) : JsonValue → Option Nat
  | .number text =>
      let digits := text.toList
      if digits ≠ [] ∧ digits.all Char.isDigit = true ∧ Nat.ofDigitChars 10 digits 0 < size then
        some (Nat.ofDigitChars 10 digits 0)
      else none
  | _ => none

/-- The fields of a structure: an object has them by name, an array by position.  A
strict structure has no other fields; no array has more items than there are fields. -/
def asStruct (strict : Bool) (names : List String) :
    JsonValue → Option (String → Option JsonValue)
  | .object fields =>
      if strict = true ∧ ∃ field ∈ fields, field.1 ∉ names then none
      else some fun name => fields.lookup name
  | .array items =>
      if names.length < items.length then none else some fun name => items[names.idxOf name]?
  | _ => none

def optional {α : Type} (read : JsonValue → Option α) : Option JsonValue → Option (Option α)
  | none | some .null => some none
  | some value => (read value).map some

variable {Double : Type} {double : String → Double}

/-- The documents are the same up to the order of keys and the rounding of numbers. -/
inductive Alike (double : String → Double) : JsonValue → JsonValue → Prop where
  | null : Alike double .null .null
  | bool (value : Bool) : Alike double (.bool value) (.bool value)
  | number {first second : String} (rounded : double first = double second) :
      Alike double (.number first) (.number second)
  | string (value : String) : Alike double (.string value) (.string value)
  | array {items others : List JsonValue} (lengths : items.length = others.length)
      (pointwise : ∀ {place : Nat} {item other : JsonValue}, items[place]? = some item →
        others[place]? = some other → Alike double item other) :
      Alike double (.array items) (.array others)
  | object {fields others : List (String × JsonValue)}
      (keys : ∀ key, (fields.lookup key).isSome = (others.lookup key).isSome)
      (pointwise : ∀ {key : String} {value other : JsonValue}, fields.lookup key = some value →
        others.lookup key = some other → Alike double value other) :
      Alike double (.object fields) (.object others)

theorem Alike.asStr_eq {first second : JsonValue} (alike : Alike double first second) :
    first.asStr = second.asStr := by
  cases alike <;> rfl

theorem rel_of_isSome {first second : Option JsonValue} (together : first.isSome = second.isSome)
    (related : ∀ {value other}, first = some value → second = some other →
      Alike double value other) :
    Option.Rel (Alike double) first second := by
  cases first with
  | none =>
      cases second with
      | none => exact .none
      | some other => cases together
  | some value =>
      cases second with
      | none => cases together
      | some other => exact .some (related rfl rfl)

theorem isSome_eq_of_rel {first second : Option JsonValue}
    (related : Option.Rel (Alike double) first second) : first.isSome = second.isSome := by
  cases related <;> rfl

theorem Alike.object_lookup {fields others : List (String × JsonValue)}
    (alike : Alike double (.object fields) (.object others)) (key : String) :
    Option.Rel (Alike double) (fields.lookup key) (others.lookup key) := by
  cases alike with
  | object keys pointwise => exact rel_of_isSome (keys key) pointwise

theorem Alike.array_length {items others : List JsonValue}
    (alike : Alike double (.array items) (.array others)) : items.length = others.length := by
  cases alike with
  | array lengths pointwise => exact lengths

/-- Structures read from documents that are alike have fields that are alike. -/
theorem Alike.asStruct_rel {first second : JsonValue} {strict : Bool} {names : List String}
    {fields others : String → Option JsonValue} (alike : Alike double first second)
    (read : first.asStruct strict names = some fields)
    (reread : second.asStruct strict names = some others) (name : String) :
    Option.Rel (Alike double) (fields name) (others name) := by
  cases alike with
  | object keys pointwise =>
      simp only [JsonValue.asStruct, Option.ite_none_left_eq_some, Option.some.injEq] at read reread
      obtain ⟨-, rfl⟩ := read
      obtain ⟨-, rfl⟩ := reread
      exact rel_of_isSome (keys name) pointwise
  | array lengths pointwise =>
      simp only [JsonValue.asStruct, Option.ite_none_left_eq_some, Option.some.injEq] at read reread
      obtain ⟨-, rfl⟩ := read
      obtain ⟨-, rfl⟩ := reread
      exact rel_of_isSome (by grind) pointwise
  | _ => cases read

theorem text_eq_of_rel {first second : Option JsonValue}
    (related : Option.Rel (Alike double) first second) :
    first.bind asStr = second.bind asStr := by
  cases related with
  | none => rfl
  | some alike => exact alike.asStr_eq

theorem Alike.object_text {fields others : List (String × JsonValue)}
    (alike : Alike double (.object fields) (.object others)) (key : String) :
    (fields.lookup key).bind asStr = (others.lookup key).bind asStr :=
  text_eq_of_rel (alike.object_lookup key)

/-- Objects with the same keys in the same order are compared value by value. -/
theorem Alike.object_of_forall₂ {fields others : List (String × JsonValue)}
    (related : List.Forall₂ (fun field other => field.1 = other.1 ∧ Alike double field.2 other.2)
      fields others) : Alike double (.object fields) (.object others) := by
  have lookups : ∀ key, Option.Rel (Alike double) (fields.lookup key) (others.lookup key) := by
    intro key
    induction related with
    | nil => exact .none
    | @cons field other _ _ here _ ih =>
        obtain ⟨name, value⟩ := field
        obtain ⟨_, held⟩ := other
        obtain ⟨rfl, alike⟩ := here
        simp only [List.lookup_cons]
        split
        · exact .some alike
        · exact ih
  refine .object ?_ ?_
  · intro key
    exact isSome_eq_of_rel (lookups key)
  · intro key value other found held
    have alike := lookups key
    rw [found, held, Option.rel_some_some] at alike
    exact alike

end JsonValue

end MandateLedger.Data
