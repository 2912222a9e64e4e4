import Mathlib.Data.List.Basic

namespace MandateLedger.Data

inductive Json (Leaf : Type) where
  | null
  | number (value : Int)
  | text (value : String)
  | leaf (value : Leaf)
  | array (items : List (Json Leaf))
  | object (fields : List (String × Json Leaf))

namespace Json

variable {Leaf α : Type}

/-- A field of an object.  One that is missing reads as `null`, which only an option
accepts. -/
def get (json : Json Leaf) (name : String) (read : Json Leaf → Option α) : Option α :=
  match json with
  | .object fields => read ((fields.lookup name).getD .null)
  | _ => none

@[simp] theorem get_object (fields : List (String × Json Leaf)) (name : String)
    (read : Json Leaf → Option α) :
    (Json.object fields).get name read = read ((fields.lookup name).getD .null) := rfl

/-- Text that is checked when it is read. -/
def readText (parse : String → Option α) : Json Leaf → Option α
  | .text value => parse value
  | _ => none

@[simp] theorem readText_text (parse : String → Option α) (value : String) :
    readText parse (.text value : Json Leaf) = parse value := rfl

def readNumber (convert : Int → Option α) : Json Leaf → Option α
  | .number value => convert value
  | _ => none

@[simp] theorem readNumber_number (convert : Int → Option α) (value : Int) :
    readNumber convert (.number value : Json Leaf) = convert value := rfl

def readLeaf (convert : Leaf → Option α) : Json Leaf → Option α
  | .leaf value => convert value
  | _ => none

@[simp] theorem readLeaf_leaf (convert : Leaf → Option α) (value : Leaf) :
    readLeaf convert (.leaf value) = convert value := rfl

def ofOption (write : α → Json Leaf) : Option α → Json Leaf
  | none => .null
  | some value => write value

def readOption (read : Json Leaf → Option α) : Json Leaf → Option (Option α)
  | .null => some none
  | json => (read json).map some

/-- An option is read back if its value is, and is not written as `null`. -/
theorem readOption_ofOption {write : α → Json Leaf} {read : Json Leaf → Option α}
    (value : Option α) (kept : ∀ item, value = some item → read (write item) = some item)
    (present : ∀ item, value = some item → write item ≠ .null) :
    readOption read (ofOption write value) = some value := by
  cases value with
  | none => rfl
  | some item =>
      have some_read := kept item rfl
      have not_null := present item rfl
      unfold ofOption readOption
      split
      · next null => exact absurd null not_null
      · rw [some_read]
        rfl

def ofList (write : α → Json Leaf) (items : List α) : Json Leaf := .array (items.map write)

def readList (read : Json Leaf → Option α) : Json Leaf → Option (List α)
  | .array items => items.mapM read
  | _ => none

theorem readList_ofList {write : α → Json Leaf} {read : Json Leaf → Option α} (items : List α)
    (kept : ∀ item ∈ items, read (write item) = some item) :
    readList read (ofList write items) = some items := by
  unfold ofList readList
  induction items with
  | nil => rfl
  | cons first rest ih =>
      have head := kept first List.mem_cons_self
      have tail := ih fun item listed => kept item (List.mem_cons_of_mem _ listed)
      simp only [List.map_cons, List.mapM_cons, head, tail]
      rfl

end Json

end MandateLedger.Data
