import ThermalPress.Number.Decimal

/-!
# JSON values

The values of configuration files and request bodies.  Whole numbers and binary numbers are told apart, and the
members of an object keep their order.  `Json.put` writes a member in place or at the end, so that reading members
one after another leaves each name once, with its last value (`Json.ofMembers`).
-/

namespace ThermalPress

/-- A JSON value. -/
inductive Json where
  | null
  | bool (b : Bool)
  | int (n : Int)
  | real (x : Binary64)
  | str (s : String)
  | arr (items : List Json)
  | obj (members : List (String × Json))
  deriving Repr, Inhabited

/-- Named values in the order in which the names came. -/
abbrev Members (α : Type) := List (String × α)

namespace Members

variable {α : Type}

/-- The value of a name. -/
def find? (members : Members α) (name : String) : Option α := members.lookup name

/-- Gives a name a value: in its place if the name is there, at the end otherwise. -/
def put (members : Members α) (name : String) (value : α) : Members α :=
  match members with
  | [] => [(name, value)]
  | (other, old) :: rest => if other = name then (name, value) :: rest else (other, old) :: put rest name value

/-- Gives names their values one after another. -/
def putAll (members more : Members α) : Members α := more.foldl (fun all (name, value) => all.put name value) members

theorem find?_put (members : Members α) (name other : String) (value : α) :
    (members.put name value).find? other = if other = name then some value else members.find? other := by
  induction members with
  | nil => simp only [put, find?, List.lookup_cons, List.lookup_nil]; split <;> simp_all
  | cons pair rest ih =>
    obtain ⟨key, old⟩ := pair
    simp only [find?] at ih
    simp only [put]
    split
    · next h =>
      subst h
      by_cases h : other = key
      · simp [find?, h]
      · simp [find?, List.lookup_cons, h, beq_eq_false_iff_ne.2 h]
    · next h =>
      by_cases h' : other = key
      · subst h'; simp [find?, h]
      · simp only [find?, List.lookup_cons, beq_eq_false_iff_ne.2 h', ih]

end Members

namespace Json

-- The parts of a value are compared side by side: a derived comparison goes through a function that no proof can open.
mutual

/-- Whether two values are the same. -/
def same : Json → Json → Bool
  | .null, .null => true
  | .bool a, .bool b => a == b
  | .int n, .int m => n == m
  | .real x, .real y => x == y
  | .str s, .str t => s == t
  | .arr xs, .arr ys => sameItems xs ys
  | .obj xs, .obj ys => sameMembers xs ys
  | _, _ => false

/-- Whether two lists hold the same values. -/
def sameItems : List Json → List Json → Bool
  | [], [] => true
  | x :: xs, y :: ys => same x y && sameItems xs ys
  | _, _ => false

/-- Whether two lists hold the same values under the same names. -/
def sameMembers : List (String × Json) → List (String × Json) → Bool
  | [], [] => true
  | (name, x) :: xs, (other, y) :: ys => name == other && same x y && sameMembers xs ys
  | _, _ => false

end

mutual

theorem same_iff : ∀ x y : Json, same x y = true ↔ x = y
  | .null, y | .bool _, y | .int _, y | .real _, y | .str _, y => by cases y <;> simp [same]
  | .arr xs, y => by cases y <;> simp [same, sameItems_iff xs]
  | .obj xs, y => by cases y <;> simp [same, sameMembers_iff xs]

theorem sameItems_iff : ∀ xs ys : List Json, sameItems xs ys = true ↔ xs = ys
  | [], ys => by cases ys <;> simp [sameItems]
  | x :: xs, ys => by cases ys <;> simp [sameItems, same_iff x, sameItems_iff xs]

theorem sameMembers_iff : ∀ xs ys : List (String × Json), sameMembers xs ys = true ↔ xs = ys
  | [], ys => by cases ys <;> simp [sameMembers]
  | (name, x) :: xs, ys => by
    cases ys <;> simp [sameMembers, same_iff x, sameMembers_iff xs, Prod.ext_iff, and_assoc]

end

instance : DecidableEq Json := fun x y => decidable_of_iff _ (same_iff x y)

/-- The word for the kind of a value. -/
def kindName : Json → String
  | .null => "NoneType"
  | .bool _ => "bool"
  | .int _ => "int"
  | .real _ => "float"
  | .str _ => "str"
  | .arr _ => "list"
  | .obj _ => "dict"

/-- Whether a value counts as nothing: null, false, zero, or an empty text, list or object. -/
def isEmptyValue : Json → Bool
  | .null | .bool false | .int 0 | .str "" | .arr [] | .obj [] => true
  | .real x => x.isZero
  | _ => false

/-- The members of an object; other values have none. -/
def members : Json → Members Json
  | .obj members => members
  | _ => []

/-- The parts of a list; other values have none. -/
def items : Json → List Json
  | .arr items => items
  | _ => []

/-- The value of a member. -/
def member? (value : Json) (name : String) : Option Json := Members.find? value.members name

/-- The value, if it is a text. -/
def text? : Json → Option String
  | .str s => some s
  | _ => none

/-- The value, if it is a whole number. -/
def int? : Json → Option Int
  | .int n => some n
  | _ => none

/-- An object from its members as written, each name once with its last value. -/
def ofMembers (members : Members Json) : Json := .obj (Members.putAll [] members)

end Json

end ThermalPress
