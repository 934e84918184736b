/-
JSON values.

The order of an object's members, and a member given twice, are kept: what a
repeated name means is decided by whoever reads the value. Integers are kept
exact; a number that is no 64-bit integer is a `Binary64`.

# Unreadable parts

A text can follow the grammar and still write something that no value stands
for: half of a surrogate pair, a number that is too large, brackets that are
nested too deep. Such a part may be passed over, say as a member that nobody
asks for, but not read. It is `unreadable`, which every reader of plain
values refuses; a value without such parts is `Whole`.
-/
import ClusterUtility.Json.Binary64

namespace ClusterUtility

/-- A JSON value. -/
inductive Json where
  | null
  | bool (value : Bool)
  | int (value : Int)
  | real (value : Binary64)
  | str (value : String)
  | arr (items : List Json)
  | obj (members : List (String × Json))
  /-- A part that can only be passed over. -/
  | unreadable
deriving Inhabited

namespace Json

mutual

/-- The number of brackets that stand inside one another at most. -/
def depth : Json → Nat
  | .arr items => depthOfItems items + 1
  | .obj members => depthOfMembers members + 1
  | _ => 0

/-- The greatest depth among the items of an array. -/
def depthOfItems : List Json → Nat
  | [] => 0
  | item :: rest => max item.depth (depthOfItems rest)

/-- The greatest depth among the members of an object. -/
def depthOfMembers : List (String × Json) → Nat
  | [] => 0
  | (_, value) :: rest => max value.depth (depthOfMembers rest)

end

-- ====================================================== whole values

mutual

/-- Whether no part of a value is unreadable. -/
def isWhole : Json → Bool
  | .arr items => itemsAreWhole items
  | .obj members => membersAreWhole members
  | .unreadable => false
  | _ => true

/-- Whether no item has an unreadable part. -/
def itemsAreWhole : List Json → Bool
  | [] => true
  | item :: rest => item.isWhole && itemsAreWhole rest

/-- Whether no member's value has an unreadable part. -/
def membersAreWhole : List (String × Json) → Bool
  | [] => true
  | (_, value) :: rest => value.isWhole && membersAreWhole rest

end

/-- A value without unreadable parts. -/
abbrev Whole := { j : Json // j.isWhole = true }

/-- The value, if it has no unreadable part. -/
def whole? (j : Json) : Option Whole :=
  if h : j.isWhole = true then some ⟨j, h⟩ else none

/-- Taking a whole value as a value loses nothing. -/
theorem whole?_val (w : Whole) : whole? w.val = some w := by
  simp [whole?, w.property]

-- ================================================ writing plain values

/-- A present value by its writer, an absent one as null. -/
def ofOption {α : Type} (write : α → Json) : Option α → Json
  | none => .null
  | some value => write value

/-- A list as an array. -/
def ofList {α : Type} (write : α → Json) (values : List α) : Json :=
  .arr (values.map write)

/-- A list of texts as an array. -/
def ofTexts (values : List String) : Json :=
  ofList .str values

/-- A natural number. -/
def ofNat (n : Nat) : Json :=
  .int n

-- ================================================ reading plain values

/-- The text of a string value. -/
def string? : Json → Option String
  | .str value => some value
  | _ => none

/-- The truth value of a boolean. -/
def bool? : Json → Option Bool
  | .bool value => some value
  | _ => none

/-- An integer between two bounds, both allowed. -/
def intWithin? (low high : Int) : Json → Option Int
  | .int value => if low ≤ value ∧ value ≤ high then some value else none
  | _ => none

/-- An unsigned integer of 64 bits. -/
def nat64? (j : Json) : Option Nat :=
  (j.intWithin? 0 18446744073709551615).map Int.toNat

/-- A signed integer of 64 bits. -/
def int64? (j : Json) : Option Int64 :=
  (j.intWithin? (-9223372036854775808) 9223372036854775807).map Int64.ofInt

/-- A signed integer of 32 bits. -/
def int32? (j : Json) : Option Int :=
  j.intWithin? (-2147483648) 2147483647

/-- An array whose items are all read alike. -/
def list? {α : Type} (read : Json → Option α) : Json → Option (List α)
  | .arr items => items.mapM read
  | _ => none

/-- Null as absence, anything else as a value. -/
def option? {α : Type} (read : Json → Option α) : Json → Option (Option α)
  | .null => some none
  | value => (read value).map some

/-- An object whose members are all read alike; of a repeated name each
value is kept, in order. -/
def members? {α : Type} (read : Json → Option α) :
    Json → Option (List (String × α))
  | .obj members =>
      members.mapM fun (name, value) => (read value).map fun a => (name, a)
  | _ => none

end Json

end ClusterUtility
