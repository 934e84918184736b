/-
Reading back what was written as a record.

A writer gives each field as one member of an object, under its name. A reader
of fields that meets such an object looks for its members by their names and
leaves the object as it is, so it can be followed by any other reader of the
same object. `Takes` says what a reader takes from the members of an object;
what a chain of readers takes is put together field by field (`Takes.map`,
`Takes.seq`), whatever the order of the members.

The other way round, what a chain of readers took is taken apart field by field
(`map_eq_some`, `seq_eq_some`): each field that had to be there is a member of
the object.
-/
import ClusterUtility.Json.Record

namespace ClusterUtility.Json

variable {α β : Type} {members : List (String × Json)} {name : String}
  {value : Json} {read : Json → Option α} {write : α → Json}

-- ====================================================== members

/-- A name is given once among members, with a value. -/
def Gives (members : List (String × Json)) (name : String)
    (value : Json) : Prop :=
  (members.filter fun member => member.1 == name) = [(name, value)]

/-- A reader takes a value from the members of an object, and leaves them for
the next reader. -/
def Takes (reader : FieldReader α) (members : List (String × Json))
    (a : α) : Prop :=
  reader (.named members) = some (a, .named members)

/-- A member that is given once is found, and the object is left as it is. -/
private theorem nextField_of_gives (h : Gives members name value) :
    nextField name (.named members) = some (some value, .named members) := by
  unfold nextField
  dsimp only
  rw [h]

-- ==================================================== readers in a row

/-- A function of a field is taken with the field. -/
theorem Takes.map {reader : FieldReader α} {a : α} (f : α → β)
    (h : Takes reader members a) : Takes (f <$> reader) members (f a) := by
  show (reader (.named members)).bind (fun r => some (f r.1, r.2)) = _
  rw [h]
  rfl

/-- A field is taken after those before it, for they left the object as it
is. -/
theorem Takes.seq {first : FieldReader (α → β)} {second : FieldReader α}
    {f : α → β} {a : α} (hf : Takes first members f)
    (h : Takes second members a) : Takes (first <*> second) members (f a) := by
  show (first (.named members)).bind (fun r =>
    (second r.2).bind fun r' => some (r.1 r'.1, r'.2)) = _
  rw [hf]
  show (second (.named members)).bind _ = _
  rw [h]
  rfl

theorem Takes.pure (members : List (String × Json)) (a : α) :
    Takes (pure a : FieldReader α) members a := rfl

/-- A reader that depends on a field is followed with the field that was
taken. -/
theorem Takes.bind {first : FieldReader α} {next : α → FieldReader β} {a : α}
    {b : β} (h : Takes first members a) (hnext : Takes (next a) members b) :
    Takes (first >>= next) members b := by
  show (first (.named members)).bind (fun r => next r.1 r.2) = _
  rw [h]
  exact hnext

/-- A record is what its readers take from its members. -/
theorem record?_obj {reader : FieldReader α} {a : α}
    (h : Takes reader members a) :
    (Json.obj members).record? reader = some a := by
  unfold record? Fields.readAll
  dsimp only
  rw [h]

/-- The fields of a variant that are given by name are read wherever the value
comes from. -/
theorem variant?_obj {reader : FieldReader α} {a : α} (positions : Positions)
    (h : Takes reader members a) :
    (Json.obj members).variant? positions reader = some a := by
  cases positions <;> exact record?_obj h

-- ====================================================== single fields

/-- A field that must be there is taken where a member gives it. -/
theorem takes_required {a : α} (h : Gives members name value)
    (hread : read value = some a) : Takes (required name read) members a := by
  show (nextField name (.named members)).bind _ = _
  rw [nextField_of_gives h]
  show (read value).map _ = _
  rw [hread]
  rfl

/-- What is there does not take the default. -/
theorem takes_withDefault {missing a : α} (h : Gives members name value)
    (hread : read value = some a) :
    Takes (withDefault name missing read) members a := by
  show (nextField name (.named members)).bind _ = _
  rw [nextField_of_gives h]
  show (read value).map _ = _
  rw [hread]
  rfl

/-- Absence is written as null, and nothing else is. -/
theorem option?_ofOption (hread : ∀ a, read (write a) = some a)
    (hnull : ∀ a, write a ≠ .null) (a : Option α) :
    option? read (ofOption write a) = some a := by
  cases a with
  | none => rfl
  | some a =>
      show option? read (write a) = _
      unfold option?
      split
      next h => exact absurd h (hnull a)
      next => rw [hread]; rfl

/-- A field that may be missing is taken where a member gives it or is null. -/
theorem takes_optional {a : Option α}
    (h : Gives members name (ofOption write a))
    (hread : ∀ a, read (write a) = some a)
    (hnull : ∀ a, write a ≠ .null) : Takes (optional name read) members a :=
  takes_withDefault h (option?_ofOption hread hnull a)

/-- So is a field that is null where it is missing. -/
theorem takes_nullable {a : Option α}
    (h : Gives members name (ofOption write a))
    (hread : ∀ a, read (write a) = some a) (hnull : ∀ a, write a ≠ .null) :
    Takes (nullable name read) members a :=
  takes_optional h hread hnull

-- ====================================================== what was taken

/-- A function of a field was taken from the field. -/
theorem map_eq_some {f : α → β} {reader : FieldReader α} {fields left : Fields}
    {b : β} (h : (f <$> reader) fields = some (b, left)) :
    ∃ a, reader fields = some (a, left) ∧ f a = b := by
  obtain ⟨⟨a, left'⟩, ha, h⟩ := Option.bind_eq_some_iff.mp h
  obtain ⟨rfl, rfl⟩ := Prod.mk.inj (Option.some.inj h)
  exact ⟨a, ha, rfl⟩

/-- What two readers in a row take, the first one takes from all fields and the
second one from those that are left. -/
theorem seq_eq_some {first : FieldReader (α → β)} {second : FieldReader α}
    {fields left : Fields} {b : β}
    (h : (first <*> second) fields = some (b, left)) :
    ∃ f between a, first fields = some (f, between) ∧
      second between = some (a, left) ∧
      f a = b := by
  obtain ⟨⟨f, between⟩, hf, h⟩ := Option.bind_eq_some_iff.mp h
  obtain ⟨⟨a, left'⟩, ha, h⟩ := Option.bind_eq_some_iff.mp h
  obtain ⟨rfl, rfl⟩ := Prod.mk.inj (Option.some.inj h)
  exact ⟨f, between, a, hf, ha, rfl⟩

/-- A record that was read is what its readers took. -/
theorem readAll_eq_some {reader : FieldReader α} {fields : Fields} {a : α}
    (h : fields.readAll reader = some a) :
    ∃ left, reader fields = some (a, left) := by
  unfold Fields.readAll at h
  split at h
  next heq =>
    obtain rfl := Option.some.inj h
    exact ⟨_, heq⟩
  next heq =>
    obtain rfl := Option.some.inj h
    exact ⟨_, heq⟩
  next => cases h

/-- A required field is a member of the object. -/
theorem mem_of_required {a : α} {left : Fields}
    (h : required name read (.named members) = some (a, left)) :
    left = .named members ∧
      ∃ value, (name, value) ∈ members ∧ read value = some a := by
  obtain ⟨⟨field, between⟩, hfield, h⟩ := Option.bind_eq_some_iff.mp h
  unfold nextField at hfield
  dsimp only at hfield
  split at hfield
  next =>
    obtain ⟨rfl, rfl⟩ := Prod.mk.inj (Option.some.inj hfield)
    cases h
  next given value hgiven =>
    obtain ⟨rfl, rfl⟩ := Prod.mk.inj (Option.some.inj hfield)
    obtain ⟨a', ha, h⟩ := Option.map_eq_some_iff.mp h
    obtain ⟨rfl, rfl⟩ := Prod.mk.inj h
    have hfound : (given, value) ∈ members.filter fun member =>
        member.1 == name := by
      rw [hgiven]
      exact List.mem_singleton_self _
    obtain ⟨hmember, hname⟩ := List.mem_filter.mp hfound
    obtain rfl : given = name := eq_of_beq hname
    exact ⟨rfl, value, hmember, ha⟩
  next => cases hfield

-- ====================================================== lists

/-- A list is read back if each of its items is. -/
theorem list?_ofList {values : List α}
    (hread : ∀ a ∈ values, read (write a) = some a) :
    list? read (ofList write values) = some values := by
  show (values.map write).mapM read = some values
  induction values with
  | nil => rfl
  | cons a rest ih =>
      rw [List.map_cons, List.mapM_cons, hread a (List.mem_cons_self ..),
        ih fun b hb => hread b (List.mem_cons_of_mem _ hb)]
      rfl

/-- A list of texts is read back. -/
theorem list?_ofTexts (values : List String) :
    list? string? (ofTexts values) = some values :=
  list?_ofList fun _ _ => rfl

/-- What is read as a list is read item by item. -/
theorem isSome_of_mapM {read : α → Option β} {items : List α} {values : List β}
    (h : items.mapM read = some values) {item : α} (hitem : item ∈ items) :
    (read item).isSome = true := by
  induction items generalizing values with
  | nil => cases hitem
  | cons first rest ih =>
      rw [List.mapM_cons] at h
      obtain ⟨value, hvalue, h⟩ := Option.bind_eq_some_iff.mp h
      obtain ⟨values, hvalues, -⟩ := Option.bind_eq_some_iff.mp h
      cases hitem with
      | head => rw [hvalue]; rfl
      | tail _ hitem => exact ih hvalues hitem

-- ====================================================== numbers

/-- A number between the bounds is read. -/
private theorem intWithin?_int {low high n : Int} (hlow : low ≤ n)
    (hhigh : n ≤ high) : intWithin? low high (.int n) = some n :=
  if_pos ⟨hlow, hhigh⟩

/-- A natural number is read back if 64 bits are enough for it. -/
theorem nat64?_ofNat {n : Nat} (h : n < UInt64.size) :
    nat64? (ofNat n) = some n := by
  have hsize : UInt64.size = 18446744073709551616 := rfl
  have hwithin : intWithin? 0 18446744073709551615 (.int n) = some (n : Int) :=
    intWithin?_int (by omega) (by omega)
  show (intWithin? 0 18446744073709551615 (.int n)).map Int.toNat = some n
  rw [hwithin]
  rfl

/-- A number of 64 bits with a sign is read back. -/
theorem int64?_toInt (n : Int64) : int64? (.int n.toInt) = some n := by
  have hlow := n.le_toInt
  have hhigh := n.toInt_lt
  have hwithin :
      intWithin? (-9223372036854775808) 9223372036854775807 (.int n.toInt)
        = some n.toInt :=
    intWithin?_int (by omega) (by omega)
  show (intWithin? _ _ (.int n.toInt)).map Int64.ofInt = some n
  rw [hwithin]
  exact congrArg some (Int64.ofInt_toInt n)

end ClusterUtility.Json
