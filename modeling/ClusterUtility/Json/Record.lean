/-
Records and named variants in JSON.

A record is an object whose members are its fields, or an array of its
fields in the order of their declaration. Members that name no field are
passed over; a field that is named twice is refused, and so are items
beyond the last field. A variant is its name alone, or an object with its
name as the only member.

A variant's own fields form a record too. Whether they may be given by
position depends on where the value comes from, which `Positions` says.
-/
import ClusterUtility.Json.Basic

namespace ClusterUtility.Json

/-- The fields of a record as they are given. -/
inductive Fields where
  | named (members : List (String × Json))
  | positional (items : List Json)

/-- A reader of some fields of a record; it takes those given by position
off the front. -/
abbrev FieldReader := StateT Fields Option

/-- The next field, of the given name; nothing where it is missing. -/
def nextField (name : String) : FieldReader (Option Json)
  | .named members =>
      match members.filter fun member => member.1 == name with
      | [] => some (none, .named members)
      | [(_, value)] => some (some value, .named members)
      | _ => none
  | .positional [] => some (none, .positional [])
  | .positional (item :: rest) => some (some item, .positional rest)

/-- A field that must be present. -/
def required {α : Type} (name : String) (read : Json → Option α) :
    FieldReader α := do
  match ← nextField name with
  | some value => fun fields => (read value).map fun a => (a, fields)
  | none => fun _ => none

/-- A field that takes a default where it is missing. -/
def withDefault {α : Type} (name : String) (missing : α)
    (read : Json → Option α) :
    FieldReader α := do
  match ← nextField name with
  | some value => fun fields => (read value).map fun a => (a, fields)
  | none => pure missing

/-- A field that is absent where it is missing or null. -/
def optional {α : Type} (name : String) (read : Json → Option α) :
    FieldReader (Option α) :=
  withDefault name none (option? read)

/-- A field that is absent where it is null or has no member, but that has to
be there where fields are given by position. -/
def nullable {α : Type} (name : String) (read : Json → Option α) :
    FieldReader (Option α) :=
  fun fields =>
    match fields with
    | .positional [] => none
    | _ => optional name read fields

/-- A flag, off where it is missing. -/
def flag (name : String) : FieldReader Bool :=
  withDefault name false bool?

/-- A list, empty where it is missing. -/
def listField {α : Type} (name : String) (read : Json → Option α) :
    FieldReader (List α) :=
  withDefault name [] (list? read)

/-- Reads all fields and refuses items beyond the last one. -/
def Fields.readAll {α : Type} (fields : Fields)
    (read : FieldReader α) : Option α :=
  match read fields with
  | some (a, .named _) => some a
  | some (a, .positional []) => some a
  | _ => none

/-- A record, by name or by position. -/
def record? {α : Type} (read : FieldReader α) : Json → Option α
  | .obj members => (Fields.named members).readAll read
  | .arr items => (Fields.positional items).readAll read
  | _ => none

/-- Whether the fields of a variant may be given by position: they may in a
text, they may not in a value that is already there. -/
inductive Positions where
  | allowed
  | refused
deriving DecidableEq, Repr

/-- The fields of a variant. -/
def variant? {α : Type} (positions : Positions) (read : FieldReader α)
    (j : Json) : Option α :=
  match positions, j with
  | .refused, .arr _ => none
  | _, _ => j.record? read

/-- The name of a variant with its content, if it has any. -/
def tagged? : Json → Option (String × Option Json)
  | .str name => some (name, none)
  | .obj [(name, content)] => some (name, some content)
  | _ => none

/-- A name written without content, or with null for content. -/
def bareName? (j : Json) : Option String :=
  match j.tagged? with
  | some (name, none) => some name
  | some (name, some .null) => some name
  | _ => none

/-- One of a list of values, by its name. -/
def oneOf? {α : Type} (all : List α) (name : α → String) (j : Json) :
    Option α := do
  let given ← j.bareName?
  all.find? fun a => name a == given

/-- A variant with content. -/
def tagWith (name : String) (content : Json) : Json :=
  .obj [(name, content)]

end ClusterUtility.Json
