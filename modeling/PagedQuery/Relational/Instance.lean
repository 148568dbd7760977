import PagedQuery.Relational.Schema
import PagedQuery.Value.Order

/-!
# Objects of entities

An object is new, or it stands for a record of a table.  In the latter case it is
known by a label, found by the values of its key, and remembers what the record
held when it was read or written last; the values that differ from that are its
changes.
-/

namespace PagedQuery
namespace Relational

/-- What ties an object to a record. -/
structure Link where
  /-- The label by which the object is known. -/
  label : Nat
  /-- What the record held when it was read or written last. -/
  stored : Entries
  /-- The values of the key by which the object is found. -/
  key : List Value
  /-- The values that the key had when the object was first read. -/
  home : List Value
  /-- The object can be found by its key. -/
  attached : Bool := true
  /-- The values are read again before they are used. -/
  stale : Bool := false

/-- An object of an entity. -/
structure Instance where
  schema : Schema
  values : Entries
  /-- The tie to a record, unless the object is new. -/
  link : Option Link := none

/-- The values of several properties. -/
def valuesOf (names : List String) (values : Entries) : List Value :=
  names.map fun name => (values.lookup name).getD .null

namespace Instance

/-! ## Setting properties -/

/-- The names that every object has besides the properties of its entity.  What is
set under them is not kept. -/
def commonNames : List String :=
  ["metadata", "registry", "mro", "_sa_registry", "_sa_class_manager", "_is_protocol",
    "__tablename__", "__table__", "__mapper__", "__annotations__", "__base__", "__bases__",
    "__basicsize__", "__call__", "__class_getitem__", "__delattr__", "__dictoffset__",
    "__dir__", "__doc__", "__eq__", "__flags__", "__format__", "__ge__",
    "__getattribute__", "__getstate__", "__gt__", "__hash__", "__init__",
    "__init_subclass__", "__instancecheck__", "__itemsize__", "__le__", "__lt__",
    "__module__", "__mro__", "__name__", "__ne__", "__new__", "__or__", "__orig_bases__",
    "__parameters__", "__prepare__", "__qualname__", "__reduce__", "__reduce_ex__",
    "__repr__", "__ror__", "__setattr__", "__sizeof__", "__slots__", "__str__",
    "__subclasscheck__", "__subclasses__", "__subclasshook__", "__text_signature__",
    "__weakrefoffset__", Value.classAttribute, Value.allAttributes, "__weakref__"]

/-- The names that cannot be set to any value. -/
def fixedNames : List String := ["__weakref__", "_sa_instance_state"]

/-- The object with a property set.  Only properties of the entity are kept. -/
def assign (x : Instance) (name : String) (value : Value) : Except Failure Instance :=
  if name == Value.classAttribute || name == Value.allAttributes then .error .mismatch
  else if fixedNames.contains name then .error .lacking
  else if (x.schema.column? name).isSome then
    .ok { x with values := putEntry name value x.values }
  else .ok x

/-- The object with properties given when it is made; they must be known. -/
def fill (x : Instance) : Entries → Except Failure Instance
  | [] => .ok x
  | (name, value) :: rest =>
      if (x.schema.column? name).isSome || commonNames.contains name then
        match x.assign name value with
        | .ok x => x.fill rest
        | .error failure => .error failure
      else .error .mismatch

/-- A new object. -/
def create (s : Schema) (values : Entries) : Except Failure Instance := fill ⟨s, [], none⟩ values

/-! ## Reading and writing records -/

/-- The object that stands for a record, under a label. -/
def ofRecord (s : Schema) (r : Record) (label : Nat) : Instance where
  schema := s
  values := r.values
  link := some {
    label := label
    stored := r.values
    key := valuesOf s.key r.values
    home := valuesOf s.key r.values }

/-- The values of the object that differ from those of its record. -/
def changes (x : Instance) (l : Link) : Entries :=
  x.values.filter fun entry =>
    match l.stored.lookup entry.1 with
    | some old => !entry.2.agree old
    | none => true

/-- The object after its values were read from a record. -/
def reread (x : Instance) (r : Record) : Instance :=
  { x with
    values := r.values
    link := x.link.map fun l => { l with stored := r.values, stale := false } }

/-- The object after its changes were written. -/
def written (x : Instance) (l : Link) : Instance :=
  { x with link := some { l with stored := x.values, key := valuesOf x.schema.key x.values } }

/-- A new object after it was written as a record, under a label: the values that it
had stay as they are, and the record fills in the others. -/
def stored (x : Instance) (r : Record) (label : Nat) : Instance :=
  let values := r.values.map fun entry =>
    match x.values.lookup entry.1 with
    | none | some .null => entry
    | some value => (entry.1, value)
  let key := valuesOf x.schema.key values
  { x with
    values := values
    link := some { label := label, stored := values, key := key, home := key } }

/-- The object cannot be found any more. -/
def detached (x : Instance) : Instance :=
  { x with link := x.link.map fun l => { l with attached := false } }

/-- The object after all changes were taken back. -/
def returned (x : Instance) : Instance :=
  { x with link := x.link.map fun l => { l with key := l.home, attached := true, stale := true } }

/-! ## Finding objects -/

/-- The label by which the object is known. -/
def label? (x : Instance) : Option Nat := x.link.map (·.label)

/-- The object is found by the key of an entity. -/
def standsAt (x : Instance) (entity : String) (key : List Value) : Bool :=
  x.schema.entity == entity &&
    match x.link with
    | some l => l.attached && (Value.list l.key).agree (.list key)
    | none => false

/-- The properties of an object. -/
def view (x : Instance) : Value := .object x.values x.label?

end Instance

end Relational
end PagedQuery
