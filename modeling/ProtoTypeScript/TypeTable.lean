import ProtoTypeScript.Descriptor
import ProtoTypeScript.Error
import ProtoTypeScript.TypeName

/-!
# The table of types

Every enum and message of a request is recorded under its qualified name before any code is
generated, so that a reference may lead to a later declaration or a later file.

* `FileDescriptor.declarations` lists what a file declares: its enums, then its messages, each
  followed by the enums and the messages inside it;
* `TypeTable.register` records that list up to the first malformed map entry, if there is one;
* `TypeTable.find?` gives the latest record of a name, and `TypeTable.resolve` is the lookup of a
  reference;
* `TypeTable.reexportsOf` gives the dependencies that a file exports again.
-/

namespace ProtoTypeScript

/-! ### Records -/

/-- What a recorded name stands for. -/
inductive TypeKind
  | message
  /-- The entries of a map field, with the fields of key and value. -/
  | mapEntry (key value : FieldDescriptor)
  /-- An enum, with the name of its first value if that value is zero. -/
  | enumeration (zeroValue : Option String)
  deriving DecidableEq, Repr

/-- A recorded type: its name and where it is declared. -/
structure TypeRecord where
  name : TypeName
  file : String
  package : String
  /-- The names of the enclosing messages, then that of the type. -/
  path : List String
  kind : TypeKind
  deriving DecidableEq, Repr

/-- The record of a type declared inside the messages of `path`. -/
def TypeRecord.of (file package : String) (path : List String) (name : String) (kind : TypeKind) :
    TypeRecord where
  name := .qualified package path name
  file := file
  package := package
  path := path ++ [name]
  kind := kind

/-- The kind of an enum. -/
def EnumDescriptor.kind (e : EnumDescriptor) : TypeKind :=
  .enumeration (match e.values with
    | [] => none
    | first :: _ => if first.number = 0 then some first.name else none)

/-- The kind of a message that stands for map entries; it has a scalar key and a value. -/
def MessageDescriptor.entryKind (name : TypeName) (fields : List FieldDescriptor) :
    Except Error TypeKind :=
  match fields with
  | [key, value] =>
    if key.name = "key" ∧ value.name = "value" ∧ key.valueType.scalar?.isSome then
      .ok (.mapEntry key value)
    else .error (.malformedMapEntry name.text)
  | _ => .error (.malformedMapEntry name.text)

/-! ### Declared types -/

mutual

/-- The types that a message declares: itself, the enums and then the messages inside it. -/
def MessageDescriptor.declarations (file package : String) (path : List String) :
    MessageDescriptor → List (Except Error TypeRecord)
  | ⟨name, fields, nested, enums, _, _, mapEntry⟩ =>
    let kind :=
      if mapEntry then MessageDescriptor.entryKind (.qualified package path name) fields
      else .ok .message
    kind.map (TypeRecord.of file package path name) ::
      (enums.map fun e => .ok (TypeRecord.of file package (path ++ [name]) e.name e.kind)) ++
      MessageDescriptor.listDeclarations file package (path ++ [name]) nested

/-- The types that messages declare, one message after the other. -/
def MessageDescriptor.listDeclarations (file package : String) (path : List String) :
    List MessageDescriptor → List (Except Error TypeRecord)
  | [] => []
  | m :: ms => m.declarations file package path ++
      MessageDescriptor.listDeclarations file package path ms

end

/-- The types that a file declares. -/
def FileDescriptor.declarations (f : FileDescriptor) : List (Except Error TypeRecord) :=
  (f.enums.map fun e => .ok (TypeRecord.of f.name f.package [] e.name e.kind)) ++
    MessageDescriptor.listDeclarations f.name f.package [] f.messages

/-! ### Tables -/

/-- The recorded types and exports, the latest first. -/
structure TypeTable where
  records : List TypeRecord := []
  reexports : List (String × List String) := []
  deriving Repr, Inhabited

namespace TypeTable

/-- The table without records. -/
def empty : TypeTable := {}

/-- The table with one more record, which hides earlier ones of its name. -/
def insert (t : TypeTable) (r : TypeRecord) : TypeTable :=
  { t with records := r :: t.records }

/-- The table with the exports of a file; a file without any leaves it as it was. -/
def setReexports (t : TypeTable) (file : String) (exports : List String) : TypeTable :=
  if exports = [] then t else { t with reexports := (file, exports) :: t.reexports }

/-- The table with the given records up to the first error, and that error. -/
def insertAll (t : TypeTable) : List (Except Error TypeRecord) → TypeTable × Option Error
  | [] => (t, none)
  | .error e :: _ => (t, some e)
  | .ok r :: rest => insertAll (t.insert r) rest

/-- The table with the types and exports of a file, and the error that cut it short, if any. -/
def register (t : TypeTable) (f : FileDescriptor) : TypeTable × Option Error :=
  (t.setReexports f.name f.reexports).insertAll f.declarations

/-- The table of all files, or the error of the first that cannot be registered. -/
def registerAll (t : TypeTable) : List FileDescriptor → Except Error TypeTable
  | [] => .ok t
  | f :: fs =>
    match t.register f with
    | (t', none) => t'.registerAll fs
    | (_, some e) => .error e

/-- The latest record of a name. -/
def find? (t : TypeTable) (name : TypeName) : Option TypeRecord :=
  t.records.find? (·.name = name)

/-- The type that a reference from a file leads to. -/
def resolve (t : TypeTable) (typeName fromFile : String) : Except Error TypeRecord :=
  match t.find? (.ofReference typeName) with
  | some r => .ok r
  | none => .error (.unresolvedType typeName fromFile)

/-- The dependencies that a file exports again, in their order. -/
def reexportsOf (t : TypeTable) (file : String) : List String :=
  (t.reexports.lookup file).getD []

/-- The number of recorded names. -/
def size (t : TypeTable) : Nat :=
  (t.records.map (·.name)).eraseDups.length

/-- Whether nothing is recorded. -/
def isEmpty (t : TypeTable) : Bool :=
  t.records.isEmpty

theorem resolve_eq_ok_iff {t : TypeTable} {typeName fromFile : String} {r : TypeRecord} :
    t.resolve typeName fromFile = .ok r ↔ t.find? (.ofReference typeName) = some r := by
  unfold resolve
  cases t.find? (.ofReference typeName) with
  | none => simp
  | some r' => simp

theorem resolve_of_find?_eq_none {t : TypeTable} {typeName : String}
    (h : t.find? (.ofReference typeName) = none) (fromFile : String) :
    t.resolve typeName fromFile = .error (.unresolvedType typeName fromFile) := by
  unfold resolve
  rw [h]

end TypeTable

end ProtoTypeScript
