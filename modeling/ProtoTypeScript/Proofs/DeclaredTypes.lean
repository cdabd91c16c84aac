import Mathlib.Data.List.Nodup
import ProtoTypeScript.TypeTable
import ProtoTypeScript.Proofs.Outcome

/-!
# The types that a file declares

`FileDescriptor.types` lists the enums and messages of a file with the messages around them, each
message before what is inside it; map entries are among them.

* `FileDescriptor.typeNames` are their qualified names;
* `FileDescriptor.record` is what the table of types records of one, and an error for a malformed
  map entry; `declarations_eq` says that the list of a file's declarations is that of its types;
* `MessageDescriptor.nestedInduction` is induction on the nesting of messages.
-/

namespace ProtoTypeScript

/-! ### Nesting -/

/-- What holds of a message whenever it holds of those directly inside it holds of all. -/
@[elab_as_elim]
theorem MessageDescriptor.nestedInduction {motive : MessageDescriptor → Prop}
    (step : ∀ m : MessageDescriptor, (∀ n ∈ m.nested, motive n) → motive m)
    (m : MessageDescriptor) : motive m := by
  refine @MessageDescriptor.rec motive (fun ms => ∀ n ∈ ms, motive n)
    (fun name fields nested enums oneofs deprecated mapEntry ih => step _ ih) ?_ ?_ m
  · intro n hn
    exact absurd hn List.not_mem_nil
  · intro m ms hm hms n hn
    rcases List.mem_cons.1 hn with rfl | hn
    · exact hm
    · exact hms n hn

/-! ### Declared types -/

/-- An enum or a message. -/
inductive TypeDescriptor
  | enumeration (descriptor : EnumDescriptor)
  | message (descriptor : MessageDescriptor)

namespace TypeDescriptor

/-- The name inside the message or the file that declares the type. -/
def name : TypeDescriptor → String
  | enumeration e => e.name
  | message m => m.name

/-- Whether the type is a message that stands for map entries. -/
def isMapEntry : TypeDescriptor → Bool
  | enumeration _ => false
  | message m => m.mapEntry

/-- What the table of types records of a type of the given qualified name. -/
def kind (qualifiedName : TypeName) : TypeDescriptor → Except Error TypeKind
  | enumeration e => .ok e.kind
  | message m =>
    if m.mapEntry then MessageDescriptor.entryKind qualifiedName m.fields else .ok .message

theorem kind_enumeration {q : TypeName} {e : EnumDescriptor} {k : TypeKind} :
    (enumeration e).kind q = .ok k ↔ k = e.kind := by
  rw [kind, Except.ok.injEq, eq_comm]

theorem kind_message {q : TypeName} {m : MessageDescriptor} (hm : m.mapEntry = false)
    {k : TypeKind} : (message m).kind q = .ok k ↔ k = .message := by
  rw [kind, hm, if_neg (by decide), Except.ok.injEq, eq_comm]

/-- A map entry has a scalar key field and a value field. -/
theorem kind_mapEntry {q : TypeName} {m : MessageDescriptor} (hm : m.mapEntry = true)
    {k : TypeKind} : (message m).kind q = .ok k ↔ ∃ key value, m.fields = [key, value] ∧
      key.name = "key" ∧ value.name = "value" ∧ key.valueType.scalar?.isSome = true ∧
      k = .mapEntry key value := by
  rw [kind, if_pos hm]
  unfold MessageDescriptor.entryKind
  constructor
  · intro h
    split at h
    · rename_i key value hfields
      split_ifs at h with hnames
      exact ⟨key, value, hfields, hnames.1, hnames.2.1, hnames.2.2, (Except.ok.inj h).symm⟩
    · cases h
  · rintro ⟨key, value, hfields, hkey, hvalue, hscalar, rfl⟩
    simp only [hfields]
    exact if_pos ⟨hkey, hvalue, hscalar⟩

theorem exists_of_kind_mapEntry {d : TypeDescriptor} {q : TypeName} {key value : FieldDescriptor}
    (h : d.kind q = .ok (.mapEntry key value)) :
    ∃ m, d = .message m ∧ m.mapEntry = true ∧ m.fields = [key, value] := by
  cases d with
  | enumeration e => cases kind_enumeration.1 h
  | message m =>
    cases hm : m.mapEntry with
    | false => cases (kind_message hm).1 h
    | true =>
      obtain ⟨key, value, hfields, -, -, -, hkind⟩ := (kind_mapEntry hm).1 h
      cases hkind
      exact ⟨m, rfl, hm, hfields⟩

end TypeDescriptor

/-- A type and the names of the messages that it is inside of. -/
structure DeclaredType where
  enclosing : List String
  descriptor : TypeDescriptor

/-- The names of the enclosing messages, then that of the type. -/
def DeclaredType.path (t : DeclaredType) : List String :=
  t.enclosing ++ [t.descriptor.name]

theorem DeclaredType.path_ne_nil (t : DeclaredType) : t.path ≠ [] := by
  unfold path
  simp

mutual

/-- The types of a message that is inside the messages `enclosing`: itself, then its enums, then
those of the messages inside it. -/
def MessageDescriptor.types (enclosing : List String) : MessageDescriptor → List DeclaredType
  | ⟨name, fields, nested, enums, oneofs, deprecated, mapEntry⟩ =>
    ⟨enclosing, .message ⟨name, fields, nested, enums, oneofs, deprecated, mapEntry⟩⟩ ::
      (enums.map fun e => ⟨enclosing ++ [name], .enumeration e⟩) ++
      MessageDescriptor.listTypes (enclosing ++ [name]) nested

/-- The types of messages, one message after the other. -/
def MessageDescriptor.listTypes (enclosing : List String) :
    List MessageDescriptor → List DeclaredType
  | [] => []
  | m :: ms => m.types enclosing ++ MessageDescriptor.listTypes enclosing ms

end

theorem MessageDescriptor.listTypes_eq (enclosing : List String) (ms : List MessageDescriptor) :
    MessageDescriptor.listTypes enclosing ms = ms.flatMap (MessageDescriptor.types enclosing) := by
  induction ms with
  | nil => rfl
  | cons m ms ih => rw [MessageDescriptor.listTypes, ih, List.flatMap_cons]

theorem MessageDescriptor.types_eq (enclosing : List String) (m : MessageDescriptor) :
    m.types enclosing = ⟨enclosing, .message m⟩ ::
      ((m.enums.map fun e => ⟨enclosing ++ [m.name], .enumeration e⟩) ++
        m.nested.flatMap (MessageDescriptor.types (enclosing ++ [m.name]))) := by
  cases m
  rw [MessageDescriptor.types, MessageDescriptor.listTypes_eq, List.cons_append]

theorem MessageDescriptor.listDeclarations_eq (file package : String) (path : List String)
    (ms : List MessageDescriptor) :
    MessageDescriptor.listDeclarations file package path ms =
      ms.flatMap (MessageDescriptor.declarations file package path) := by
  induction ms with
  | nil => rfl
  | cons m ms ih => rw [MessageDescriptor.listDeclarations, ih, List.flatMap_cons]

namespace FileDescriptor

/-- The types of a file: its enums, then those of its messages. -/
def types (f : FileDescriptor) : List DeclaredType :=
  (f.enums.map fun e => ⟨[], .enumeration e⟩) ++ f.messages.flatMap (MessageDescriptor.types [])

/-- The qualified name of a type of the file. -/
def qualifiedName (f : FileDescriptor) (t : DeclaredType) : TypeName :=
  .qualified f.package t.enclosing t.descriptor.name

/-- The qualified names of the file's types. -/
def typeNames (f : FileDescriptor) : List TypeName :=
  f.types.map f.qualifiedName

/-- Types with distinct qualified names have distinct paths. -/
theorem nodup_paths {f : FileDescriptor} (h : f.typeNames.Nodup) :
    (f.types.map DeclaredType.path).Nodup := by
  refine List.Nodup.of_map
    (fun path => TypeName.qualified f.package path.dropLast (path.getLast?.getD "")) ?_
  have hname : (fun path => TypeName.qualified f.package path.dropLast (path.getLast?.getD "")) ∘
      DeclaredType.path = f.qualifiedName := by
    funext t
    simp [DeclaredType.path, qualifiedName]
  rwa [List.map_map, hname]

/-- The record of a type of the file, or the error of a malformed map entry. -/
def record (f : FileDescriptor) (t : DeclaredType) : Except Error TypeRecord :=
  (t.descriptor.kind (f.qualifiedName t)).map
    (TypeRecord.of f.name f.package t.enclosing t.descriptor.name)

theorem messageDeclarations_eq (f : FileDescriptor) (enclosing : List String)
    (m : MessageDescriptor) :
    m.declarations f.name f.package enclosing = (m.types enclosing).map f.record := by
  induction m using MessageDescriptor.nestedInduction generalizing enclosing with
  | _ m ih =>
    cases m with
    | mk name fields nested enums oneofs deprecated mapEntry =>
      have hnested : nested.flatMap
            (MessageDescriptor.declarations f.name f.package (enclosing ++ [name])) =
          (nested.flatMap (MessageDescriptor.types (enclosing ++ [name]))).map f.record := by
        rw [List.map_flatMap]
        exact List.flatMap_congr fun n hn => ih n hn _
      rw [MessageDescriptor.declarations, MessageDescriptor.types_eq,
        MessageDescriptor.listDeclarations_eq, hnested]
      simp only [List.map_cons, List.map_append, List.map_map, List.cons_append]
      rfl

/-- A file declares its types, in their order. -/
theorem declarations_eq (f : FileDescriptor) : f.declarations = f.types.map f.record := by
  have hmessages : f.messages.flatMap (MessageDescriptor.declarations f.name f.package []) =
      (f.messages.flatMap (MessageDescriptor.types [])).map f.record := by
    rw [List.map_flatMap]
    exact List.flatMap_congr fun m _ => f.messageDeclarations_eq [] m
  rw [FileDescriptor.declarations, MessageDescriptor.listDeclarations_eq, hmessages, types,
    List.map_append, List.map_map]
  rfl

/-- A record says where its type is declared. -/
theorem record_eq_ok_iff {f : FileDescriptor} {t : DeclaredType} {r : TypeRecord} :
    f.record t = .ok r ↔ r.name = f.qualifiedName t ∧ r.file = f.name ∧ r.package = f.package ∧
      r.path = t.path ∧ t.descriptor.kind (f.qualifiedName t) = .ok r.kind := by
  rw [record, Outcome.map_eq_ok_iff]
  constructor
  · rintro ⟨kind, hkind, rfl⟩
    exact ⟨rfl, rfl, rfl, rfl, hkind⟩
  · obtain ⟨name, file, package, path, kind⟩ := r
    rintro ⟨rfl, rfl, rfl, rfl, hkind⟩
    exact ⟨kind, hkind, rfl⟩

end FileDescriptor

end ProtoTypeScript
