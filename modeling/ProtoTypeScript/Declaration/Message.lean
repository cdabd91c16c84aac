import ProtoTypeScript.Declaration.Field

/-!
# Enums and message classes

* `FileScope.enumDeclaration` keeps the values of an enum in their order, equal numbers included;
* `FileScope.oneofDeclarations` keeps the oneofs that have a member;
* `FileScope.messageDeclarations` is the class of a message and what is nested in it. Nested
  messages come after nested enums, and map entries are left out.

With namespaces, nested declarations stand inside the one of their message. Without, they precede
it, under names that hold the whole path.
-/

namespace ProtoTypeScript
namespace FileScope

/-- The declaration of an enum inside the messages of `path`. -/
def enumDeclaration (s : FileScope) (path : List String) (e : EnumDescriptor) :
    EnumDeclaration where
  name := s.declarationName path e.name
  values := e.values
  deprecated := e.deprecated

/-- The members of oneofs in declared order, each as the position of its oneof and its number. -/
def oneofMembers (fields : List FieldDescriptor) : List (Int32 × Int32) :=
  fields.filterMap fun f => f.memberOf?.map fun position => (position, f.number)

/-- The oneofs with one of the `members`, the first of `names` standing at position `index`. What a
oneof takes is no longer there for those after it. -/
def oneofDeclarationsFrom (members : List (Int32 × Int32)) (index : Nat) :
    List String → List OneofDeclaration
  | [] => []
  | name :: names =>
    let position := Int32.ofNat index
    let taken := (members.filter (·.1 == position)).map (·.2)
    let rest := oneofDeclarationsFrom (members.filter (·.1 != position)) (index + 1) names
    if taken = [] then rest else ⟨name, position, taken⟩ :: rest

/-- The oneofs of a message that have a member. -/
def oneofDeclarations (fields : List FieldDescriptor) (names : List String) :
    List OneofDeclaration :=
  oneofDeclarationsFrom (oneofMembers fields) 0 names

/-- The class of a message whose fields are declared. -/
def messageClass (s : FileScope) (path : List String) (m : MessageDescriptor)
    (fields : List FieldDeclaration) : MessageClass where
  name := s.declarationName path m.name
  runtime := s.runtime
  fields := fields
  oneofs := oneofDeclarations m.fields m.oneofs
  arms := fields.map (·.number)
  deprecated := m.deprecated
  explicitOverride := s.config.explicitOverride

/-- A class together with what is nested in it. -/
def placeNested (s : FileScope) (m : MessageClass) (nested : List Declaration) :
    List Declaration :=
  if s.config.noNamespace then nested ++ [.message m []] else [.message m nested]

mutual

/-- The declarations of a message inside the messages of `path`. -/
def messageDeclarations (s : FileScope) (path : List String) :
    MessageDescriptor → Except Failure (List Declaration)
  | ⟨name, fields, nested, enums, oneofs, deprecated, mapEntry⟩ => do
    let inner := path ++ [name]
    let messages ← s.nestedDeclarations inner nested
    let declared ← fields.mapM s.fieldDeclaration
    let m := s.messageClass path
      ⟨name, fields, nested, enums, oneofs, deprecated, mapEntry⟩ declared
    return s.placeNested m
      ((enums.map fun e => .enumeration (s.enumDeclaration inner e)) ++ messages)

/-- The declarations of the messages inside the messages of `path`, without map entries. -/
def nestedDeclarations (s : FileScope) (path : List String) :
    List MessageDescriptor → Except Failure (List Declaration)
  | [] => .ok []
  | m :: ms =>
    if m.mapEntry then s.nestedDeclarations path ms
    else do
      let first ← s.messageDeclarations path m
      let rest ← s.nestedDeclarations path ms
      return first ++ rest

end

end FileScope
end ProtoTypeScript
