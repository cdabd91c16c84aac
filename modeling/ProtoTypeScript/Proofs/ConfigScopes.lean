import ProtoTypeScript.Proofs.DeclaredTypes
import ProtoTypeScript.Proofs.Lowering

/-!
# One file under two configurations

What the declarations of a file owe to the options. References, enums and the types, defaults and
cardinalities of fields look at `noNamespace` alone; a field looks at `jsonNames` for its key, and a
class at `explicitOverride`.

* `FileScope.withConfig` is a scope under other options, and the lemmas after it say what does not
  change;
* `Declaration.mapClasses` changes the classes of a declaration and nothing else;
* `typeDeclarations_agree_of_classes`: if changes of the classes make up for the options at every
  message, they do so for the enums and messages of the file, and the errors are the same.
-/

namespace ProtoTypeScript

open Outcome

/-! ### Changing the classes of a tree -/

mutual

/-- The declaration with its classes changed. -/
def Declaration.mapClasses (g : MessageClass → MessageClass) : Declaration → Declaration
  | .enumeration e => .enumeration e
  | .message m nested => .message (g m) (Declaration.listMapClasses g nested)
  | .namespaceBlock name body => .namespaceBlock name (Declaration.listMapClasses g body)
  | .rpcInterfaces target runtime => .rpcInterfaces target runtime
  | .server stub => .server stub
  | .client stub => .client stub

/-- The declarations with their classes changed. -/
def Declaration.listMapClasses (g : MessageClass → MessageClass) :
    List Declaration → List Declaration
  | [] => []
  | d :: ds => d.mapClasses g :: Declaration.listMapClasses g ds

end

/-- The tree with its classes changed. -/
def SourceFile.mapClasses (g : MessageClass → MessageClass) (f : SourceFile) : SourceFile :=
  { f with body := Declaration.listMapClasses g f.body }

namespace Declaration

variable {g : MessageClass → MessageClass}

theorem listMapClasses_eq (ds : List Declaration) :
    listMapClasses g ds = ds.map (mapClasses g) := by
  induction ds with
  | nil => rfl
  | cons d ds ih => rw [listMapClasses, ih, List.map_cons]

theorem listMapClasses_append (ds es : List Declaration) :
    listMapClasses g (ds ++ es) = listMapClasses g ds ++ listMapClasses g es := by
  rw [listMapClasses_eq, listMapClasses_eq, listMapClasses_eq, List.map_append]

theorem listMapClasses_eq_nil_iff {ds : List Declaration} : listMapClasses g ds = [] ↔ ds = [] := by
  rw [listMapClasses_eq, List.map_eq_nil_iff]

theorem listMapClasses_enumerations {α : Type} (e : α → EnumDeclaration) (xs : List α) :
    listMapClasses g (xs.map fun x => .enumeration (e x)) =
      xs.map fun x => .enumeration (e x) := by
  rw [listMapClasses_eq, List.map_map]
  rfl

mutual

theorem mapClasses_id : ∀ d : Declaration, d.mapClasses id = d
  | .enumeration _ => rfl
  | .message m nested => by rw [mapClasses, listMapClasses_id nested, id]
  | .namespaceBlock name body => by rw [mapClasses, listMapClasses_id body]
  | .rpcInterfaces _ _ => rfl
  | .server _ => rfl
  | .client _ => rfl

theorem listMapClasses_id : ∀ ds : List Declaration, listMapClasses id ds = ds
  | [] => rfl
  | d :: ds => by rw [listMapClasses, mapClasses_id d, listMapClasses_id ds]

end

end Declaration

namespace FileScope

/-! ### A scope under other options -/

/-- The same scope under another configuration. -/
def withConfig (s : FileScope) (c : Config) : FileScope :=
  { s with config := c }

variable {s : FileScope} {c : Config}

section SameNames

variable (hnames : c.noNamespace = s.config.noNamespace)

include hnames

theorem localExpression_withConfig (path : List String) :
    (s.withConfig c).localExpression path = s.localExpression path := by
  unfold localExpression withConfig
  rw [hnames]

theorem typeExpression_withConfig (r : TypeRecord) :
    (s.withConfig c).typeExpression r = s.typeExpression r := by
  unfold typeExpression
  rw [localExpression_withConfig hnames]
  unfold withConfig
  rw [hnames]

theorem declarationName_withConfig (path : List String) (name : String) :
    (s.withConfig c).declarationName path name = s.declarationName path name := by
  unfold declarationName withConfig
  rw [hnames]

theorem enumDeclaration_withConfig (path : List String) (e : EnumDescriptor) :
    (s.withConfig c).enumDeclaration path e = s.enumDeclaration path e := by
  unfold enumDeclaration
  rw [declarationName_withConfig hnames]

theorem fieldTypeStep_withConfig (valueTypeOf : FieldDescriptor → Except Failure FieldType)
    (f : FieldDescriptor) :
    (s.withConfig c).fieldTypeStep valueTypeOf f = s.fieldTypeStep valueTypeOf f := by
  have hresolve : (s.withConfig c).resolve f.typeName = s.resolve f.typeName := rfl
  simp only [fieldTypeStep, typeExpression_withConfig hnames, hresolve]

theorem fieldType_withConfig (f : FieldDescriptor) :
    (s.withConfig c).fieldType f = s.fieldType f := by
  have hcalls : ∀ calls, (s.withConfig c).fieldTypeWithin calls = s.fieldTypeWithin calls := by
    intro calls
    induction calls with
    | zero => rfl
    | succ calls ih =>
      funext f
      rw [fieldTypeWithin, fieldTypeWithin, ih, fieldTypeStep_withConfig hnames]
  exact congrFun (hcalls _) f

/-- A field has another key and is the same otherwise. -/
theorem fieldDeclaration_withConfig (f : FieldDescriptor) :
    (s.withConfig c).fieldDeclaration f =
      (s.fieldDeclaration f).map fun d => { d with objectKey := (s.withConfig c).objectKey f } := by
  unfold fieldDeclaration
  rw [fieldType_withConfig hnames]
  cases s.fieldType f with
  | error e => rfl
  | ok type =>
    have hdefault : (s.withConfig c).defaultValue f type ((s.withConfig c).cardinality f type) =
        s.defaultValue f type (s.cardinality f type) := rfl
    show report ((s.withConfig c).defaultValue f type ((s.withConfig c).cardinality f type)) >>= _ =
      _
    rw [hdefault]
    show _ = (report (s.defaultValue f type (s.cardinality f type)) >>= _).map _
    cases s.defaultValue f type (s.cardinality f type) with
    | error e => rfl
    | ok value => rfl

/-- A field is the same if its key is. -/
theorem fieldDeclaration_of_sameKeys (hkeys : c.jsonNames = s.config.jsonNames) :
    (s.withConfig c).fieldDeclaration = s.fieldDeclaration := by
  funext f
  have hkey : (s.withConfig c).objectKey f = s.objectKey f := by
    unfold objectKey withConfig
    rw [hkeys]
  rw [fieldDeclaration_withConfig hnames, hkey]
  cases h : s.fieldDeclaration f with
  | error e => rfl
  | ok d =>
    obtain ⟨type, value, -, -, rfl⟩ := fieldDeclaration_eq_ok_iff.1 h
    rfl

/-- A class with the fields of the other scope has another flag and is the same otherwise. -/
theorem messageClass_withConfig (path : List String) (m : MessageDescriptor)
    (fields : List FieldDeclaration) : (s.withConfig c).messageClass path m fields =
      { s.messageClass path m fields with explicitOverride := c.explicitOverride } := by
  unfold messageClass
  rw [declarationName_withConfig hnames]
  rfl

theorem method_withConfig (service : String) (m : MethodDescriptor) :
    (s.withConfig c).method service m = s.method service m := by
  have hresolve : (s.withConfig c).resolve = s.resolve := rfl
  simp only [method, typeExpression_withConfig hnames, hresolve]
  rfl

theorem service_withConfig (d : ServiceDescriptor) :
    (s.withConfig c).service d = s.service d := by
  unfold FileScope.service
  rw [funext fun m => method_withConfig hnames d.name m]

end SameNames

/-! ### Enums and messages under two configurations -/

section Classes

variable (hnames : c.noNamespace = s.config.noNamespace) {g g' : MessageClass → MessageClass}
  (hclass : ∀ path (m : MessageDescriptor), Agree
    (fun fields fields' => g' ((s.withConfig c).messageClass path m fields') =
      g (s.messageClass path m fields))
    (m.fields.mapM s.fieldDeclaration) (m.fields.mapM (s.withConfig c).fieldDeclaration))

/-- The classes of two lists of declarations are the same once they are changed. -/
def SameClasses (g g' : MessageClass → MessageClass) (ds ds' : List Declaration) : Prop :=
  Declaration.listMapClasses g' ds' = Declaration.listMapClasses g ds

omit hnames hclass in
theorem SameClasses.append {ds ds' es es' : List Declaration} (h : SameClasses g g' ds ds')
    (h' : SameClasses g g' es es') : SameClasses g g' (ds ++ es) (ds' ++ es') := by
  unfold SameClasses at *
  rw [Declaration.listMapClasses_append, Declaration.listMapClasses_append, h, h']

omit hnames hclass in
theorem sameClasses_message {m m' : MessageClass} {nested nested' : List Declaration}
    (hm : g' m' = g m) (hnested : SameClasses g g' nested nested') :
    SameClasses g g' [.message m nested] [.message m' nested'] := by
  show [Declaration.message (g' m') (Declaration.listMapClasses g' nested')] =
    [Declaration.message (g m) (Declaration.listMapClasses g nested)]
  rw [hm, hnested]

omit hclass in
include hnames in
theorem sameClasses_enums (path : List String) (es : List EnumDescriptor) :
    SameClasses g g' (es.map fun e => .enumeration (s.enumDeclaration path e))
      (es.map fun e => .enumeration ((s.withConfig c).enumDeclaration path e)) := by
  unfold SameClasses
  rw [Declaration.listMapClasses_enumerations, Declaration.listMapClasses_enumerations]
  simp only [enumDeclaration_withConfig hnames]

omit hnames hclass in
theorem nestedDeclarations_agree_of_classes {path : List String} {ms : List MessageDescriptor}
    (h : ∀ m ∈ ms, Agree (SameClasses g g') (s.messageDeclarations path m)
      ((s.withConfig c).messageDeclarations path m)) :
    Agree (SameClasses g g') (s.nestedDeclarations path ms)
      ((s.withConfig c).nestedDeclarations path ms) := by
  induction ms with
  | nil => exact .ok rfl
  | cons m ms ih =>
    have hrest := ih fun n hn => h n (List.mem_cons_of_mem _ hn)
    rw [nestedDeclarations, nestedDeclarations]
    by_cases hm : m.mapEntry = true
    · rw [if_pos hm, if_pos hm]
      exact hrest
    · rw [if_neg hm, if_neg hm]
      refine (h m List.mem_cons_self).bind fun first first' hfirst => ?_
      exact hrest.bind fun rest rest' hrest => .ok (hfirst.append hrest)

variable (g g')

include hnames hclass

theorem messageDeclarations_agree_of_classes (path : List String) (m : MessageDescriptor) :
    Agree (SameClasses g g') (s.messageDeclarations path m)
      ((s.withConfig c).messageDeclarations path m) := by
  induction m using MessageDescriptor.nestedInduction generalizing path with
  | _ m ih =>
    cases m with
    | mk name fields nested enums oneofs deprecated mapEntry =>
      rw [messageDeclarations, messageDeclarations]
      have hnested := nestedDeclarations_agree_of_classes fun n hn => ih n hn (path ++ [name])
      refine hnested.bind fun messages messages' hmessages => ?_
      refine (hclass path ⟨name, fields, nested, enums, oneofs, deprecated, mapEntry⟩).bind
        fun ds ds' hds => .ok ?_
      have hinside := (sameClasses_enums hnames (path ++ [name]) enums).append hmessages
      unfold placeNested withConfig
      rw [hnames]
      split_ifs
      · -- the class stands after what is nested
        exact hinside.append (sameClasses_message hds rfl)
      · exact sameClasses_message hds hinside

theorem typeDeclarations_agree_of_classes : Agree (SameClasses g g') s.typeDeclarations
    (s.withConfig c).typeDeclarations := by
  have hmessages := Agree.mapM fun m (_ : m ∈ s.file.messages) =>
    messageDeclarations_agree_of_classes hnames g g' hclass [] m
  refine hmessages.bind fun parts parts' hparts => ?_
  refine .ok ((sameClasses_enums hnames [] s.file.enums).append ?_)
  clear hmessages
  induction hparts with
  | nil => rfl
  | cons hpart _ ih => exact hpart.append ih

end Classes

end FileScope

end ProtoTypeScript
