import ProtoTypeScript.Proofs.LoweredTypes
import ProtoTypeScript.Proofs.PrintedEnums
import ProtoTypeScript.Proofs.Runs

/-!
# Enums from descriptor to text

Every enum of a file is printed as a block of its own, wherever it is declared.

* `StandInOrder` says that blocks stand in a text one after the other;
* `Declaration.enums` lists the enums of a declaration with the depths that they are printed at, and
  `standInOrder_declaration` says that their blocks stand in its lines;
* `FileDescriptor.loweredEnums` lists the enums of a descriptor, and `enums_of_lowers` says that
  these are the enums of the file's tree;
* `generate_enums_read_back`: reading the blocks in a generated file gives the names and numbers
  that the descriptor declares.
-/

namespace ProtoTypeScript

open Outcome

/-! ### Blocks in a text -/

/-- The blocks stand in the text, none inside another and in the given order. -/
inductive StandInOrder {α : Type} : List (List α) → List α → Prop
  | nil (text : List α) : StandInOrder [] text
  | cons (gap block : List α) {blocks : List (List α)} {rest : List α}
      (h : StandInOrder blocks rest) : StandInOrder (block :: blocks) (gap ++ (block ++ rest))

namespace StandInOrder

variable {α β : Type} {blocks more : List (List α)} {xs ys : List α}

theorem self (block : List α) : StandInOrder [block] block := by
  have h := StandInOrder.cons [] block (.nil [])
  rwa [List.nil_append, List.append_nil] at h

theorem prepend (h : StandInOrder blocks xs) (front : List α) :
    StandInOrder blocks (front ++ xs) := by
  cases h with
  | nil => exact .nil _
  | cons gap block h =>
    rw [← List.append_assoc]
    exact .cons _ block h

theorem append (h : StandInOrder blocks xs) (hmore : StandInOrder more ys) :
    StandInOrder (blocks ++ more) (xs ++ ys) := by
  induction h with
  | nil text => exact hmore.prepend text
  | cons gap block _ ih =>
    rw [List.append_assoc, List.append_assoc]
    exact .cons gap block ih

theorem extend (h : StandInOrder blocks xs) (after : List α) :
    StandInOrder blocks (xs ++ after) := by
  have hboth := h.append (.nil after)
  rwa [List.append_nil] at hboth

/-- A translation that goes part by part keeps blocks in place. -/
theorem map (h : StandInOrder blocks xs) {f : List α → List β}
    (hf : ∀ xs ys, f (xs ++ ys) = f xs ++ f ys) : StandInOrder (blocks.map f) (f xs) := by
  induction h with
  | nil => exact .nil _
  | cons gap block _ ih =>
    rw [hf, hf]
    exact .cons _ _ ih

end StandInOrder

/-! ### The enums of a declaration -/

mutual

/-- The enums of a declaration, each with the depth that it is printed at below it. -/
def Declaration.enums : Declaration → List (ℕ × EnumDeclaration)
  | .enumeration e => [(0, e)]
  | .message _ nested => (Declaration.listEnums nested).map fun d => (d.1 + 1, d.2)
  | .namespaceBlock _ body => (Declaration.listEnums body).map fun d => (d.1 + 1, d.2)
  | .rpcInterfaces _ _ => []
  | .server _ => []
  | .client _ => []

/-- The enums of declarations, one declaration after the other. -/
def Declaration.listEnums : List Declaration → List (ℕ × EnumDeclaration)
  | [] => []
  | d :: ds => d.enums ++ Declaration.listEnums ds

end

/-- The enum that a declaration is. -/
def Declaration.enum? : Declaration → Option EnumDeclaration
  | .enumeration e => some e
  | _ => none

mutual

/-- The enums of a declaration are those among its enums and classes. -/
theorem Declaration.map_enums (outer : List String) : ∀ d : Declaration,
    d.enums.map (·.2) = (d.types outer).filterMap (·.2.enum?)
  | .enumeration e => rfl
  | .message m nested => by
    rw [enums, types, List.filterMap_append, List.map_map, ← Declaration.map_listEnums]
    exact (List.append_nil _).symm
  | .namespaceBlock name body => by
    rw [enums, types, List.map_map, ← Declaration.map_listEnums]
    rfl
  | .rpcInterfaces _ _ => rfl
  | .server _ => rfl
  | .client _ => rfl

theorem Declaration.map_listEnums (outer : List String) : ∀ ds : List Declaration,
    (Declaration.listEnums ds).map (·.2) = (Declaration.listTypes outer ds).filterMap (·.2.enum?)
  | [] => rfl
  | d :: ds => by
    rw [listEnums, listTypes, List.map_append, List.filterMap_append, Declaration.map_enums,
      Declaration.map_listEnums]

end

namespace Script

/-- The lines of the block of an enum at a depth. -/
def enumBlock (d : ℕ × EnumDeclaration) : List Line :=
  indentBy d.1 (enumeration d.2)

theorem enumBlock_succ (ds : List (ℕ × EnumDeclaration)) :
    (ds.map fun d => (d.1 + 1, d.2)).map enumBlock = (ds.map enumBlock).map indent := by
  rw [List.map_map, List.map_map]
  refine List.map_congr_left fun d _ => ?_
  change indentBy (d.1 + 1) (enumeration d.2) = indentBy 1 (indentBy d.1 (enumeration d.2))
  rw [indentBy_add]

/-- Blocks stand one level deeper in a namespace. -/
theorem standInOrder_block {ds : List (ℕ × EnumDeclaration)} {body : List Line}
    (h : StandInOrder (ds.map enumBlock) body) (head tail : String) :
    StandInOrder ((ds.map fun d => (d.1 + 1, d.2)).map enumBlock) (block head body tail) := by
  rw [enumBlock_succ]
  exact ((h.map indent_append).prepend [line head]).extend [line tail]

mutual

/-- The blocks of a declaration's enums stand in its lines. -/
theorem standInOrder_declaration : ∀ d : Declaration,
    StandInOrder (d.enums.map enumBlock) (declaration d)
  | .enumeration e => by
    rw [Declaration.enums, declaration, List.map_singleton, enumBlock, indentBy_zero]
    exact .self _
  | .message m [] => .nil _
  | .message m (first :: rest) => by
    rw [Declaration.enums, declaration]
    have hnested := standInOrder_declarations (first :: rest)
    rw [declarations] at hnested
    exact (standInOrder_block hnested _ _).prepend _
  | .namespaceBlock name body => by
    rw [Declaration.enums, declaration]
    exact standInOrder_block (standInOrder_declarations body) _ _
  | .rpcInterfaces target runtime => .nil _
  | .server s => .nil _
  | .client c => .nil _

theorem standInOrder_declarations : ∀ ds : List Declaration,
    StandInOrder ((Declaration.listEnums ds).map enumBlock) (declarations ds)
  | [] => .nil _
  | d :: ds => by
    rw [Declaration.listEnums, declarations, List.map_append]
    exact (standInOrder_declaration d).append (standInOrder_declarations ds)

end

end Script

/-! ### The enums of a file -/

/-- The enum that a declared type is, with the messages around it. -/
def DeclaredType.enum? (t : DeclaredType) : Option (List String × EnumDescriptor) :=
  match t.descriptor with
  | .enumeration e => some (t.enclosing, e)
  | .message _ => none

/-- The enums of a file that get a declaration, each with the messages around it. -/
def FileDescriptor.loweredEnums (f : FileDescriptor) : List (List String × EnumDescriptor) :=
  f.loweredTypes.filterMap DeclaredType.enum?

/-- Every enum gets a declaration, if map entries hold no types. -/
theorem FileDescriptor.mem_loweredEnums {f : FileDescriptor} (h : f.EntriesAreLeaves)
    {path : List String} {e : EnumDescriptor} (he : ⟨path, .enumeration e⟩ ∈ f.types) :
    (path, e) ∈ f.loweredEnums := by
  refine List.mem_filterMap.2 ⟨⟨path, .enumeration e⟩, ?_, rfl⟩
  exact (loweredTypes_perm h).mem_iff.2 (List.mem_filter.2 ⟨he, rfl⟩)

/-- The enums of a tree are the declarations of the file's enums, in their order. -/
theorem FileScope.enums_of_lowers {s : FileScope} {outer : List String} {ts : List DeclaredType}
    {ds : List (List String × Declaration)} (h : List.Forall₂ (s.Lowers outer) ts ds) :
    ds.filterMap (·.2.enum?) =
      (ts.filterMap DeclaredType.enum?).map fun d => s.enumDeclaration d.1 d.2 := by
  induction h with
  | nil => rfl
  | @cons t d ts ds hd _ ih =>
    obtain ⟨-, hd⟩ := hd
    cases hdescriptor : t.descriptor with
    | enumeration e =>
      rw [hdescriptor] at hd
      have ht : t.enum? = some (t.enclosing, e) := by rw [DeclaredType.enum?, hdescriptor]
      rw [List.filterMap_cons_some (by rw [hd]; rfl), List.filterMap_cons_some ht, List.map_cons,
        ih]
    | message m =>
      rw [hdescriptor] at hd
      obtain ⟨fields, nested, -, hd, -⟩ := hd
      have ht : t.enum? = none := by rw [DeclaredType.enum?, hdescriptor]
      rw [List.filterMap_cons_none (by rw [hd]; rfl), List.filterMap_cons_none ht, ih]

/-- The blocks of a tree's enums stand in its text. -/
theorem SourceFile.standInOrder_text (tree : SourceFile) :
    StandInOrder ((Declaration.listEnums tree.body).map fun d =>
      (Script.printed d.1 (.enumeration d.2)).toList) tree.text.toList := by
  have hlines := (Script.standInOrder_declarations tree.body).prepend
    (Script.header tree.header ++ tree.imports.map Script.importLine)
  have htext := hlines.map (f := fun lines => (Script.render lines).toList) fun xs ys => by
    rw [Script.render_append, String.toList_append]
  have hprinted : ∀ d : ℕ × EnumDeclaration,
      Script.printed d.1 (.enumeration d.2) = Script.render (Script.enumBlock d) := fun d => by
    rw [Script.printed_eq, Script.declaration, Script.enumBlock]
  simp only [hprinted]
  rwa [List.map_map] at htext

/-- What a block says of an enum of a file. -/
structure FileScope.ReadsBack (s : FileScope) (d : List String × EnumDescriptor) (block : String) :
    Prop where
  printed : ∃ depth, block = Script.printed depth (.enumeration (s.enumDeclaration d.1 d.2))
  values : (∀ v ∈ d.2.values, IsIdentifier v.name) →
    Script.readEnum? (s.declarationName d.1 d.2.name) block =
      some (d.2.values.map fun v => (v.name, v.number.toInt))

theorem FileScope.readsBack_printed (s : FileScope) (d : List String × EnumDescriptor) (depth : ℕ) :
    s.ReadsBack d (Script.printed depth (.enumeration (s.enumDeclaration d.1 d.2))) where
  printed := ⟨depth, rfl⟩
  values := fun hnames => by
    have hdeclared : ∀ v ∈ (s.enumDeclaration d.1 d.2).values, IsIdentifier v.name := hnames
    rw [show s.declarationName d.1 d.2.name = (s.enumDeclaration d.1 d.2).name from rfl,
      Script.readEnum?_printed hdeclared depth]
    rfl

theorem SourceFile.exists_blocks {config : Config} {table : TypeTable} {version : CompilerVersion}
    {file : FileDescriptor} {tree : SourceFile}
    (h : SourceFile.ofDescriptor config table version file = .ok tree) :
    ∃ blocks : List String, StandInOrder (blocks.map String.toList) tree.text.toList ∧
      List.Forall₂ (FileScope.ofFile config table file).ReadsBack file.loweredEnums blocks := by
  have henums : (Declaration.listEnums tree.body).map (·.2) = file.loweredEnums.map fun d =>
      (FileScope.ofFile config table file).enumDeclaration d.1 d.2 := by
    rw [Declaration.map_listEnums []]
    exact FileScope.enums_of_lowers (ofDescriptor_lowers h)
  refine ⟨(Declaration.listEnums tree.body).map fun d => Script.printed d.1 (.enumeration d.2),
    ?_, ?_⟩
  · rw [List.map_map]
    exact tree.standInOrder_text
  · -- The same list twice, once with the depths of the tree and once with the paths of the file.
    have hpairs : List.Forall₂ (· = ·)
        (file.loweredEnums.map fun d =>
          (FileScope.ofFile config table file).enumDeclaration d.1 d.2)
        ((Declaration.listEnums tree.body).map (·.2)) := by
      rw [List.forall₂_eq_eq_eq]
      exact henums.symm
    rw [List.forall₂_map_left_iff, List.forall₂_map_right_iff] at hpairs
    rw [List.forall₂_map_right_iff]
    refine hpairs.imp fun d b hb => ?_
    rw [← hb]
    exact FileScope.readsBack_printed _ d b.1

/-- **Enum values survive to the text**: in every generated file the blocks of the file's enums
stand in their order, and each is read as the names and numbers that the enum declares, if the names
are identifiers. -/
theorem generate_enums_read_back {c : Config} {r : Request} {out : List GeneratedFile}
    (h : c.run r = .ok out) :
    List.Forall₂ (fun f g =>
      (f.EntriesAreLeaves → ∀ path e, ⟨path, .enumeration e⟩ ∈ f.types →
        (path, e) ∈ f.loweredEnums) ∧
      ∃ blocks : List String, StandInOrder (blocks.map String.toList) g.content.toList ∧
        List.Forall₂ (FileScope.ofFile c (.ofFiles r.files) f).ReadsBack f.loweredEnums blocks)
      r.files out := by
  obtain ⟨trees, htrees, rfl⟩ := Config.run_eq_ok_iff.1 h
  obtain ⟨-, -, hall⟩ := Config.trees_eq_ok_iff.1 htrees
  rw [List.forall₂_map_right_iff]
  exact hall.imp fun f tree htree =>
    ⟨fun hleaves path e he => FileDescriptor.mem_loweredEnums hleaves he,
      SourceFile.exists_blocks htree⟩

/-- A file whose enums stand at the top and two messages deep, with numbers that are negative, far
apart and the same. -/
def tideFile : FileDescriptor where
  name := "tide.proto"
  package := "sea.shore"
  messages := [{
    name := "Tide"
    nested := [{
      name := "Pool"
      enums := [{
        name := "Depth"
        values := [⟨"SHALLOW", 0⟩, ⟨"DEEP", 2147483647⟩, ⟨"ABYSS", 2147483647⟩,
          ⟨"DRY", -2147483648⟩]
        deprecated := true }] }] }]
  enums := [{ name := "Moon", values := [⟨"FULL", -1⟩] }]

/-- A request for the file. -/
def tideRequest : Request where
  files := [tideFile]

theorem generate_enums_read_back_tide : ∃ out, Config.default.run tideRequest = .ok out ∧
    ∃ g ∈ out, ∃ moon depth : String,
      StandInOrder [moon.toList, depth.toList] g.content.toList ∧
      Script.readEnum? "Moon" moon = some [("FULL", -1)] ∧
      Script.readEnum? "Depth" depth = some [("SHALLOW", 0), ("DEEP", 2147483647),
        ("ABYSS", 2147483647), ("DRY", -2147483648)] := by
  have hok : (Config.default.run tideRequest).isOk := by decide +kernel
  obtain ⟨out, hout⟩ := isOk_iff.1 hok
  obtain ⟨g, rest, hfile, -, rfl⟩ :=
    List.forall₂_cons_left_iff.1 (generate_enums_read_back hout)
  obtain ⟨-, blocks, hstand, hread⟩ := hfile
  have hlowered : tideFile.loweredEnums = [([], ⟨"Moon", [⟨"FULL", -1⟩], false⟩),
      (["Tide", "Pool"], ⟨"Depth", [⟨"SHALLOW", 0⟩, ⟨"DEEP", 2147483647⟩, ⟨"ABYSS", 2147483647⟩,
        ⟨"DRY", -2147483648⟩], true⟩)] := by decide
  rw [hlowered] at hread
  obtain ⟨moon, deeper, hmoon, hdeeper, rfl⟩ := List.forall₂_cons_left_iff.1 hread
  obtain ⟨depth, none, hdepth, hnone, rfl⟩ := List.forall₂_cons_left_iff.1 hdeeper
  obtain rfl := List.forall₂_nil_left_iff.1 hnone
  exact ⟨_, hout, g, List.mem_cons_self, moon, depth, hstand, hmoon.values (by decide),
    hdepth.values (by decide)⟩

end ProtoTypeScript
