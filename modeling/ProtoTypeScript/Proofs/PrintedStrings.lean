import ProtoTypeScript.Proofs.OneLine
import ProtoTypeScript.Proofs.QuotedTexts
import ProtoTypeScript.Script.Signature

/-!
# Strings of a tree and lines of its text

* `Declaration.strings` lists the strings that a declaration holds, those of what it encloses
  included;
* `OneLines` says that no line of a text is broken, and the lemmas in its namespace follow the
  constructs that lines are put together with;
* `oneLine_quote`: string literals are on one line whatever they denote.
-/

namespace ProtoTypeScript

/-! ### Strings of a tree -/

/-- The names in a type. -/
def FieldType.strings : FieldType → List String
  | scalar _ => []
  | enumeration name => [name]
  | message name => [name]
  | map _ value => value.strings

/-- The names in what a field holds. -/
def FieldShape.strings : FieldShape → List String
  | .map _ type => type.strings
  | .messages type => [type]
  | .message type => [type]
  | .values type => type.strings
  | .value type => type.strings

/-- The strings of a field. -/
def FieldDeclaration.strings (f : FieldDeclaration) : List String :=
  [f.name, f.objectKey, f.defaultValue] ++ f.type.strings

/-- The strings of a message class, without those of what is nested in it. -/
def MessageClass.strings (m : MessageClass) : List String :=
  [m.name, m.runtime] ++ m.fields.flatMap FieldDeclaration.strings ++ m.oneofs.map (·.name)

/-- The strings of an enum. -/
def EnumDeclaration.strings (e : EnumDeclaration) : List String :=
  e.name :: e.values.map (·.name)

/-- The strings of a method. -/
def Method.strings (m : Method) : List String :=
  [m.name, m.path, m.inputType, m.outputType]

/-- The strings of a service. -/
def Service.strings (s : Service) : List String :=
  s.name :: s.methods.flatMap Method.strings

/-- The strings of a server stub. -/
def ServerStub.strings (s : ServerStub) : List String :=
  [s.name, s.runtime] ++ s.service.strings

/-- The strings of a client. -/
def ClientStub.strings (c : ClientStub) : List String :=
  [c.name, c.runtime, c.server] ++ c.service.strings

mutual

/-- The strings of a declaration and of what it encloses. -/
def Declaration.strings : Declaration → List String
  | .enumeration e => e.strings
  | .message m nested => m.strings ++ Declaration.stringsOf nested
  | .namespaceBlock name body => name :: Declaration.stringsOf body
  | .rpcInterfaces _ runtime => [runtime]
  | .server s => s.strings
  | .client c => c.strings

/-- The strings of declarations. -/
def Declaration.stringsOf : List Declaration → List String
  | [] => []
  | d :: ds => d.strings ++ Declaration.stringsOf ds

end

theorem FieldType.strings_shape (type : FieldType) (isRepeated : Bool) :
    (type.shape isRepeated).strings = type.strings := by
  cases type <;> cases isRepeated <;> rfl

theorem FieldDeclaration.strings_shape (f : FieldDeclaration) : f.shape.strings = f.type.strings :=
  f.type.strings_shape f.isRepeated

theorem FieldType.OneLine.strings {type : FieldType} (h : type.OneLine) :
    ∀ text ∈ type.strings, ProtoTypeScript.OneLine text := by
  induction type with
  | scalar s => exact List.forall_mem_nil _
  | enumeration name => exact List.forall_mem_singleton.2 h
  | message name => exact List.forall_mem_singleton.2 h
  | map key value ih => exact ih h

/-! ### Texts on one line -/

/-- Simplification checks the characters of literals with it. -/
@[simp] theorem oneLine_of_all {s : String} (h : s.toList.all (· != '\n') = true) : OneLine s :=
  fun hc => absurd (List.all_eq_true.1 h _ hc) (by decide)

theorem oneLine_join {parts : List String} (h : ∀ part ∈ parts, OneLine part) :
    OneLine (String.join parts) := by
  induction parts with
  | nil => exact oneLine_literal rfl
  | cons part parts ih =>
    rw [String.join_cons, oneLine_append]
    exact ⟨h part List.mem_cons_self, ih fun p hp => h p (List.mem_cons_of_mem _ hp)⟩

theorem oneLine_withCommas {parts : List String} (h : ∀ part ∈ parts, OneLine part) :
    ∀ text ∈ Text.withCommas parts, OneLine text := by
  fun_induction Text.withCommas parts with
  | case1 => exact h
  | case2 => exact h
  | case3 part next parts ih =>
    rw [List.forall_mem_cons] at h ⊢
    exact ⟨oneLine_append.2 ⟨h.1, oneLine_literal rfl⟩, ih h.2⟩

theorem oneLine_quote (s : String) : OneLine (Text.quote s) := by
  intro h
  exact absurd (Text.isHarmless_of_mem_quote h) (by decide)

namespace Script

/-! ### Lines -/

/-- The texts of the lines have no line feeds. -/
def OneLines (lines : List Line) : Prop :=
  ∀ text ∈ texts lines, OneLine text

namespace OneLines

variable {xs ys body : List Line}

theorem nil : OneLines [] :=
  List.forall_mem_nil _

theorem cons {text : String} (h : OneLine text) (hxs : OneLines xs) : OneLines (line text :: xs) :=
  List.forall_mem_cons.2 ⟨h, hxs⟩

theorem append (hxs : OneLines xs) (hys : OneLines ys) : OneLines (xs ++ ys) := by
  rw [OneLines, texts_append, List.forall_mem_append]
  exact ⟨hxs, hys⟩

theorem indent (h : OneLines xs) : OneLines (Script.indent xs) := by
  rwa [OneLines, texts_indent]

theorem map_line {texts : List String} (h : ∀ text ∈ texts, OneLine text) :
    OneLines (texts.map line) := by
  rw [OneLines, Script.texts, List.map_map]
  exact List.forall_mem_map.2 h

theorem flatMap {α : Type} {f : α → List Line} {xs : List α} (h : ∀ x ∈ xs, OneLines (f x)) :
    OneLines (xs.flatMap f) := by
  rw [OneLines, texts_flatMap, List.forall_mem_flatMap]
  exact h

theorem block {head tail : String} (hhead : OneLine head) (hbody : OneLines body)
    (htail : OneLine tail) : OneLines (Script.block head body tail) := by
  rw [OneLines, texts_block, List.forall_mem_append, List.forall_mem_cons,
    List.forall_mem_singleton]
  exact ⟨⟨hhead, hbody⟩, htail⟩

theorem guarded {condition statement : String} (hcondition : OneLine condition)
    (hstatement : OneLine statement) : OneLines (Script.guarded condition statement) :=
  .cons (by simp [hcondition]) (.indent (.cons hstatement .nil))

theorem guardedBlock {condition : String} (hcondition : OneLine condition)
    (hbody : OneLines body) : OneLines (Script.guardedBlock condition body) :=
  .block (by simp [hcondition]) hbody (by simp)

theorem deprecation (deprecated : Bool) : OneLines (Script.deprecation deprecated) := by
  cases deprecated with
  | false => exact .nil
  | true => exact .cons (by simp) .nil

theorem objectTyped {before after : String} {entries : List (String × String)}
    (hbefore : OneLine before) (hentries : ∀ e ∈ entries, OneLine e.1 ∧ OneLine e.2)
    (hafter : OneLine after) : OneLines (Signature.objectTyped before entries after).lines := by
  rw [Signature.lines]
  split_ifs
  · exact .cons (by simp [hbefore, hafter]) .nil
  · refine .block (by simp [hbefore]) ?_ (by simp [hafter])
    rw [OneLines, texts, List.map_map, List.forall_mem_map]
    intro e he
    simp [Signature.entry, line, hentries e he]

theorem signatureBlock {s : Signature} (hsignature : OneLines s.lines) (hbody : OneLines body) :
    OneLines (s.block body) :=
  .append (.append hsignature hbody.indent) (.cons (by simp) .nil)

end OneLines

end Script

end ProtoTypeScript
