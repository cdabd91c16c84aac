import ProtoTypeScript.Proofs.NestedMessages
import ProtoTypeScript.Proofs.NestedServices
import ProtoTypeScript.Script.File

/-!
# Nested brackets in generated files

`brackets_wellNested`: the text of every declaration and of every generated file is well nested,
after the comment that a file starts with. Names must be raw where they are written into code,
defaults well nested, and the lines of the comment must not close it.

Only the names of things, the defaults and the lines of the comment are restricted. Fields, oneofs,
values, methods and declarations may be any, in any number and at any depth, and so may the texts
that stand in string literals.
-/

namespace ProtoTypeScript

/-! ### Plain trees -/

/-- Everything in the tree of declarations is plain. -/
inductive Declaration.Plain : Declaration → Prop
  | enumeration {e : EnumDeclaration} (h : e.Plain) : Plain (.enumeration e)
  | message {m : MessageClass} {nested : List Declaration} (h : m.Plain)
      (hnested : ∀ d ∈ nested, Plain d) : Plain (.message m nested)
  | namespaceBlock {name : String} {body : List Declaration} (hname : Script.IsRaw name)
      (hbody : ∀ d ∈ body, Plain d) : Plain (.namespaceBlock name body)
  | rpcInterfaces {target : Target} {runtime : String} (hruntime : Script.IsRaw runtime) :
      Plain (.rpcInterfaces target runtime)
  | server {s : ServerStub} (h : s.Plain) : Plain (.server s)
  | client {c : ClientStub} (h : c.Plain) : Plain (.client c)

/-- No line closes the comment, identifiers of imports are raw, and the declarations are plain. -/
structure SourceFile.Plain (f : SourceFile) : Prop where
  header : ∀ text ∈ f.header, ¬['*', '/'] <:+: text.toList
  imports : ∀ i ∈ f.imports, Script.IsRaw i.identifier
  body : ∀ d ∈ f.body, d.Plain

namespace Script

/-! ### Declarations -/

theorem wellNested_declarations {ds : List Declaration}
    (h : ∀ d ∈ ds, WellNestedLines (declaration d)) : WellNestedLines (declarations ds) := by
  induction ds with
  | nil => exact .nil
  | cons d ds ih =>
    rw [declarations]
    exact .append (h d List.mem_cons_self) (ih fun e he => h e (List.mem_cons_of_mem _ he))

theorem wellNested_namespace {name : String} (hname : IsRaw name) {body : List Line}
    (hbody : WellNestedLines body) :
    WellNestedLines (block ("export namespace " ++ name ++ " \x7b") body "\x7d") := by
  refine .block ['\x7d'] ?_ hbody (.last rfl)
  rw [String.append_assoc]
  exact .lit rfl <| .code hname.wellNested <| .last rfl

theorem wellNested_declaration {d : Declaration} (h : d.Plain) :
    WellNestedLines (declaration d) := by
  -- what makes the tree plain has one case for each kind of declaration, and holds of all inside it
  induction h with
  | enumeration h =>
    rw [declaration]
    exact wellNested_enumeration h
  | @message m nested h hnested ih =>
    cases nested with
    | nil =>
      rw [declaration, List.append_nil]
      exact wellNested_messageClass h
    | cons first rest =>
      have hbody : WellNestedLines (declaration first ++ declarations rest) :=
        .append (ih first List.mem_cons_self)
          (wellNested_declarations fun d hd => ih d (List.mem_cons_of_mem _ hd))
      rw [declaration]
      exact .append (wellNested_messageClass h) (wellNested_namespace h.name hbody)
  | namespaceBlock hname hbody ih =>
    rw [declaration]
    exact wellNested_namespace hname (wellNested_declarations ih)
  | @rpcInterfaces target runtime hruntime =>
    rw [declaration]
    exact wellNested_rpcInterfaces target hruntime
  | server h =>
    rw [declaration]
    exact wellNested_serverStub h
  | @client c h =>
    rw [declaration]
    cases c.target with
    | node => exact NodeClient.wellNested_lines h
    | web => exact WebClient.wellNested_lines h

/-! ### Comments -/

theorem render_line (text : String) : (line text).render = text ++ "\n" := by
  rw [Line.render]
  split_ifs with hempty
  · have htext : text = "" := hempty
    rw [htext]
    rfl
  · have hindentation : indentation (line text).depth = "" := rfl
    rw [hindentation, String.empty_append]
    rfl

/-- The end of a comment does not reach over other characters than its own. -/
theorem not_infix_append {c : Char} (hstar : c ≠ '*') (hslash : c ≠ '/') {xs ys : List Char}
    (hxs : ¬['*', '/'] <:+: xs) (hys : ¬['*', '/'] <:+: ys) : ¬['*', '/'] <:+: xs ++ c :: ys := by
  induction xs with
  | nil =>
    rw [List.nil_append, List.infix_cons_iff, List.cons_prefix_cons]
    rintro (⟨hc, -⟩ | htail)
    · exact hstar hc.symm
    · exact hys htail
  | cons x xs ih =>
    rw [List.infix_cons_iff, not_or] at hxs
    rw [List.cons_append, List.infix_cons_iff]
    rintro (hhead | htail)
    · -- an end that begins with the last character before `c` would have `c` as its slash
      cases xs with
      | nil =>
        rw [List.nil_append, List.cons_prefix_cons, List.cons_prefix_cons] at hhead
        exact hslash hhead.2.1.symm
      | cons y xs =>
        rw [List.cons_append, List.cons_prefix_cons, List.cons_prefix_cons] at hhead
        refine hxs.1 ?_
        rw [← hhead.1, ← hhead.2.1]
        exact List.prefix_append _ _
    · exact ih hxs.2 htail

/-- A line of a comment does not close it if its text does not. -/
theorem not_infix_commentLine {c : Char} (hstar : c ≠ '*') (hslash : c ≠ '/') {text : String}
    (htext : ¬['*', '/'] <:+: text.toList) {rest : List Char} (hrest : ¬['*', '/'] <:+: rest) :
    ¬['*', '/'] <:+: ' ' :: '*' :: ' ' :: (text.toList ++ c :: rest) := by
  have hend := not_infix_append hstar hslash htext hrest
  have hmark : ¬['*', '/'] <:+: ['*'] ++ ' ' :: (text.toList ++ c :: rest) :=
    not_infix_append (by decide) (by decide) (by decide) hend
  have hnone : ¬['*', '/'] <:+: ([] : List Char) := by decide
  exact not_infix_append (by decide) (by decide) hnone hmark

/-- The lines of a comment end it, and not before. -/
theorem exists_render_commentLines {texts : List String} (hne : texts ≠ [])
    (h : ∀ text ∈ texts, ¬['*', '/'] <:+: text.toList) :
    ∃ inside, render (commentLines texts) = inside ++ "*/\n" ∧ ¬['*', '/'] <:+: inside.toList := by
  fun_induction commentLines texts with
  | case1 => exact absurd rfl hne
  | case2 text =>
    refine ⟨" * " ++ text ++ " ", ?_, ?_⟩
    · rw [render_cons, render_line, render_nil, String.append_empty]
      simp only [String.append_assoc]
      rfl
    · rw [String.append_assoc, String.toList_append, String.toList_append]
      exact not_infix_commentLine (by decide) (by decide) (h text List.mem_cons_self) (by decide)
  | case3 text next rest ih =>
    rw [List.forall_mem_cons] at h
    obtain ⟨inside, hrender, hinside⟩ := ih (List.cons_ne_nil _ _) h.2
    refine ⟨" * " ++ text ++ ("\n" ++ inside), ?_, ?_⟩
    · rw [render_cons, render_line, hrender]
      simp only [String.append_assoc]
    · rw [String.append_assoc, String.toList_append, String.toList_append, String.toList_append]
      exact not_infix_commentLine (by decide) (by decide) h.1 hinside

theorem isComment_header {texts : List String} (hne : texts ≠ [])
    (h : ∀ text ∈ texts, ¬['*', '/'] <:+: text.toList) : IsComment (render (header texts)) := by
  obtain ⟨inside, hrender, hinside⟩ := exists_render_commentLines hne h
  refine ⟨"*\n" ++ inside, ?_, ?_⟩
  · rw [header, if_neg hne, render_cons, render_line, hrender]
    simp only [String.append_assoc]
    rfl
  · rw [String.toList_append]
    have hstar : ¬['*', '/'] <:+: ['*'] := by decide
    exact not_infix_append (by decide) (by decide) hstar hinside

/-! ### Files -/

theorem wellNested_importLine {i : Import} (h : IsRaw i.identifier) :
    WellNested (importLine i).text := by
  simp only [importLine, line, String.append_assoc]
  exact .lit rfl <| .code h.wellNested <| .lit rfl <| .code (wellNested_quote _) <| .last rfl

theorem wellNested_imports {imports : List Import} (h : ∀ i ∈ imports, IsRaw i.identifier) :
    WellNestedLines (imports.map importLine) := by
  induction imports with
  | nil => exact .nil
  | cons i imports ih =>
    rw [List.forall_mem_cons] at h
    exact TakesLines.cons (wellNested_importLine h.1) (ih h.2)

end Script

open Script

theorem wellNestedAfter_header {f : SourceFile} (h : f.Plain) :
    WellNestedAfter (render (header f.header)) f.text := by
  have hcode : WellNestedLines (f.imports.map importLine ++ declarations f.body) :=
    .append (wellNested_imports h.imports)
      (wellNested_declarations fun d hd => wellNested_declaration (h.body d hd))
  refine ⟨?_, render (f.imports.map importLine ++ declarations f.body), ?_, ?_⟩
  · by_cases hne : f.header = []
    · rw [hne]
      exact .inl rfl
    · exact .inr (isComment_header hne h.header)
  · rw [SourceFile.text, SourceFile.lines, List.append_assoc, render_append]
  · have hrender := hcode 0
    rwa [indentBy_zero] at hrender

/-- In generated text all brackets are closed, each by its own. -/
theorem brackets_wellNested :
    (∀ d : Declaration, d.Plain → ∀ depth,
      WellNested (render (indentBy depth (declaration d)))) ∧
    ∀ f : SourceFile, f.Plain → WellNestedAfter (render (header f.header)) f.text :=
  ⟨fun _ hd => wellNested_declaration hd, fun _ hf => wellNestedAfter_header hf⟩

/-- A class with fields of each kind. -/
def beaconClass : MessageClass where
  name := "Beacon"
  runtime := "runtime_0"
  fields := [
    ⟨"height", "height", 1, .scalar .sint32, .singular, none, "0", false, false⟩,
    ⟨"log", "log", 2, .scalar .string, .singular, none, "\"[(\"", false, true⟩,
    ⟨"colours", "colours", 3, .enumeration "Beacon.Colour", .repeated, none, "[]", true, false⟩,
    ⟨"keeper", "keeper", 4, .message "dependency_1.Keeper", .singular, some 0, "undefined", false,
      false⟩,
    ⟨"horn", "horn", 5, .scalar .bytes, .optional, some 0, "new Uint8Array(0)", false, false⟩,
    ⟨"lamps", "lamps", 6, .map .bool (.message "Beacon.Lamp"), .repeated, none, "undefined", false,
      false⟩,
    ⟨"sisters", "sisters", 7, .message "Beacon", .repeated, none, "undefined", false, false⟩]
  oneofs := [⟨"signal", 0, [4, 5]⟩]
  arms := [1, 2, 3, 4, 5, 6, 7]
  deprecated := true
  explicitOverride := true

/-- A service with a method of each kind, and texts with brackets where literals hold them. -/
def coastService : Service where
  name := "Coast)\""
  methods := [
    ⟨"Light", "/Coast[/Light", "Beacon", "Beacon", false, false, true⟩,
    ⟨"Watch", "/Coast[/Watch", "Beacon", "Beacon", false, true, false⟩,
    ⟨"Report", "/Coast[/Report", "Beacon", "Beacon", true, false, false⟩,
    ⟨"Talk", "/Coast[/Talk", "Beacon", "Beacon", true, true, false⟩]
  deprecated := false

/-- An enum with a negative number. -/
def colourEnum : EnumDeclaration where
  name := "Colour"
  values := [⟨"RED", 0⟩, ⟨"DARK", -1⟩]
  deprecated := false

/-- The server of the service. -/
def coastServer : ServerStub where
  name := "UnimplementedCoast"
  runtime := "grpc_1"
  service := coastService

/-- A client of the service. -/
def coastClient (target : Target) (unaryPromise : Bool) : ClientStub where
  name := "CoastClient"
  target := target
  runtime := "grpc_1"
  server := "UnimplementedCoast"
  service := coastService
  unaryPromise := unaryPromise

/-- A generated file with declarations of each kind. -/
def coastSource : SourceFile where
  name := "coast.ts"
  header := ["(generated", "don't edit"]
  imports := [⟨"dependency_1", "./keeper\"("⟩]
  body := [.namespaceBlock "coast.lights" [.message beaconClass [.enumeration colourEnum]],
    .rpcInterfaces .node "grpc_1", .server coastServer, .client (coastClient .node true),
    .client (coastClient .web false)]

theorem brackets_wellNested_coast :
    (Declaration.message beaconClass [.enumeration colourEnum]).Plain ∧
    WellNested (render (indentBy 1 (declaration
      (.message beaconClass [.enumeration colourEnum])))) ∧
    coastSource.Plain ∧
    WellNestedAfter (render (header coastSource.header)) coastSource.text := by
  have hcolour : colourEnum.Plain := by decide +kernel
  have hclass : beaconClass.Plain := by decide +kernel
  have hbeacon : (Declaration.message beaconClass [.enumeration colourEnum]).Plain :=
    .message hclass (List.forall_mem_singleton.2 (.enumeration hcolour))
  have hserver : coastServer.Plain := by decide +kernel
  have hnode : (coastClient .node true).Plain := by decide +kernel
  have hweb : (coastClient .web false).Plain := by decide +kernel
  have hcoast : coastSource.Plain := by
    refine ⟨by decide +kernel, by decide +kernel, ?_⟩
    simp only [coastSource, List.forall_mem_cons]
    exact ⟨.namespaceBlock (by decide) (List.forall_mem_singleton.2 hbeacon),
      .rpcInterfaces (by decide), .server hserver, .client hnode, .client hweb,
      List.forall_mem_nil _⟩
  exact ⟨hbeacon, brackets_wellNested.1 _ hbeacon 1, hcoast, brackets_wellNested.2 _ hcoast⟩

end ProtoTypeScript
