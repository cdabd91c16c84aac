import ProtoTypeScript.Proofs.NestedFiles
import ProtoTypeScript.Proofs.OneLineServices
import ProtoTypeScript.Proofs.PrintingMessages
import ProtoTypeScript.Proofs.PrintingServices

/-!
# Indentation

A printer that goes in and out as it prints a tree ends as deep as it began and never goes out at
depth zero, and what it writes are the lines of the tree.

* `declarationSteps` are the steps for a declaration, and `sourceSteps` those for a file;
* `indentText` puts four spaces for each level in front of the lines of a text that are not empty;
* `render_indentBy`: lines on one line each are rendered deeper by indenting their text;
* `printing_indents`: how declarations of any kind are printed at any depth, in particular a
  namespace and what it encloses.
-/

namespace ProtoTypeScript

namespace Script

/-! ### Steps of files -/

/-- The steps of an enum. -/
def enumerationSteps (e : EnumDeclaration) : List Step :=
  deprecationSteps e.deprecated ++
    blockSteps ("export enum " ++ e.name ++ " \x7b")
      ((Text.withCommas (e.values.map enumValue)).map .line) "\x7d"

mutual

/-- The steps of a declaration. -/
def declarationSteps : Declaration → List Step
  | .enumeration e => enumerationSteps e
  | .message m nested =>
    messageClassSteps m ++
      match nested with
      | [] => []
      | first :: rest =>
        blockSteps ("export namespace " ++ m.name ++ " \x7b")
          (declarationSteps first ++ declarationsSteps rest) "\x7d"
  | .namespaceBlock name body =>
    blockSteps ("export namespace " ++ name ++ " \x7b") (declarationsSteps body) "\x7d"
  | .rpcInterfaces target runtime => rpcInterfacesSteps target runtime
  | .server s => serverStubSteps s
  | .client c =>
    match c.target with
    | .node => NodeClient.steps c
    | .web => WebClient.steps c

/-- The steps of declarations, one after the other. -/
def declarationsSteps : List Declaration → List Step
  | [] => []
  | d :: ds => declarationSteps d ++ declarationsSteps ds

end

/-- The steps of the lines of a comment after its opening one; the last line closes it. -/
def commentSteps : List String → List Step
  | [] => []
  | [text] => [.line (" * " ++ text ++ " */")]
  | text :: next :: rest => .line (" * " ++ text) :: commentSteps (next :: rest)

/-- The steps of the comment that a file starts with. -/
def headerSteps (texts : List String) : List Step :=
  if texts = [] then [] else .line "/**" :: commentSteps texts

/-- The steps of a generated file. -/
def sourceSteps (f : SourceFile) : List Step :=
  headerSteps f.header ++
    f.imports.map (fun i =>
      .line ("import * as " ++ i.identifier ++ " from " ++ Text.quote i.module ++ ";")) ++
    declarationsSteps f.body

theorem writes_enumeration (e : EnumDeclaration) :
    Writes (enumerationSteps e) 0 (enumeration e) 0 :=
  (writes_deprecation e.deprecated).append (writes_block (.lines _))

mutual

/-- The steps of a declaration write its lines and end where they began. -/
theorem writes_declaration : ∀ d : Declaration, Writes (declarationSteps d) 0 (declaration d) 0
  | .enumeration e => by
    rw [declarationSteps, declaration]
    exact writes_enumeration e
  | .message m [] => by
    rw [declarationSteps, declaration]
    exact (writes_messageClass m).append .nil
  | .message m (first :: rest) => by
    rw [declarationSteps, declaration]
    exact (writes_messageClass m).append
      (writes_block ((writes_declaration first).append (writes_declarations rest)))
  | .namespaceBlock name body => by
    rw [declarationSteps, declaration]
    exact writes_block (writes_declarations body)
  | .rpcInterfaces target runtime => by
    rw [declarationSteps, declaration]
    exact writes_rpcInterfaces target runtime
  | .server s => by
    rw [declarationSteps, declaration]
    exact writes_serverStub s
  | .client c => by
    rw [declarationSteps, declaration]
    cases c.target with
    | node => exact writes_nodeClient c
    | web => exact writes_webClient c

theorem writes_declarations : ∀ ds : List Declaration,
    Writes (declarationsSteps ds) 0 (declarations ds) 0
  | [] => by
    rw [declarationsSteps, declarations]
    exact .nil
  | d :: ds => by
    rw [declarationsSteps, declarations]
    exact (writes_declaration d).append (writes_declarations ds)

end

theorem writes_comment (texts : List String) :
    Writes (commentSteps texts) 0 (commentLines texts) 0 := by
  fun_induction commentLines texts with
  | case1 => exact .nil
  | case2 text => exact .line _ .nil
  | case3 text next rest ih => exact ih.line _

theorem writes_header (texts : List String) :
    Writes (headerSteps texts) 0 (header texts) 0 := by
  rw [headerSteps, header]
  split_ifs
  · exact .nil
  · exact (writes_comment texts).line _

/-- The steps of a file write its lines. -/
theorem writes_source (f : SourceFile) : Writes (sourceSteps f) 0 f.lines 0 := by
  have himports := Writes.lines (f.imports.map fun i =>
    "import * as " ++ i.identifier ++ " from " ++ Text.quote i.module ++ ";")
  rw [List.map_map, List.map_map] at himports
  exact ((writes_header f.header).append himports).append (writes_declarations f.body)

/-! ### Indented text -/

/-- A line of a text with four spaces for each level in front, unless it is empty. -/
def indentLine (levels : Nat) (cs : List Char) : String :=
  if cs = [] then "" else indentation levels ++ String.ofList cs

/-- The text with each of its lines indented. -/
def indentText (levels : Nat) (text : String) : String :=
  Text.joinWith "\n" ((Text.splitOn '\n' text.toList).map (indentLine levels))

theorem indentText_line (levels : Nat) {text : String} (h : OneLine text) (rest : String) :
    indentText levels (text ++ "\n" ++ rest) =
      indentLine levels text.toList ++ "\n" ++ indentText levels rest := by
  have hlines : Text.splitOn '\n' (text ++ "\n" ++ rest).toList =
      text.toList :: Text.splitOn '\n' rest.toList := by
    rw [String.append_assoc, String.toList_append, String.toList_append]
    exact (Text.splitOn_append '\n' text.toList rest.toList).trans
      (by rw [Text.splitOn_of_notMem h, List.singleton_append])
  have hne : (Text.splitOn '\n' rest.toList).map (indentLine levels) ≠ [] := by
    simpa using Text.splitOn_ne_nil '\n' rest.toList
  rw [indentText, hlines, List.map_cons, Text.joinWith_cons_of_ne_nil _ _ hne, indentText]

theorem indentation_add (m n : Nat) : indentation m ++ indentation n = indentation (n + m) := by
  rw [indentation, indentation, ← String.ofList_append, List.replicate_append_replicate,
    ← Nat.mul_add, Nat.add_comm, indentation]

/-- Lines are rendered deeper by indenting their text. -/
theorem render_indentBy (depth : Nat) {lines : List Line} (h : OneLines lines) :
    render (indentBy depth lines) = indentText depth (render lines) := by
  induction lines with
  | nil => rfl
  | cons l lines ih =>
    obtain ⟨hl, hlines⟩ := List.forall_mem_cons.1 h
    have hdeeper : indentBy depth (l :: lines) =
        ⟨l.depth + depth, l.text⟩ :: indentBy depth lines := rfl
    rw [hdeeper, render_cons, render_cons, ih hlines, Line.render, Line.render]
    dsimp only
    -- an empty line stays empty at any depth
    split_ifs with hempty
    · have hempty : OneLine "" := oneLine_literal rfl
      exact (indentText_line depth hempty _).symm
    · have hspaces : OneLine (indentation l.depth) := by
        rw [OneLine, indentation, String.toList_ofList]
        exact fun hc => absurd (List.eq_of_mem_replicate hc) (by decide)
      have hne : (indentation l.depth ++ l.text).toList ≠ [] := by
        simpa using fun _ => hempty
      rw [indentText_line depth (oneLine_append.2 ⟨hspaces, hl⟩), indentLine, if_neg hne,
        String.ofList_toList, ← String.append_assoc, indentation_add]

/-! ### What a declaration is printed as -/

/-- The text that a printer of some depth writes for a declaration. -/
def printed (depth : Nat) (d : Declaration) : String :=
  (Printer.run ⟨"", depth⟩ (declarationSteps d)).text

/-- The text that a printer of some depth writes for declarations. -/
def printedAll (depth : Nat) (ds : List Declaration) : String :=
  (Printer.run ⟨"", depth⟩ (declarationsSteps ds)).text

theorem printed_eq (depth : Nat) (d : Declaration) :
    printed depth d = render (indentBy depth (declaration d)) := by
  have hrun := (writes_declaration d "" depth).2
  rw [Nat.add_zero] at hrun
  rw [printed, hrun, String.empty_append]

theorem printedAll_eq (depth : Nat) (ds : List Declaration) :
    printedAll depth ds = render (indentBy depth (declarations ds)) := by
  have hrun := (writes_declarations ds "" depth).2
  rw [Nat.add_zero] at hrun
  rw [printedAll, hrun, String.empty_append]

theorem run_declarationSteps (d : Declaration) (p : Printer) : p.Safe (declarationSteps d) ∧
    p.run (declarationSteps d) = ⟨p.text ++ printed p.depth d, p.depth⟩ := by
  rw [printed_eq]
  exact writes_declaration d p.text p.depth

theorem printed_indentText {d : Declaration} (h : ∀ text ∈ d.strings, OneLine text)
    (depth : Nat) : printed depth d = indentText depth (printed 0 d) := by
  rw [printed_eq, printed_eq, indentBy_zero, render_indentBy depth (oneLines_declaration h)]

theorem printed_block {depth : Nat} {head tail : String} {body : List Line}
    (h : OneLines body) : render (indentBy depth (block head body tail)) =
      Line.render ⟨depth, head⟩ ++ indentText 1 (render (indentBy depth body)) ++
        Line.render ⟨depth, tail⟩ := by
  have hbody : OneLines (indentBy depth body) := by rwa [OneLines, texts_indentBy]
  rw [indentBy_block, render_cons, render_append, ← indentBy_add 1 depth, render_indentBy 1 hbody,
    render_cons, render_nil, String.append_empty, String.append_assoc]

/-- A namespace is its opening line, its indented body and a brace. -/
theorem printed_namespaceBlock {name : String} {body : List Declaration}
    (h : ∀ text ∈ (Declaration.namespaceBlock name body).strings, OneLine text) (depth : Nat) :
    printed depth (.namespaceBlock name body) =
      Line.render ⟨depth, "export namespace " ++ name ++ " \x7b"⟩ ++
        indentText 1 (printedAll depth body) ++ Line.render ⟨depth, "\x7d"⟩ := by
  rw [Declaration.strings, List.forall_mem_cons] at h
  rw [printed_eq, printedAll_eq, declaration, printed_block (oneLines_declarations h.2)]

/-- A message with what is nested in it is the class followed by a namespace of its name. -/
theorem printed_message (depth : Nat) (m : MessageClass) {nested : List Declaration}
    (h : nested ≠ []) : printed depth (.message m nested) =
      printed depth (.message m []) ++ printed depth (.namespaceBlock m.name nested) := by
  cases nested with
  | nil => exact absurd rfl h
  | cons first rest =>
    rw [printed_eq, printed_eq, printed_eq, ← render_append, ← indentBy_append, declaration,
      declaration, declaration, List.append_nil, declarations]

/-! ### The discipline -/

/-- A printer of any depth prints a declaration without going out at depth zero, and ends as deep as
it began. Unless a string of the declaration breaks a line, the text at a depth is the one at depth
zero with each line indented, so that of a namespace has the text of its body indented once. -/
theorem printing_indents :
    (∀ (d : Declaration) (p : Printer), p.Safe (declarationSteps d) ∧
      p.run (declarationSteps d) = ⟨p.text ++ printed p.depth d, p.depth⟩ ∧
      printed p.depth d = render (indentBy p.depth (declaration d))) ∧
    (∀ d : Declaration, (∀ text ∈ d.strings, OneLine text) →
      ∀ depth, printed depth d = indentText depth (printed 0 d)) ∧
    (∀ name body, (∀ text ∈ (Declaration.namespaceBlock name body).strings, OneLine text) →
      ∀ depth, printed depth (.namespaceBlock name body) =
        Line.render ⟨depth, "export namespace " ++ name ++ " \x7b"⟩ ++
          indentText 1 (printedAll depth body) ++ Line.render ⟨depth, "\x7d"⟩) ∧
    (∀ (m : MessageClass) nested, nested ≠ [] → ∀ depth, printed depth (.message m nested) =
      printed depth (.message m []) ++ printed depth (.namespaceBlock m.name nested)) ∧
    ∀ f : SourceFile, Printer.Safe ⟨"", 0⟩ (sourceSteps f) ∧
      Printer.run ⟨"", 0⟩ (sourceSteps f) = ⟨f.text, 0⟩ := by
  refine ⟨fun d p => ?_, fun d h => printed_indentText h, fun name body h =>
    printed_namespaceBlock h, fun m nested h depth => printed_message depth m h, fun f => ?_⟩
  · obtain ⟨hsafe, hrun⟩ := run_declarationSteps d p
    exact ⟨hsafe, hrun, printed_eq p.depth d⟩
  · obtain ⟨hsafe, hrun⟩ := writes_source f "" 0
    rw [indentBy_zero, String.empty_append] at hrun
    exact ⟨hsafe, hrun⟩

/-- The namespace of the coast's lights, two levels deep. -/
theorem printing_indents_coast :
    (∀ text ∈ (Declaration.namespaceBlock "coast.lights"
        [.message beaconClass [.enumeration colourEnum]]).strings, OneLine text) ∧
    printed 2 (.namespaceBlock "coast.lights" [.message beaconClass [.enumeration colourEnum]]) =
      Line.render ⟨2, "export namespace " ++ "coast.lights" ++ " \x7b"⟩ ++
        indentText 1 (printedAll 2 [.message beaconClass [.enumeration colourEnum]]) ++
        Line.render ⟨2, "\x7d"⟩ ∧
    printed 2 (.message beaconClass [.enumeration colourEnum]) =
      indentText 2 (printed 0 (.message beaconClass [.enumeration colourEnum])) ∧
    printed 3 (.message beaconClass [.enumeration colourEnum]) =
      printed 3 (.message beaconClass []) ++
        printed 3 (.namespaceBlock "Beacon" [.enumeration colourEnum]) := by
  have hstrings : ∀ text ∈ (Declaration.namespaceBlock "coast.lights"
      [.message beaconClass [.enumeration colourEnum]]).strings, OneLine text := by
    unfold OneLine
    decide +kernel
  have hmessage : ∀ text ∈ (Declaration.message beaconClass [.enumeration colourEnum]).strings,
      OneLine text := by
    unfold OneLine
    decide +kernel
  exact ⟨hstrings, printing_indents.2.2.1 _ _ hstrings 2, printing_indents.2.1 _ hmessage 2,
    printing_indents.2.2.2.1 beaconClass _ (List.cons_ne_nil _ _) 3⟩

end Script

end ProtoTypeScript
