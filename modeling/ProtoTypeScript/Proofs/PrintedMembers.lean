import Mathlib.Data.List.TakeWhile
import ProtoTypeScript.Proofs.OneLineMessages
import ProtoTypeScript.Proofs.OneofGroups
import ProtoTypeScript.Proofs.Printing
import ProtoTypeScript.Proofs.WireAgreement

/-!
# Members of printed classes

The text of a class is the texts of its members between two lines.

* `memberStatements` lists the statements of each member of a printed class, and
  `render_messageClass` says that the text of the class is made of the texts with these statements;
* `statements_cons`: a statement is read whatever comes after it, so the first lines of a member can
  be read even if later ones hold keys of any form;
* `readNumbers` and `readArrays` read numbers and arrays of numbers back;
* `filterMap_memberStatements`: a reader of accessors finds nothing in the other members.
-/

namespace ProtoTypeScript

open Outcome

/-- Names have letters, digits and underscores only. -/
theorem IsIdentifier.all {name : String} (h : IsIdentifier name) :
    ∀ c ∈ name.toList, (c.isAlphanum || c == '_') = true := by
  rw [IsIdentifier] at h
  cases hname : name.toList with
  | nil => exact List.forall_mem_nil _
  | cons d cs =>
    rw [hname, isIdentifier, Bool.and_eq_true, List.all_eq_true] at h
    exact h.2

theorem IsIdentifier.notMem {name : String} (h : IsIdentifier name) {c : Char}
    (hc : (c.isAlphanum || c == '_') = false) : c ∉ name.toList := by
  intro hmem
  rw [h.all c hmem] at hc
  cases hc

theorem IsIdentifier.start {name : String} (h : IsIdentifier name) (rest : String) :
    ∃ c, (name ++ rest).toList.head? = some c ∧ c ≠ ' ' := by
  have hspace : ' ' ∉ name.toList := h.notMem (by decide)
  rw [IsIdentifier] at h
  rw [String.toList_append]
  cases hname : name.toList with
  | nil =>
    rw [hname] at h
    cases h
  | cons c cs =>
    rw [hname, List.mem_cons, not_or] at hspace
    exact ⟨c, rfl, Ne.symm hspace.1⟩

theorem StartsWithin.start {cs : List Char} {text : String} (h : StartsWithin cs text)
    (hspace : ' ' ∉ cs) : ∃ c, text.toList.head? = some c ∧ c ≠ ' ' := by
  obtain ⟨c, hc, hhead⟩ := h
  exact ⟨c, hhead, fun heq => hspace (heq ▸ hc)⟩

/-- A check of the first character, as a literal passes it by computation. -/
theorem exists_start_of_any {text : String} (h : text.toList.head?.any (· != ' ') = true) :
    ∃ c, text.toList.head? = some c ∧ c ≠ ' ' := by
  obtain ⟨c, hhead, hspace⟩ := (Option.any_eq_true _ _).1 h
  exact ⟨c, hhead, bne_iff_ne.1 hspace⟩

/-! ### Arrays of numbers -/

namespace Text

theorem dropWhile_eq_space_splitOn {sep : Char} (hsep : sep ≠ ' ') (cs : List Char) :
    ∃ part parts, splitOn sep cs = part :: parts ∧
      splitOn sep (' ' :: cs) = (' ' :: part) :: parts := by
  obtain ⟨part, parts, hp⟩ := List.exists_cons_of_ne_nil (splitOn_ne_nil sep cs)
  refine ⟨part, parts, hp, ?_⟩
  rw [splitOn, if_neg (Ne.symm hsep), hp]

end Text

namespace Script

/-- The numbers of an array, given what stands between its brackets. -/
def readNumbers (cs : List Char) : List Nat :=
  (Text.splitOn ',' cs).filterMap fun part =>
    Text.Numeral.parseDigits? (part.dropWhile (· == ' '))

/-- The elements of an array, given what stands between its brackets, if all of them are numbers. -/
def readElements? (cs : List Char) : Option (List Nat) :=
  (Text.splitOn ',' cs).mapM fun part => Text.Numeral.parseDigits? (part.dropWhile (· == ' '))

theorem filterMap_of_mapM {α β : Type} {f : α → Option β} {xs : List α} {ys : List β}
    (h : xs.mapM f = some ys) : xs.filterMap f = ys := by
  induction xs generalizing ys with
  | nil => exact Option.some.inj h
  | cons x xs ih =>
    rw [List.mapM_cons] at h
    obtain ⟨y, hy, h⟩ := Option.bind_eq_some_iff.1 h
    obtain ⟨zs, hzs, h⟩ := Option.bind_eq_some_iff.1 h
    rw [List.filterMap_cons_some hy, ih hzs]
    exact Option.some.inj h

theorem readNumbers_of_readElements? {cs : List Char} {ns : List Nat}
    (h : readElements? cs = some ns) : readNumbers cs = ns :=
  filterMap_of_mapM h

theorem readElements?_space (cs : List Char) : readElements? (' ' :: cs) = readElements? cs := by
  have hcomma : ',' ≠ ' ' := by decide
  obtain ⟨part, parts, hpart, hspace⟩ := Text.dropWhile_eq_space_splitOn hcomma cs
  rw [readElements?, readElements?, hpart, hspace]
  rfl

theorem readElements?_append (xs ys : List Char) :
    readElements? (xs ++ ',' :: ys) = do
      let ns ← readElements? xs
      let ms ← readElements? ys
      return ns ++ ms := by
  rw [readElements?, Text.splitOn_append, List.mapM_append]
  rfl

theorem notMem_of_parseDigits? {cs : List Char} {n : Nat}
    (h : Text.Numeral.parseDigits? cs = some n) {c : Char} (hc : c.isDigit = false) : c ∉ cs := by
  rw [Text.Numeral.parseDigits?] at h
  split_ifs at h with hdigits
  rw [Text.Numeral.isDigits, Bool.and_eq_true, List.all_eq_true] at hdigits
  intro hmem
  rw [hdigits.2 c hmem] at hc
  cases hc

theorem readElements?_of_parseDigits? {cs : List Char} {n : Nat}
    (h : Text.Numeral.parseDigits? cs = some n) : readElements? cs = some [n] := by
  have hspace : cs.dropWhile (· == ' ') = cs := by
    rw [List.dropWhile_eq_self_iff]
    intro hpos hspace
    have hmem := List.getElem_mem hpos
    rw [beq_iff_eq.1 hspace] at hmem
    exact notMem_of_parseDigits? h rfl hmem
  rw [readElements?, Text.splitOn_of_notMem (notMem_of_parseDigits? h rfl), List.mapM_cons, hspace,
    h]
  rfl

/-- Numbers are read as they were written. -/
theorem readElements?_joinWith {parts : List String} {ns : List Nat}
    (h : List.Forall₂ (fun part n => Text.Numeral.parseDigits? part.toList = some n) parts ns)
    (hne : parts ≠ []) : readElements? (Text.joinWith ", " parts).toList = some ns := by
  induction h with
  | nil => exact absurd rfl hne
  | @cons part n parts ns hpart hrest ih =>
    by_cases hnil : parts = []
    · subst hnil
      rw [List.forall₂_nil_left_iff.1 hrest]
      exact readElements?_of_parseDigits? hpart
    · have htext : (Text.joinWith ", " (part :: parts)).toList =
          part.toList ++ ',' :: ' ' :: (Text.joinWith ", " parts).toList := by
        rw [Text.joinWith_cons_of_ne_nil _ _ hnil, String.toList_append, String.toList_append,
          List.append_assoc]
        rfl
      rw [htext, readElements?_append, readElements?_of_parseDigits? hpart, readElements?_space,
        ih hnil]
      rfl

theorem notMem_decimal {n : Int32} (h : 0 < n) {c : Char} (hc : c.isDigit = false) :
    c ∉ (decimal n).toList := by
  intro hmem
  rw [isDigit_of_mem_decimal h hmem] at hc
  cases hc

theorem readNumbers_joinWith {ns : List Int32} (h : ∀ n ∈ ns, 0 < n) :
    readNumbers (Text.joinWith ", " (ns.map decimal)).toList = ns.map (·.toNatClampNeg) := by
  by_cases hnil : ns = []
  · rw [hnil]
    rfl
  · refine readNumbers_of_readElements? (readElements?_joinWith ?_ (by simpa using hnil))
    rw [List.forall₂_map_left_iff, List.forall₂_map_right_iff, List.forall₂_same]
    exact fun n hn => parseDigits?_decimal (h n hn)

theorem notMem_numbers {ns : List Int32} (h : ∀ n ∈ ns, 0 < n) {c : Char}
    (hc : c.isDigit = false) (hglue : c ∉ ", ".toList) :
    c ∉ (Text.joinWith ", " (ns.map decimal)).toList :=
  Text.notMem_joinWith hglue (List.forall_mem_map.2 fun n hn => notMem_decimal (h n hn) hc)

theorem toList_numberArray (ns : List Int32) : (numberArray ns).toList =
    '[' :: ((Text.joinWith ", " (ns.map decimal)).toList ++ [']']) := by
  rw [numberArray, String.toList_append, String.toList_append]
  rfl

/-- The arrays of numbers in an array of them. -/
def readArrays (cs : List Char) : List (List Nat) :=
  (Text.splitOn ']' cs).filterMap fun part =>
    (Text.splitOnce? '[' part).map fun inner => readNumbers inner.2

theorem readArrays_append (xs ys : List Char) :
    readArrays (xs ++ ']' :: ys) = readArrays xs ++ readArrays ys := by
  rw [readArrays, Text.splitOn_append, List.filterMap_append, readArrays, readArrays]

theorem readArrays_eq_nil {cs : List Char} (hopen : '[' ∉ cs) (hclose : ']' ∉ cs) :
    readArrays cs = [] := by
  rw [readArrays, Text.splitOn_of_notMem hclose,
    List.filterMap_cons_none (by rw [Text.splitOnce?_of_notMem hopen]; rfl), List.filterMap_nil]

theorem readArrays_array {before : List Char} (hopen : '[' ∉ before) (hclose : ']' ∉ before)
    {ns : List Int32} (h : ∀ n ∈ ns, 0 < n) (rest : List Char) :
    readArrays (before ++ ((numberArray ns).toList ++ rest)) =
      ns.map (·.toNatClampNeg) :: readArrays rest := by
  have hnumbers := notMem_numbers h (c := ']') rfl (by decide)
  have harray : readArrays (before ++ '[' :: (Text.joinWith ", " (ns.map decimal)).toList) =
      [ns.map (·.toNatClampNeg)] := by
    rw [readArrays, Text.splitOn_of_notMem (by simp [hclose, hnumbers]),
      List.filterMap_cons_some (by rw [Text.splitOnce?_append hopen]; rfl), List.filterMap_nil]
    exact congrArg (fun numbers => [numbers]) (readNumbers_joinWith h)
  have htext : before ++ ((numberArray ns).toList ++ rest) =
      (before ++ '[' :: (Text.joinWith ", " (ns.map decimal)).toList) ++ ']' :: rest := by
    rw [toList_numberArray]
    simp
  rw [htext, readArrays_append, harray, List.singleton_append]

/-- Arrays are read as they were written, up to the bracket that closes the array of them. -/
theorem readArrays_joinWith {before : List Char} (hopen : '[' ∉ before) (hclose : ']' ∉ before)
    {groups : List (List Int32)} (h : ∀ ns ∈ groups, ∀ n ∈ ns, 0 < n) {rest : List Char}
    (hrestOpen : '[' ∉ rest) (hrestClose : ']' ∉ rest) :
    readArrays (before ++ ((Text.joinWith ", " (groups.map numberArray)).toList ++ ']' :: rest)) =
      groups.map fun ns => ns.map (·.toNatClampNeg) := by
  induction groups generalizing before with
  | nil =>
    rw [List.map_nil, Text.joinWith_nil, String.toList_empty, List.nil_append, readArrays_append,
      readArrays_eq_nil hopen hclose, readArrays_eq_nil hrestOpen hrestClose]
    rfl
  | cons ns groups ih =>
    rw [List.forall_mem_cons] at h
    -- the last array is followed by the bracket that closes the list, others by a comma
    by_cases hnil : groups = []
    · have hend : readArrays (']' :: rest) = [] := by
        rw [← List.nil_append (']' :: rest), readArrays_append,
          readArrays_eq_nil hrestOpen hrestClose]
        rfl
      rw [hnil, List.map_singleton, Text.joinWith_singleton, readArrays_array hopen hclose h.1,
        hend]
      rfl
    · have hne : groups.map numberArray ≠ [] := by simpa using hnil
      have hglue : '[' ∉ ", ".toList ∧ ']' ∉ ", ".toList := by decide
      have hrest := ih hglue.1 hglue.2 h.2
      rw [List.map_cons, Text.joinWith_cons_of_ne_nil _ _ hne, String.toList_append,
        String.toList_append, List.append_assoc, List.append_assoc,
        readArrays_array hopen hclose h.1, hrest, List.map_cons]

/-! ### Statements one after the other -/

theorem statements_cons (l : Line) (lines : List Line) (h : IsStatement l.text) :
    statements (render (l :: lines)) = l.text :: statements (render lines) := by
  obtain ⟨n, hn⟩ := toList_render l
  have hne : l.text ≠ "" := by
    obtain ⟨c, hc, -⟩ := h.start
    rintro hempty
    rw [hempty] at hc
    cases hc
  have hpad : '\n' ∉ List.replicate n ' ' ++ l.text.toList := by
    rw [List.mem_append, not_or]
    exact ⟨fun hmem => absurd (List.eq_of_mem_replicate hmem) (by decide), h.oneLine⟩
  rw [statements, render_cons, String.toList_append, hn, List.append_assoc, List.singleton_append,
    Text.splitOn_append, Text.splitOn_of_notMem hpad, List.map_append, List.filter_append,
    List.map_singleton, dropWhile_replicate_append h.start, String.ofList_toList,
    List.filter_singleton, decide_eq_true hne, statements]
  rfl

/-- The text of a member that is printed at a depth. -/
def Member.text (depth : Nat) (member : Member) : String :=
  render (indentBy depth member.lines)

/-- The statements of a member that is printed at a depth. -/
def Member.statements (depth : Nat) (member : Member) : List String :=
  Script.statements (member.text depth)

/-- The lines of a member are its statements, if none is broken and none starts with a space. -/
theorem statements_member {member : Member} (hlines : OneLines member.lines)
    (hstart : ∀ text ∈ texts member.lines, ∃ c, text.toList.head? = some c ∧ c ≠ ' ')
    (depth : Nat) : member.statements depth = texts member.lines := by
  have hstatements : ∀ text ∈ texts member.lines, IsStatement text :=
    fun text htext => ⟨hlines text htext, hstart text htext⟩
  rw [Member.statements, Member.text, statements_render (by rwa [texts_indentBy]), texts_indentBy]

/-- The text of a class that has the members. -/
def printedClass (depth : Nat) (m : MessageClass) (printed : List Member) : String :=
  render (indentBy depth (deprecation m.deprecated)) ++
    (Line.render ⟨depth, "export class " ++ m.name ++ " extends " ++ m.runtime ++
      ".Message \x7b"⟩ ++
    (String.join (printed.map (Member.text (depth + 1))) ++ Line.render ⟨depth, "\x7d"⟩))

/-- The statements of each member of a class that is printed at a depth. -/
def memberStatements (depth : Nat) (m : MessageClass) : List (List String) :=
  (members m).map (Member.statements (depth + 1))

theorem render_flatMap_members (depth : Nat) (ms : List Member) :
    render (indentBy depth (ms.flatMap Member.lines)) =
      String.join (ms.map (Member.text depth)) := by
  induction ms with
  | nil => rfl
  | cons member ms ih =>
    rw [List.flatMap_cons, indentBy_append, render_append, ih, List.map_cons, String.join_cons]
    rfl

/-- A class is printed with its members, one after the other. -/
theorem render_messageClass (depth : Nat) (m : MessageClass) :
    render (indentBy depth (messageClass m)) = printedClass depth m (members m) := by
  rw [messageClass, indentBy_append, render_append, indentBy_block, render_cons, render_append,
    render_flatMap_members, render_cons, render_nil, String.append_empty, printedClass]

/-! ### Where members begin -/

/-- The first of the statements begins with the text. -/
def Begins (front : String) (statements : List String) : Prop :=
  ∃ rest others, statements = (front ++ rest) :: others

/-- Neither text begins with the other. -/
def Apart (s t : String) : Prop :=
  s.toList.isPrefixOf t.toList = false ∧ t.toList.isPrefixOf s.toList = false

instance (s t : String) : Decidable (Apart s t) :=
  inferInstanceAs (Decidable (_ ∧ _))

theorem isPrefixOf?_eq_none_of_apart {s t : String} (h : Apart s t) (rest : String) :
    s.toList.isPrefixOf? (t ++ rest).toList = none := by
  rw [Option.eq_none_iff_forall_not_mem]
  intro cs hcs
  have heq := List.isPrefixOf?_eq_some_iff_append_eq.1 hcs
  rw [String.toList_append] at heq
  rcases List.append_eq_append_iff.1 heq with ⟨as, hs, -⟩ | ⟨bs, ht, -⟩
  · have hpre := List.isPrefixOf_iff_prefix.2 ⟨as, hs.symm⟩
    rw [h.1] at hpre
    cases hpre
  · have hpre := List.isPrefixOf_iff_prefix.2 ⟨bs, ht.symm⟩
    rw [h.2] at hpre
    cases hpre

/-- The statements are not those of an accessor. -/
def NoAccessor (statements : List String) : Prop :=
  ∃ front, Apart "get " front ∧ Apart "set " front ∧ Begins front statements

theorem NoAccessor.of_lines {member : Member} {front tail : String} {rest : List Line}
    (hget : Apart "get " front) (hset : Apart "set " front)
    (hstart : front.toList.head?.any (· != ' ') = true) (hfront : OneLine front)
    (htail : OneLine tail)
    (hlines : member.lines = line (front ++ tail) :: rest) (depth : Nat) :
    NoAccessor (member.statements depth) := by
  obtain ⟨c, hc, hspace⟩ := exists_start_of_any hstart
  have hhead : (front ++ tail).toList.head? = some c := by
    rw [String.toList_append, List.head?_append, hc]
    rfl
  refine ⟨front, hget, hset, tail, statements (render (indentBy depth rest)), ?_⟩
  rw [Member.statements, Member.text, hlines]
  exact statements_cons ⟨0 + depth, front ++ tail⟩ _
    ⟨oneLine_append.2 ⟨hfront, htail⟩, c, hhead, hspace⟩

/-- A construct with an object type begins with the text in front of it. -/
theorem objectTyped_block (before : String) (entries : List (String × String)) {after : String}
    (hafter : OneLine after) (body : List Line) : ∃ tail rest, OneLine tail ∧
      (Signature.objectTyped before entries after).block body = line (before ++ tail) :: rest := by
  rw [Signature.block, Signature.lines]
  split_ifs
  · refine ⟨"\x7b\x7d" ++ after, indent body ++ [line "\x7d"], by simp [hafter], ?_⟩
    rw [String.append_assoc]
    rfl
  · exact ⟨"\x7b", _, by simp, rfl⟩

theorem texts_objectTyped (before : String) (entries : List (String × String)) (after : String) :
    texts (Signature.objectTyped before entries after).lines =
      if entries = [] then [before ++ "\x7b\x7d" ++ after]
      else (before ++ "\x7b") :: entries.map (fun e => e.1 ++ "?: " ++ e.2 ++ ";") ++
        ["\x7d" ++ after] := by
  rw [Signature.lines]
  split_ifs
  · rfl
  · rw [texts_block, texts, List.map_map]
    rfl

section Others

variable {m : MessageClass} (depth : Nat)

theorem noAccessor_slots (groups : List (List Int32)) :
    NoAccessor ((Member.slots groups).statements depth) := by
  have harrays : OneLine (Text.joinWith ", " (groups.map numberArray)) :=
    oneLine_joinWith (oneLine_literal rfl)
      (List.forall_mem_map.2 fun ns _ => oneLine_numberArray ns)
  have hlines : (Member.slots groups).lines = line ("#one_of_decls: number[][] = [" ++
      (Text.joinWith ", " (groups.map numberArray) ++ "];")) :: [] := by
    rw [← String.append_assoc]
    rfl
  exact .of_lines (by decide) (by decide) (by decide) (by simp) (by simp [harrays]) hlines depth

theorem noAccessor_constructor : NoAccessor ((constructor m).statements depth) := by
  have hlines : ∃ tail rest, OneLine tail ∧ (constructor m).lines =
      line ("constructor" ++ "(data?: any[] | " ++ tail) :: rest :=
    objectTyped_block _ _ (by simp) _
  obtain ⟨tail, rest, htail, hlines⟩ := hlines
  exact .of_lines (by decide) (by decide) (by decide) (by simp) htail hlines depth

variable (hruntime : OneLine m.runtime) (hname : OneLine m.name)

include hname in
theorem noAccessor_fromObject : NoAccessor ((fromObject m).statements depth) := by
  have hlines : ∃ tail rest, OneLine tail ∧ (fromObject m).lines =
      line (Member.modifiers true false ++ "fromObject" ++ "(data: " ++ tail) :: rest :=
    objectTyped_block _ _ (by simp [hname]) _
  obtain ⟨tail, rest, htail, hlines⟩ := hlines
  exact .of_lines (by decide) (by decide) (by decide) (by simp [Member.modifiers]) htail hlines
    depth

/-- A method with a plain signature. -/
theorem noAccessor_method (isStatic overrides : Bool) {name signature : String} (body : List Line)
    (hget : Apart "get " (Member.modifiers isStatic overrides ++ name))
    (hset : Apart "set " (Member.modifiers isStatic overrides ++ name))
    (hstart : (Member.modifiers isStatic overrides ++ name).toList.head?.any (· != ' ') = true)
    (hname : OneLine name) (hsignature : OneLine signature) :
    NoAccessor
      ((Member.method isStatic overrides name (.plain signature) body).statements depth) :=
  .of_lines hget hset hstart (oneLine_append.2 ⟨oneLine_modifiers _ _, hname⟩) hsignature rfl depth

theorem noAccessor_toObject : NoAccessor ((toObject m).statements depth) := by
  unfold toObject
  cases m.explicitOverride <;>
    exact noAccessor_method depth _ _ _ (by decide) (by decide) (by decide) (by simp) (by simp)

theorem noAccessor_overload {signature : String} (h : OneLine signature) :
    NoAccessor ((Member.overload "serialize" signature).statements depth) := by
  have hlines : (Member.overload "serialize" signature).lines =
      line ("serialize" ++ (signature ++ ";")) :: [] := by
    rw [← String.append_assoc]
    rfl
  exact .of_lines (by decide) (by decide) (by decide) (by simp) (by simp [h]) hlines depth

include hruntime in
theorem noAccessor_serialize : NoAccessor ((serialize m).statements depth) :=
  noAccessor_method depth _ _ _ (by decide) (by decide) (by decide) (by simp) (by simp [hruntime])

include hruntime hname in
theorem noAccessor_deserialize : NoAccessor ((deserialize m).statements depth) :=
  noAccessor_method depth _ _ _ (by decide) (by decide) (by decide) (by simp)
    (by simp [hruntime, hname])

include hname in
theorem noAccessor_binaryMethods :
    ∀ member ∈ binaryMethods m, NoAccessor (member.statements depth) := by
  unfold binaryMethods
  rw [List.forall_mem_cons, List.forall_mem_singleton]
  cases m.explicitOverride <;>
    exact ⟨noAccessor_method depth _ _ _ (by decide) (by decide) (by decide) (by simp) (by simp),
      noAccessor_method depth _ _ _ (by decide) (by decide) (by decide) (by simp) (by simp [hname])⟩

end Others

/-- What finds nothing in members that are no accessors finds what it finds in the accessors of
fields, then what it finds in those of oneofs. -/
theorem filterMap_memberStatements {α : Type} {read : List String → Option α}
    (hread : ∀ statements, NoAccessor statements → read statements = none) {m : MessageClass}
    (hruntime : OneLine m.runtime) (hname : OneLine m.name) (depth : Nat) :
    (memberStatements depth m).filterMap read =
      (m.fields.flatMap fun f => (fieldAccessors m f).filterMap fun member =>
        read (member.statements (depth + 1))) ++
      m.oneofs.filterMap fun oneof => read ((oneofCase m oneof).statements (depth + 1)) := by
  -- the other members are gone through in their groups
  have hnone : ∀ ms : List Member, (∀ member ∈ ms, NoAccessor (member.statements (depth + 1))) →
      (ms.filterMap fun member => read (member.statements (depth + 1))) = [] :=
    fun ms h => List.filterMap_eq_nil_iff.2 fun member hmember => hread _ (h member hmember)
  have hfirst := hnone [.slots (m.oneofs.map (·.members)), constructor m] (by
    rw [List.forall_mem_cons, List.forall_mem_singleton]
    exact ⟨noAccessor_slots _ _, noAccessor_constructor _⟩)
  have hconversions := hnone [fromObject m, toObject m] (by
    rw [List.forall_mem_cons, List.forall_mem_singleton]
    exact ⟨noAccessor_fromObject _ hname, noAccessor_toObject _⟩)
  have hoverloads := hnone (serializeOverloads m) (by
    rw [serializeOverloads, List.forall_mem_cons, List.forall_mem_singleton]
    exact ⟨noAccessor_overload _ (by simp), noAccessor_overload _ (by simp [hruntime])⟩)
  have hwire := hnone [serialize m, deserialize m] (by
    rw [List.forall_mem_cons, List.forall_mem_singleton]
    exact ⟨noAccessor_serialize _ hruntime, noAccessor_deserialize _ hruntime hname⟩)
  have hbinary := hnone (binaryMethods m) (noAccessor_binaryMethods _ hname)
  rw [memberStatements, members, List.filterMap_map]
  simp only [Function.comp_def, List.filterMap_append, hfirst, hconversions, hoverloads, hwire,
    hbinary, List.nil_append, List.append_nil, List.filterMap_flatMap, List.filterMap_map]

theorem flatMap_if_singleton {α β : Type} (p : α → Bool) (g : α → β) (xs : List α) :
    (xs.flatMap fun x => if p x then [g x] else []) = (xs.filter p).map g := by
  induction xs with
  | nil => rfl
  | cons x xs ih =>
    rw [List.flatMap_cons, ih, List.filter_cons]
    split_ifs <;> rfl

/-! ### Accessors -/

/-- The statements of an accessor with one statement. -/
def accessorStatements (head statement : String) : List String :=
  [head, statement, "\x7d"]

theorem isStatement_close : IsStatement "\x7d" :=
  .of_startsWithin (oneLine_literal rfl) (.literal (List.mem_singleton_self _)) (by decide)

theorem statements_block {head statement : String} (hhead : IsStatement head)
    (hstatement : IsStatement statement) (depth : Nat) :
    statements (render (indentBy depth (block head [line statement] "\x7d"))) =
      accessorStatements head statement := by
  rw [statements_render (by simp [line, hhead, hstatement, isStatement_close])]
  simp [line, accessorStatements]

/-- The comment of a deprecated member is its first statement. -/
theorem statements_deprecation (deprecated : Bool) (depth : Nat) (lines : List Line) :
    statements (render (indentBy depth (deprecation deprecated ++ lines))) =
      (if deprecated then ["/** @deprecated */"] else []) ++
        statements (render (indentBy depth lines)) := by
  have hcomment : IsStatement "/** @deprecated */" :=
    .of_startsWithin (oneLine_literal rfl) (.literal (List.mem_singleton_self _)) (by decide)
  cases deprecated with
  | false => rfl
  | true => exact statements_cons ⟨0 + depth, "/** @deprecated */"⟩ _ hcomment

theorem isStatement_getter {name : String} (h : OneLine name) :
    IsStatement ("get " ++ name ++ "() \x7b") := by
  have hstart : StartsWithin ['g'] ("get " ++ (name ++ "() \x7b")) := .literal_append (by decide)
  rw [String.append_assoc]
  exact .of_startsWithin (by simp [h]) hstart (by decide)

theorem isStatement_setter {name type : String} (hname : OneLine name) (htype : OneLine type) :
    IsStatement ("set " ++ name ++ "(value: " ++ type ++ ") \x7b") := by
  have hstart : StartsWithin ['s'] ("set " ++ (name ++ ("(value: " ++ (type ++ ") \x7b")))) :=
    .literal_append (by decide)
  simp only [String.append_assoc]
  exact .of_startsWithin (by simp [hname, htype]) hstart (by decide)

theorem isStatement_return {value : String} (h : OneLine value) :
    IsStatement ("return " ++ value ++ ";") := by
  have hstart : StartsWithin ['r'] ("return " ++ (value ++ ";")) := .literal_append (by decide)
  rw [String.append_assoc]
  exact .of_startsWithin (by simp [h]) hstart (by decide)

theorem startsWithin_messageCall (function : String) (arguments : List String) (rest : String) :
    StartsWithin ['p'] (messageCall "pb_1" function arguments ++ rest) := by
  simp only [messageCall, String.append_assoc]
  exact .literal_append (by decide)

theorem startsWithin_setterCall (f : FieldDeclaration) (slot : Option String) (rest : String) :
    StartsWithin ['p'] (setterCall "pb_1" f slot ++ rest) := by
  unfold setterCall
  dsimp only
  split <;> exact startsWithin_messageCall _ _ rest

/-! ### Fields that are printed on one line each -/

/-- A field whose accessors can be read back. -/
structure Readable (f : FieldDeclaration) : Prop where
  positive : 0 < f.number
  name : IsIdentifier f.name
  type : ∀ text ∈ f.type.strings, OneLine text
  default : OneLine f.defaultValue

/-- A class whose members can be read back. -/
structure ReadableClass (m : MessageClass) : Prop where
  runtime : m.runtime = "pb_1"
  name : OneLine m.name
  fields : ∀ f ∈ m.fields, Readable f
  oneofs : ∀ oneof ∈ m.oneofs, IsIdentifier oneof.name
  members : ∀ oneof ∈ m.oneofs, ∀ n ∈ oneof.members, 0 < n

theorem ReadableClass.oneLine_runtime {m : MessageClass} (h : ReadableClass m) :
    OneLine m.runtime :=
  h.runtime ▸ oneLine_literal rfl

theorem ReadableClass.memberFields {m : MessageClass} (h : ReadableClass m)
    (oneof : OneofDeclaration) :
    ∀ member ∈ m.memberFields oneof, 0 < member.1 ∧ IsIdentifier member.2 := by
  intro member hmember
  obtain ⟨-, f, hf, hnumber, hname⟩ := MessageClass.exists_field_of_mem_memberFields hmember
  exact ⟨hnumber ▸ (h.fields f hf).positive, hname ▸ (h.fields f hf).name⟩

section Accessors

variable {m : MessageClass} (hruntime : m.runtime = "pb_1") {f : FieldDeclaration} (hf : Readable f)
  (depth : Nat)

include hruntime hf

theorem statements_fieldGetter :
    (Member.getter f.deprecated f.name
        [line ("return " ++ getterValue m.runtime f ++ ";")]).statements depth =
      (if f.deprecated then ["/** @deprecated */"] else []) ++
        accessorStatements ("get " ++ f.name ++ "() \x7b")
          ("return " ++ getterValue m.runtime f ++ ";") := by
  have hone : OneLine m.runtime := hruntime ▸ oneLine_literal rfl
  have hvalue := oneLine_getterValue hf.type hf.default hone
  rw [Member.statements, Member.text, Member.lines, statements_deprecation,
    statements_block (isStatement_getter hf.name.oneLine) (isStatement_return hvalue)]

theorem statements_fieldSetter :
    (Member.setter f.name (propertyType f)
      [line (setterCall m.runtime f (fieldSlot m f) ++ ";")]).statements depth =
        accessorStatements ("set " ++ f.name ++ "(value: " ++ propertyType f ++ ") \x7b")
          (setterCall m.runtime f (fieldSlot m f) ++ ";") := by
  have hone : OneLine m.runtime := hruntime ▸ oneLine_literal rfl
  have hcall := oneLine_setterCall (f := f) hone (oneLine_fieldSlot (m := m) (f := f))
  have hstatement : IsStatement (setterCall m.runtime f (fieldSlot m f) ++ ";") := by
    rw [hruntime] at hcall ⊢
    exact .of_startsWithin (by simp [hcall]) (startsWithin_setterCall f _ _) (by decide)
  exact statements_block (isStatement_setter hf.name.oneLine (oneLine_propertyType hf.type))
    hstatement depth

theorem statements_presenceAccessor : (presenceAccessor m.runtime f).statements depth =
    accessorStatements ("get " ++ ("has_" ++ f.name) ++ "() \x7b")
      ("return " ++ messageCall m.runtime "getField" ["this", decimal f.number] ++
        " != null;") := by
  have hone : OneLine m.runtime := hruntime ▸ oneLine_literal rfl
  have hname := hf.name.oneLine
  have hcall : OneLine (messageCall m.runtime "getField" ["this", decimal f.number] ++
      " != null") := by
    simp [oneLine_messageCall, hone]
  have hstatement := isStatement_return hcall
  rw [← String.append_assoc, String.append_assoc] at hstatement
  exact statements_block (isStatement_getter (by simp [hname])) hstatement depth

/-- The getter of a field is deprecated, or starts with its head. -/
theorem fieldGetter_cases {P : List String → Prop}
    (hdeprecated : ∀ statements, Begins "/** @deprecated */" statements → P statements)
    (hplain : P (accessorStatements ("get " ++ f.name ++ "() \x7b")
      ("return " ++ getterValue m.runtime f ++ ";"))) :
    P ((Member.getter f.deprecated f.name
      [line ("return " ++ getterValue m.runtime f ++ ";")]).statements depth) := by
  rw [statements_fieldGetter hruntime hf]
  cases f.deprecated with
  | false => exact hplain
  | true => exact hdeprecated _ ⟨"", _, rfl⟩

theorem begins_fieldSetter : Begins "set " ((Member.setter f.name (propertyType f)
    [line (setterCall m.runtime f (fieldSlot m f) ++ ";")]).statements depth) := by
  rw [statements_fieldSetter hruntime hf]
  simp only [String.append_assoc]
  exact ⟨_, _, rfl⟩

theorem begins_presenceAccessor :
    Begins "get " ((presenceAccessor m.runtime f).statements depth) := by
  rw [statements_presenceAccessor hruntime hf, String.append_assoc]
  exact ⟨_, _, rfl⟩

end Accessors

end Script

/-! ### Lowered fields -/

namespace FileScope

variable {c : Config} {files : List FileDescriptor} {file : FileDescriptor}

theorem oneLine_bytesExpression (bytes : List UInt8) : OneLine (bytesExpression bytes) := by
  have hbytes : OneLine (Text.joinWith ", " (bytes.map fun b => toString b.toNat)) :=
    oneLine_joinWith (oneLine_literal rfl)
      (List.forall_mem_map.2 fun b _ => oneLine_toString b.toNat)
  exact oneLine_append.2 ⟨oneLine_append.2 ⟨oneLine_literal rfl, hbytes⟩, oneLine_literal rfl⟩

/-- Strings and byte strings are written as literals, which are on one line. -/
theorem oneLine_scalarDefault_of_hasLength {f : FieldDescriptor} {scalar : Scalar} {value : String}
    (hlength : scalar.hasLength = true) (h : scalarDefault f scalar = .ok value) :
    OneLine value := by
  unfold scalarDefault at h
  split at h
  next =>
    rw [Except.ok.injEq] at h
    subst h
    cases scalar <;> exact oneLine_literal rfl
  next text _ =>
    split at h
    next expression hexpression =>
      obtain rfl := Except.ok.inj h
      cases scalar with
      | string => exact Option.some.inj hexpression ▸ oneLine_quote text
      | bytes =>
        obtain ⟨bytes, -, rfl⟩ := Option.map_eq_some_iff.1 hexpression
        exact oneLine_bytesExpression bytes
      | _ => cases hlength
    next => cases h

/-- The fields of lowered messages can be read back, if their names are identifiers. -/
theorem readable_of_fieldDeclaration (hfiles : ∀ g ∈ files, g.ValidNames)
    {f : FieldDescriptor} {d : FieldDeclaration} (hname : IsIdentifier f.name)
    (hpositive : 0 < f.number)
    (hdefault : ∀ name, (FileScope.ofFile c (.ofFiles files) file).fieldType f =
      .ok (.enumeration name) → ∀ value, f.defaultValue? = some value → IsIdentifier value)
    (h : (FileScope.ofFile c (.ofFiles files) file).fieldDeclaration f = .ok d) :
    Script.Readable d := by
  have hwritable := writable_of_fieldDeclaration hfiles hname hpositive hdefault h
  obtain ⟨type, value, htype, hvalue, rfl⟩ := fieldDeclaration_eq_ok_iff.1 h
  refine ⟨hpositive, hname, hwritable.type.strings, ?_⟩
  cases hlength : type.hasLength with
  | false => exact hwritable.default hlength
  | true =>
    cases type with
    | scalar scalar =>
      unfold defaultValue at hvalue
      split_ifs at hvalue with hmany
      · exact Except.ok.inj hvalue ▸ oneLine_literal rfl
      · exact oneLine_scalarDefault_of_hasLength hlength hvalue
    | enumeration | message | map => cases hlength

/-- The classes of messages can be read back, if the names are identifiers and the numbers are
positive. -/
theorem readableClass_of_lowersMessage (hfiles : ∀ g ∈ files, g.ValidNames) {path : List String}
    {d : MessageDescriptor} {m : MessageClass}
    (hlowers : (FileScope.ofFile c (.ofFiles files) file).LowersMessage path d m)
    (hpositive : ∀ f ∈ d.fields, 0 < f.number)
    (hnames : (FileScope.ofFile c (.ofFiles files) file).ValidNames path d)
    (honeofs : ∀ name ∈ d.oneofs, IsIdentifier name) : Script.ReadableClass m := by
  obtain ⟨fields, hfields, rfl⟩ := hlowers
  have hdeclared := mapM_eq_ok_iff.1 hfields
  refine ⟨rfl, oneLine_declarationName _ hnames.message, fun g hg => ?_, fun oneof honeof => ?_,
    fun oneof honeof n hn => ?_⟩
  · obtain ⟨f, hf, hdeclaration⟩ := exists_of_mem_right hdeclared hg
    exact readable_of_fieldDeclaration hfiles (hnames.fields f hf) (hpositive f hf)
      (hnames.defaults f hf) hdeclaration
  · exact honeofs _ (mem_oneofDeclarations_fields honeof).1
  · obtain ⟨f, hf, rfl⟩ := (mem_oneofDeclarations_fields honeof).2 n hn
    exact hpositive f hf

end FileScope

end ProtoTypeScript
