import ProtoTypeScript.Proofs.Imports
import ProtoTypeScript.Proofs.Lowering
import ProtoTypeScript.Proofs.Registration
import ProtoTypeScript.Proofs.WireFormat

/-!
# Names and defaults on one line

If the names in a request are identifiers, no expression that a file is lowered to breaks a line.

* `IsIdentifier` is the form of names, `FileDescriptor.ValidNames` says it of a file's package,
  types and enum values, and `FileScope.ValidNames` of a message;
* `oneLine_of_hasType` and `oneLine_defaultValue`: types and defaults of fields are on one line. The
  defaults of strings and byte strings are left out, since nothing but accessors shows them.
-/

namespace ProtoTypeScript

open Outcome

/-! ### Identifiers -/

/-- Letters, digits and underscores, of which the first is no digit. -/
def isIdentifier : List Char → Bool
  | [] => false
  | c :: cs => !c.isDigit && (c :: cs).all fun d => d.isAlphanum || d == '_'

/-- The text is a name as the compiler takes it. -/
def IsIdentifier (name : String) : Prop :=
  isIdentifier name.toList = true

instance (name : String) : Decidable (IsIdentifier name) :=
  inferInstanceAs (Decidable (_ = _))

theorem newline_notMem_of_isIdentifier {cs : List Char} (h : isIdentifier cs = true) :
    '\n' ∉ cs := by
  cases cs with
  | nil => cases h
  | cons c cs =>
    rw [isIdentifier, Bool.and_eq_true, List.all_eq_true] at h
    exact fun hmem => absurd (h.2 _ hmem) (by decide)

theorem IsIdentifier.oneLine {name : String} (h : IsIdentifier name) : OneLine name :=
  newline_notMem_of_isIdentifier h

/-- The values of an enum. -/
def TypeDescriptor.values : TypeDescriptor → List EnumValue
  | enumeration e => e.values
  | message _ => []

/-- The names that a file declares are identifiers. -/
structure FileDescriptor.ValidNames (f : FileDescriptor) : Prop where
  package : f.package = "" ∨
    ∀ segment ∈ Text.splitOn '.' f.package.toList, isIdentifier segment = true
  types : ∀ t ∈ f.types, ∀ name ∈ t.path, IsIdentifier name
  values : ∀ t ∈ f.types, ∀ v ∈ t.descriptor.values, IsIdentifier v.name

/-- The names of a message inside the messages of `path` are identifiers, and so are the defaults
given to its fields of enum types. -/
structure FileScope.ValidNames (s : FileScope) (path : List String) (m : MessageDescriptor) :
    Prop where
  message : ∀ name ∈ path ++ [m.name], IsIdentifier name
  fields : ∀ f ∈ m.fields, IsIdentifier f.name
  defaults : ∀ f ∈ m.fields, ∀ name, s.fieldType f = .ok (.enumeration name) →
    ∀ value, f.defaultValue? = some value → IsIdentifier value

/-! ### Numerals -/

namespace Text.Numeral

theorem newline_notMem_of_all_isDigit {cs : List Char} (h : ∀ c ∈ cs, c.isDigit = true) :
    '\n' ∉ cs :=
  fun hmem => absurd (h _ hmem) (by decide)

theorem newline_notMem_of_isDigits {cs : List Char} (h : isDigits cs = true) : '\n' ∉ cs := by
  rw [isDigits, Bool.and_eq_true, List.all_eq_true] at h
  exact newline_notMem_of_all_isDigit h.2

theorem newline_notMem_of_parseDigits? {cs : List Char} {p : Nat → Bool}
    (h : (parseDigits? cs).any p = true) : '\n' ∉ cs := by
  unfold parseDigits? at h
  split_ifs at h with hdigits
  · exact newline_notMem_of_isDigits hdigits
  · cases h

theorem newline_notMem_of_isInteger {cs : List Char} (h : isInteger cs = true) : '\n' ∉ cs := by
  unfold isInteger at h
  split at h
  · simpa using newline_notMem_of_parseDigits? h
  · simpa using newline_notMem_of_parseDigits? h
  · exact newline_notMem_of_parseDigits? h

theorem newline_notMem_dropSign {cs : List Char} : '\n' ∉ dropSign cs ↔ '\n' ∉ cs := by
  unfold dropSign
  split <;> simp

theorem newline_notMem_of_isExponent {cs : List Char} (h : isExponent cs = true) : '\n' ∉ cs := by
  cases cs with
  | nil => simp
  | cons c cs =>
    rw [isExponent, Bool.and_eq_true, Bool.or_eq_true, beq_iff_eq, beq_iff_eq] at h
    have hrest := newline_notMem_dropSign.1 (newline_notMem_of_isDigits h.2)
    rcases h.1 with rfl | rfl <;> simpa using hrest

theorem newline_notMem_of_dropWhile {cs : List Char} (h : '\n' ∉ cs.dropWhile Char.isDigit) :
    '\n' ∉ cs := by
  rw [← List.takeWhile_append_dropWhile (p := Char.isDigit) (l := cs), List.mem_append, not_or]
  exact ⟨newline_notMem_of_all_isDigit (List.all_eq_true.1 List.all_takeWhile), h⟩

theorem newline_notMem_of_isUnsignedFraction {cs : List Char} (h : isUnsignedFraction cs = true) :
    '\n' ∉ cs := by
  refine newline_notMem_of_dropWhile ?_
  unfold isUnsignedFraction at h
  split at h
  next rest heq =>
    rw [Bool.and_eq_true] at h
    rw [heq]
    simpa using newline_notMem_of_dropWhile (newline_notMem_of_isExponent h.2)
  next =>
    rw [Bool.and_eq_true] at h
    exact newline_notMem_of_isExponent h.2

theorem newline_notMem_of_isSpecialName {cs : List Char} (h : isSpecialName cs = true) :
    '\n' ∉ cs := by
  intro hmem
  have hlower : '\n' ∈ cs.map Char.toLower := List.mem_map.2 ⟨'\n', hmem, rfl⟩
  simp only [isSpecialName, Bool.or_eq_true, beq_iff_eq] at h
  rcases h with (h | h) | h
  all_goals
    rw [h] at hlower
    exact absurd hlower (by decide)

theorem newline_notMem_of_isDecimalFraction {cs : List Char} (h : isDecimalFraction cs = true) :
    '\n' ∉ cs := by
  rw [isDecimalFraction, Bool.or_eq_true] at h
  refine newline_notMem_dropSign.1 ?_
  rcases h with h | h
  · exact newline_notMem_of_isSpecialName h
  · exact newline_notMem_of_isUnsignedFraction h

end Text.Numeral

/-! ### Expressions for types -/

/-- The zero value that is recorded of an enum is one of its values. -/
theorem TypeDescriptor.exists_of_kind_zero {d : TypeDescriptor} {q : TypeName} {zero : String}
    (h : d.kind q = .ok (.enumeration (some zero))) :
    ∃ first ∈ d.values, first.name = zero := by
  cases d with
  | enumeration e =>
    have hkind := TypeDescriptor.kind_enumeration.1 h
    unfold EnumDescriptor.kind at hkind
    cases hvalues : e.values with
    | nil => simp [hvalues] at hkind
    | cons first rest =>
      simp only [hvalues, TypeKind.enumeration.injEq] at hkind
      split_ifs at hkind
      exact ⟨first, by simp [values, hvalues], (Option.some.inj hkind).symm⟩
  | message m =>
    cases hm : m.mapEntry with
    | false => cases (TypeDescriptor.kind_message hm).1 h
    | true =>
      obtain ⟨key, value, -, -, -, -, hkind⟩ := (TypeDescriptor.kind_mapEntry hm).1 h
      cases hkind

theorem oneLine_joinWith {glue : String} (hglue : OneLine glue) {parts : List String}
    (h : ∀ part ∈ parts, OneLine part) : OneLine (Text.joinWith glue parts) :=
  Text.notMem_joinWith hglue h

theorem oneLine_toString (n : Nat) : OneLine (toString n) := by
  have hdigits : (toString n).toList = Nat.toDigits 10 n := String.toList_ofList
  rw [OneLine, hdigits]
  exact fun hmem => absurd (Nat.isDigit_of_mem_toDigits (by decide) (by decide) hmem) (by decide)

theorem oneLine_decimal {n : Int32} (h : 0 < n) : OneLine (Script.decimal n) :=
  fun hmem => absurd (Script.isDigit_of_mem_decimal h hmem) (by decide)

/-- What is no separator stands in a part. -/
theorem Text.exists_mem_splitOn {sep c : Char} {cs : List Char} (hc : c ∈ cs) (hsep : c ≠ sep) :
    ∃ part ∈ Text.splitOn sep cs, c ∈ part := by
  induction cs with
  | nil => cases hc
  | cons d cs ih =>
    obtain ⟨first, parts, hp⟩ := List.exists_cons_of_ne_nil (Text.splitOn_ne_nil sep cs)
    rw [Text.splitOn, hp]
    split_ifs with hd
    · subst hd
      obtain ⟨part, hpart, hin⟩ := ih (List.mem_of_ne_of_mem hsep hc)
      exact ⟨part, List.mem_cons_of_mem _ (hp ▸ hpart), hin⟩
    · rcases List.mem_cons.1 hc with rfl | hc
      · exact ⟨c :: first, List.mem_cons_self, List.mem_cons_self⟩
      · obtain ⟨part, hpart, hin⟩ := ih hc
        rw [hp] at hpart
        rcases List.mem_cons.1 hpart with rfl | hpart
        · exact ⟨d :: part, List.mem_cons_self, List.mem_cons_of_mem _ hin⟩
        · exact ⟨part, List.mem_cons_of_mem _ hpart, hin⟩

theorem FileDescriptor.ValidNames.oneLine_package {f : FileDescriptor} (h : f.ValidNames) :
    OneLine f.package := by
  rcases h.package with hempty | hsegments
  · rw [hempty]
    exact oneLine_literal rfl
  · intro hmem
    obtain ⟨segment, hsegment, hin⟩ := Text.exists_mem_splitOn hmem (show '\n' ≠ '.' by decide)
    exact newline_notMem_of_isIdentifier (hsegments segment hsegment) hin

namespace FileScope

variable {c : Config} {files : List FileDescriptor} {file : FileDescriptor}

theorem oneLine_localExpression (s : FileScope) {path : List String}
    (h : ∀ name ∈ path, IsIdentifier name) : OneLine (s.localExpression path) := by
  have hpath : ∀ name ∈ path, OneLine name := fun name hname => (h name hname).oneLine
  unfold localExpression flatIdentifier
  split
  · exact oneLine_joinWith (oneLine_literal rfl) hpath
  · exact oneLine_joinWith (oneLine_literal rfl) hpath

theorem oneLine_declarationName (s : FileScope) {path : List String} {name : String}
    (h : ∀ n ∈ path ++ [name], IsIdentifier n) : OneLine (s.declarationName path name) := by
  unfold declarationName flatIdentifier
  split
  · exact oneLine_joinWith (oneLine_literal rfl) fun n hn => (h n hn).oneLine
  · exact (h name (List.mem_append_right _ (List.mem_singleton_self _))).oneLine

theorem oneLine_identifierFor? {table : TypeTable} {d identifier : String}
    (h : (file.importDependencies table).1.identifierFor? d = some identifier) :
    OneLine identifier := by
  obtain ⟨i, hi, rfl, -⟩ := FileDescriptor.exists_import_of_identifierFor? h
  rw [FileDescriptor.importDependencies_imports, List.mem_mapIdx] at hi
  obtain ⟨n, -, rfl⟩ := hi
  exact oneLine_append.2 ⟨oneLine_literal rfl, oneLine_toString (UInt32.ofNat (n + 1)).toNat⟩

variable (hfiles : ∀ g ∈ files, g.ValidNames)

include hfiles

theorem oneLine_typeExpression {n : TypeName} {r : TypeRecord} {text : String}
    (hr : (TypeTable.ofFiles files).find? n = some r)
    (h : (FileScope.ofFile c (.ofFiles files) file).typeExpression r = .ok text) :
    OneLine text := by
  obtain ⟨g, hg, t, ht, hrecord⟩ :=
    TypeTable.mem_records_ofFiles_iff.1 (TypeTable.mem_of_find?_eq_some hr).1
  obtain ⟨-, -, hpackage, hpath, -⟩ := FileDescriptor.record_eq_ok_iff.1 hrecord
  have hnames : ∀ name ∈ r.path, IsIdentifier name := hpath ▸ (hfiles g hg).types t ht
  rcases typeExpression_eq_ok_iff.1 h with ⟨-, rfl⟩ | ⟨-, identifier, hidentifier, rfl⟩
  · exact oneLine_localExpression _ hnames
  · refine oneLine_append.2 ⟨oneLine_append.2 ⟨oneLine_identifierFor? hidentifier,
      oneLine_literal rfl⟩, ?_⟩
    unfold exportedExpression
    split
    · exact oneLine_localExpression _ hnames
    · refine oneLine_append.2 ⟨oneLine_append.2 ⟨?_, oneLine_literal rfl⟩,
        oneLine_localExpression _ hnames⟩
      rw [hpackage]
      exact (hfiles g hg).oneLine_package

theorem oneLine_of_hasType {f : FieldDescriptor} {type : FieldType}
    (h : (FileScope.ofFile c (.ofFiles files) file).HasType f type) : type.OneLine := by
  induction h with
  | scalar => trivial
  | enumeration _ hr _ hname => exact oneLine_typeExpression hfiles (resolve_eq_ok_iff.1 hr) hname
  | message _ hr _ hname => exact oneLine_typeExpression hfiles (resolve_eq_ok_iff.1 hr) hname
  | map _ _ _ _ _ _ ih => exact ih

/-! ### Defaults -/

theorem oneLine_zero_of_resolve {n : String} {r : TypeRecord} {zero : String}
    (hr : (FileScope.ofFile c (.ofFiles files) file).resolve n = .ok r)
    (hkind : r.kind = .enumeration (some zero)) : OneLine zero := by
  obtain ⟨g, hg, t, ht, hrecord⟩ := TypeTable.mem_records_ofFiles_iff.1
    (TypeTable.mem_of_find?_eq_some (resolve_eq_ok_iff.1 hr)).1
  have hdescriptor := (FileDescriptor.record_eq_ok_iff.1 hrecord).2.2.2.2
  rw [hkind] at hdescriptor
  obtain ⟨first, hfirst, rfl⟩ := TypeDescriptor.exists_of_kind_zero hdescriptor
  exact ((hfiles g hg).values t ht first hfirst).oneLine

theorem oneLine_enumDefault {f : FieldDescriptor} {name value : String} (hname : OneLine name)
    (hexplicit : ∀ v, f.defaultValue? = some v → IsIdentifier v)
    (h : (FileScope.ofFile c (.ofFiles files) file).enumDefault f name = .ok value) :
    OneLine value := by
  unfold enumDefault at h
  cases hdefault : f.defaultValue? with
  | some v =>
    rw [hdefault, Except.ok.injEq] at h
    subst h
    exact oneLine_append.2 ⟨oneLine_append.2 ⟨hname, oneLine_literal rfl⟩,
      (hexplicit v hdefault).oneLine⟩
  | none =>
    rw [hdefault] at h
    obtain ⟨r, hr, h⟩ := bind_eq_ok_iff.1 h
    split at h
    next zero hkind =>
      obtain rfl := pure_eq_ok_iff.1 h
      exact oneLine_append.2 ⟨oneLine_append.2 ⟨hname, oneLine_literal rfl⟩,
        oneLine_zero_of_resolve hfiles hr hkind⟩
    next =>
      obtain rfl := pure_eq_ok_iff.1 h
      exact oneLine_literal rfl

omit hfiles in
theorem oneLine_scalarExpression? {scalar : Scalar} {text expression : String}
    (hlength : scalar.hasLength = false) (h : scalarExpression? scalar text = some expression) :
    OneLine expression := by
  have hbool : ∀ {e}, (if text = "true" ∨ text = "false" then some text else none) = some e →
      OneLine e := by
    intro e he
    split_ifs at he with hword
    obtain rfl := Option.some.inj he
    rcases hword with rfl | rfl <;> exact oneLine_literal rfl
  have hinteger : ∀ {e}, (if Text.Numeral.isInteger text.toList then some text else none) = some e →
      OneLine e := by
    intro e he
    split_ifs at he with hnumeral
    obtain rfl := Option.some.inj he
    exact Text.Numeral.newline_notMem_of_isInteger hnumeral
  have hfraction : ∀ {e}, (if text = "inf" then some "Infinity"
      else if text = "-inf" then some "-Infinity"
      else if text = "nan" then some "NaN"
      else if Text.Numeral.isDecimalFraction text.toList then some text
      else none) = some e → OneLine e := by
    intro e he
    split_ifs at he with hinf hminus hnan hnumeral
    · exact Option.some.inj he ▸ oneLine_literal rfl
    · exact Option.some.inj he ▸ oneLine_literal rfl
    · exact Option.some.inj he ▸ oneLine_literal rfl
    · exact Option.some.inj he ▸ Text.Numeral.newline_notMem_of_isDecimalFraction hnumeral
  cases scalar with
  | bool => exact hbool h
  | double | float => exact hfraction h
  | string | bytes => cases hlength
  | _ => exact hinteger h

omit hfiles in
/-- The default of a scalar without a length is a numeral or a word. -/
theorem oneLine_scalarDefault {f : FieldDescriptor} {scalar : Scalar} {value : String}
    (hlength : scalar.hasLength = false) (h : scalarDefault f scalar = .ok value) :
    OneLine value := by
  unfold scalarDefault at h
  split at h
  next =>
    rw [Except.ok.injEq] at h
    subst h
    cases scalar <;> exact oneLine_literal rfl
  next text =>
    split at h
    next expression hexpression =>
      obtain rfl := Except.ok.inj h
      exact oneLine_scalarExpression? hlength hexpression
    next => cases h

/-- Defaults are on one line, unless they are strings or byte strings. -/
theorem oneLine_defaultValue {f : FieldDescriptor} {type : FieldType} {cardinality : Cardinality}
    {value : String} (hlength : type.hasLength = false)
    (htype : (FileScope.ofFile c (.ofFiles files) file).fieldType f = .ok type)
    (hexplicit : ∀ name, type = .enumeration name → ∀ v, f.defaultValue? = some v → IsIdentifier v)
    (h : (FileScope.ofFile c (.ofFiles files) file).defaultValue f type cardinality = .ok value) :
    OneLine value := by
  have htypes := oneLine_of_hasType hfiles (fieldType_eq_ok_iff.1 htype)
  unfold defaultValue at h
  split_ifs at h with hmany
  · rw [Except.ok.injEq] at h
    subst h
    exact oneLine_literal rfl
  · cases type with
    | scalar scalar => exact oneLine_scalarDefault hlength h
    | enumeration name => exact oneLine_enumDefault hfiles htypes (hexplicit name rfl) h
    | message name =>
      obtain rfl := Except.ok.inj h
      exact oneLine_literal rfl
    | map key mapped =>
      obtain rfl := Except.ok.inj h
      exact oneLine_literal rfl

end FileScope

end ProtoTypeScript
