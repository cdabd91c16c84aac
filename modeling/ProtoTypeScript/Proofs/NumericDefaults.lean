import ProtoTypeScript.Proofs.Binary64
import ProtoTypeScript.Proofs.StringLiterals

/-!
# Defaults of numbers

The default of a field of a numeric type is a text, and the accessor of the field shows an
expression for it.

* `Scalar.Denotes` says which texts are numbers of the type and which numbers: whole numbers are
  meant exactly, fractions as the numbers of 64 bits that they are read as;
* `IsScriptNumber` says which expressions are numbers in TypeScript: perhaps a sign, then a decimal
  literal without a zero in front of its digits, `Infinity` or `NaN`, rounded to 64 bits;
* `numericDefault_grammar`: a text that is no number of the type is refused, by its field's name.
  Any other text has an expression, which is its number, rounded, or none in TypeScript, and the
  latter just for the texts of `IsMisspelled`;
* `numericDefault_misread`: the texts `-nan` and `-007` are taken over as they stand, and so is a
  whole number that TypeScript rounds.
-/

namespace ProtoTypeScript

open Text.Numeral

/-- A numeric expression of TypeScript, without separators of digits, and its number: a literal or
a name, perhaps behind a sign. -/
def IsScriptNumber (expression : String) : Value → Prop :=
  Signed (fun cs w => ∃ v, Unsigned TidyWhole ScriptName cs v ∧ w = v.toBinary64) expression.toList

/-- The texts of numbers of a numeric type: integers of 128 bits, or any fractions and special
values, of 64 bits. -/
def Scalar.Denotes : Scalar → String → Value → Prop
  | .double, text, v | .float, text, v =>
    ∃ u, Number AnyWhole AnyCaseName text.toList u ∧ v = u.toBinary64
  | _, text, v => Signed Natural text.toList v ∧ v.FitsSigned

/-- The texts that stay as they are though they are no numbers in TypeScript. -/
def IsMisspelled (text : String) : Prop :=
  HasLeadingZero (dropSign text.toList) ∨
    IsForeignName (dropSign text.toList) ∧ text ∉ ["inf", "-inf", "nan"]

/-- What is said of numbers: `express` gives the expressions of the texts that denote one. -/
structure Expresses (denotes : String → Value → Prop) (express : String → Option String) :
    Prop where
  eq_none_iff : ∀ {text}, express text = none ↔ ∀ v, ¬ denotes text v
  hasMagnitude : ∀ {text v}, denotes text v → v.HasMagnitude
  value : ∀ {text e v w}, express text = some e → denotes text v → IsScriptNumber e w →
    w = v.toBinary64
  exists_iff : ∀ {text e}, express text = some e →
    ((∃ w, IsScriptNumber e w) ↔ ¬ IsMisspelled text)

/-- The expression is the number itself if there is room for its digits. -/
theorem Expresses.isScriptNumber_iff {denotes : String → Value → Prop}
    {express : String → Option String} (h : Expresses denotes express) {text e : String} {v : Value}
    (he : express text = some e) (hv : denotes text v) :
    IsScriptNumber e v ↔ ¬ IsMisspelled text ∧ v.IsBinary64 := by
  rw [← h.exists_iff he, ← Value.toBinary64_eq_self_iff (h.hasMagnitude hv)]
  constructor
  · intro hscript
    exact ⟨⟨v, hscript⟩, (h.value he hv hscript).symm⟩
  · rintro ⟨⟨w, hw⟩, hself⟩
    rwa [h.value he hv hw, hself] at hw

/-! ### Texts that stay as they are -/

/-- It makes no difference whether a number is rounded with its sign or without. -/
theorem isScriptNumber_iff {text : String} {w : Value} : IsScriptNumber text w ↔
    ∃ v, Number TidyWhole ScriptName text.toList v ∧ w = v.toBinary64 :=
  signed_map_iff Value.toBinary64_neg

theorem IsScriptNumber.eq_of_number {text : String} {v w : Value}
    (hv : Number AnyWhole AnyCaseName text.toList v) (hw : IsScriptNumber text w) :
    w = v.toBinary64 := by
  obtain ⟨u, hu, rfl⟩ := isScriptNumber_iff.1 hw
  rw [Number.unique hu.of_tidy hv]

theorem exists_isScriptNumber_iff {text : String} {v : Value}
    (hv : Number AnyWhole AnyCaseName text.toList v) (hkept : text ∉ ["inf", "-inf", "nan"]) :
    (∃ w, IsScriptNumber text w) ↔ ¬ IsMisspelled text := by
  have hround : (∃ w, IsScriptNumber text w) ↔ ∃ u, Number TidyWhole ScriptName text.toList u := by
    simp only [isScriptNumber_iff]
    exact ⟨fun ⟨_, u, hu, _⟩ => ⟨u, hu⟩, fun ⟨u, hu⟩ => ⟨_, u, hu, rfl⟩⟩
  rw [hround, IsMisspelled, and_iff_left hkept, not_or]
  exact exists_number_tidy_iff hv

namespace FileScope

/-- Integers stay as they are. -/
theorem expresses_integer :
    Expresses (fun text v => Signed Natural text.toList v ∧ v.FitsSigned)
      (fun text => if isInteger text.toList then some text else none) where
  eq_none_iff := by simp [isInteger_iff]
  hasMagnitude hv := Number.hasMagnitude (hv.1.mono Natural.unsigned)
  value := by
    intro text e v w he hv hw
    obtain ⟨-, he⟩ := Option.ite_none_right_eq_some.1 he
    obtain rfl := Option.some.inj he
    exact hw.eq_of_number (hv.1.mono Natural.unsigned)
  exists_iff := by
    intro text e he
    obtain ⟨hinteger, he⟩ := Option.ite_none_right_eq_some.1 he
    obtain rfl := Option.some.inj he
    obtain ⟨v, hv, -⟩ := isInteger_iff.1 hinteger
    refine exists_isScriptNumber_iff (hv.mono Natural.unsigned) fun hmem => ?_
    have hnames : ∀ name ∈ ["inf", "-inf", "nan"], isInteger name.toList = false := by decide
    cases (hnames text hmem).symm.trans hinteger

/-- The names that are replaced, with what stands for them. -/
def renamed : List (String × String) :=
  [("inf", "Infinity"), ("-inf", "-Infinity"), ("nan", "NaN")]

/-- A name that is replaced is the number that replaces it. -/
theorem exists_number_of_mem_renamed {text e : String} (h : (text, e) ∈ renamed) :
    ∃ v, Number AnyWhole AnyCaseName text.toList v ∧ Number TidyWhole ScriptName e.toList v := by
  simp only [renamed, List.mem_cons, Prod.mk.injEq, List.not_mem_nil, or_false] at h
  obtain ⟨rfl, rfl⟩ | ⟨rfl, rfl⟩ | ⟨rfl, rfl⟩ := h
  · exact ⟨_, .bare (.name (.infinity (by decide))), .bare (.name .infinity)⟩
  · exact ⟨_, .minus (.name (.infinity (by decide))), .minus (.name .infinity)⟩
  · exact ⟨_, .bare (.name (.nan (by decide))), .bare (.name .nan)⟩

theorem not_isMisspelled_of_mem_renamed {text e : String} (h : (text, e) ∈ renamed) :
    ¬ IsMisspelled text := by
  have hmem : text ∈ ["inf", "-inf", "nan"] := List.mem_map_of_mem (f := Prod.fst) h
  rintro (⟨c, rest, hzero, -⟩ | ⟨-, hnot⟩)
  · have hhead : ∀ name ∈ ["inf", "-inf", "nan"], (dropSign name.toList).head? ≠ some '0' := by
      decide
    exact hhead text hmem (by rw [hzero]; rfl)
  · exact hnot hmem

theorem scalarExpression?_double {text : String} {e : String} :
    scalarExpression? .double text = some e ↔ (text, e) ∈ renamed ∨
      text ∉ ["inf", "-inf", "nan"] ∧ isDecimalFraction text.toList = true ∧ text = e := by
  simp only [scalarExpression?, renamed]
  split_ifs with hinf hminus hnan hfraction
  · simp [hinf, @eq_comm _ e]
  · simp [hminus, @eq_comm _ e]
  · simp [hnan, @eq_comm _ e]
  · simp [hinf, hminus, hnan, hfraction]
  · simp [hinf, hminus, hnan, hfraction]

/-- Fractions stay as they are, and names but for three. -/
theorem expresses_double : Expresses (Scalar.Denotes .double) (scalarExpression? .double) where
  eq_none_iff := by
    intro text
    have hdenotes : (∀ v, ¬ Scalar.double.Denotes text v) ↔
        ¬ ∃ u, Number AnyWhole AnyCaseName text.toList u := by
      rw [← not_exists]
      exact not_congr ⟨fun ⟨_, u, hu, _⟩ => ⟨u, hu⟩, fun ⟨u, hu⟩ => ⟨_, u, hu, rfl⟩⟩
    rw [hdenotes, ← isDecimalFraction_iff, Option.eq_none_iff_forall_ne_some]
    constructor
    · intro hnone hfraction
      by_cases hmem : text ∈ renamed.map Prod.fst
      · obtain ⟨⟨_, e⟩, hrenamed, rfl⟩ := List.mem_map.1 hmem
        exact hnone e (scalarExpression?_double.2 (.inl hrenamed))
      · exact hnone text (scalarExpression?_double.2 (.inr ⟨hmem, hfraction, rfl⟩))
    · intro hfraction e he
      -- The names that are replaced are numbers of the grammar as well.
      obtain h | ⟨-, hfraction', -⟩ := scalarExpression?_double.1 he
      · obtain ⟨v, hv, -⟩ := exists_number_of_mem_renamed h
        exact hfraction (isDecimalFraction_iff.2 ⟨v, hv⟩)
      · exact hfraction hfraction'
  hasMagnitude := by
    rintro text _ ⟨u, hu, rfl⟩
    exact (Value.isBinary64_toBinary64 hu.hasMagnitude).hasMagnitude
  value := by
    rintro text e _ w he ⟨u, hu, rfl⟩ hw
    rw [Value.toBinary64_toBinary64 hu.hasMagnitude]
    obtain h | ⟨-, -, rfl⟩ := scalarExpression?_double.1 he
    · obtain ⟨v, htext, hscript⟩ := exists_number_of_mem_renamed h
      rw [Number.unique hu htext]
      exact hw.eq_of_number hscript.of_tidy
    · exact hw.eq_of_number hu
  exists_iff := by
    intro text e he
    obtain h | ⟨hkept, hfraction, rfl⟩ := scalarExpression?_double.1 he
    · obtain ⟨u, -, hscript⟩ := exists_number_of_mem_renamed h
      exact iff_of_true ⟨_, isScriptNumber_iff.2 ⟨u, hscript, rfl⟩⟩
        (not_isMisspelled_of_mem_renamed h)
    · obtain ⟨v, hv⟩ := isDecimalFraction_iff.1 hfraction
      exact exists_isScriptNumber_iff hv hkept

/-- **The expressions of numbers.** -/
theorem expresses_of_numeric {scalar : Scalar} (h : scalar.tsType = "number") :
    Expresses scalar.Denotes (scalarExpression? scalar) := by
  cases scalar
  case double | float => exact expresses_double
  case bool | string | bytes => exact absurd h (by decide)
  all_goals exact expresses_integer

end FileScope

/-- Fractions are read as numbers of 64 bits. -/
theorem Scalar.Denotes.isBinary64 {scalar : Scalar} {text : String} {v : Value}
    (h : scalar.Denotes text v) (hfraction : scalar = .double ∨ scalar = .float) :
    v.IsBinary64 := by
  rcases hfraction with rfl | rfl
  all_goals
    obtain ⟨u, hu, rfl⟩ := h
    exact Value.isBinary64_toBinary64 hu.hasMagnitude

/-! ### Fields -/

/-- **The grammar of numeric defaults**, for a field of a numeric type that has one value. A text
that denotes no number of the type is refused: the error has the field's name and the text. For any
other the accessor of the field shows an expression: it is no other number than the one that the
text denotes is rounded to, it is a number in TypeScript just if the text is not misspelled, and it
is the number of the text if moreover 64 bits have room for that, as they have for every
fraction. -/
theorem numericDefault_grammar (s : FileScope) {f : FieldDescriptor} {scalar : Scalar}
    {text : String} (hnumeric : scalar.tsType = "number") (htype : f.valueType = .scalar scalar)
    (hsingle : f.isRepeated = false) (hdefault : f.defaultValue? = some text) :
    (∀ failure, s.fieldDeclaration f = .error failure ↔
      (∀ v, ¬ scalar.Denotes text v) ∧ failure = .reported (.invalidDefault f.name text)) ∧
    ∀ v, scalar.Denotes text v → ∃ d, s.fieldDeclaration f = .ok d ∧
      (∀ runtime, Script.getterValue runtime d =
        Script.messageCall runtime "getFieldWithDefault"
          ["this", Script.decimal f.number, d.defaultValue] ++ " as number") ∧
      (∀ w, IsScriptNumber d.defaultValue w → w = v.toBinary64) ∧
      ((∃ w, IsScriptNumber d.defaultValue w) ↔ ¬ IsMisspelled text) ∧
      (IsScriptNumber d.defaultValue v ↔ ¬ IsMisspelled text ∧ v.IsBinary64) ∧
      (scalar = .double ∨ scalar = .float → v.IsBinary64) := by
  have hexpresses := FileScope.expresses_of_numeric hnumeric
  -- which defaults are refused, and what the accessor shows of the others
  refine ⟨fun failure => ?_, fun v hv => ?_⟩
  · rw [FileScope.fieldDeclaration_eq_error_iff_of_default htype hdefault,
      and_iff_right hsingle, hexpresses.eq_none_iff]
  · obtain ⟨e, he⟩ := Option.ne_none_iff_exists'.1 fun hnone => hexpresses.eq_none_iff.1 hnone v hv
    obtain ⟨d, hd, hnumber, hdtype, hrepeated, rfl⟩ :=
      FileScope.exists_fieldDeclaration_of_default (s := s) htype hsingle hdefault he
    refine ⟨d, hd, fun runtime => ?_, fun w => hexpresses.value he hv, hexpresses.exists_iff he,
      hexpresses.isScriptNumber_iff he hv, hv.isBinary64⟩
    rw [FieldDeclaration.getterValue_scalar hdtype hrepeated, hnumber, hnumeric]
    exact String.append_assoc

/-- A field whose default has a sign, a point and an exponent. -/
def slopeField : FieldDescriptor where
  name? := "slope"
  type? := some 1
  defaultValue? := "-1.50e2"

/-- A field of integers whose default is none. -/
def halfField : FieldDescriptor where
  name? := "half"
  type? := some 5
  defaultValue? := "0.5"

theorem numericDefault_grammar_slope :
    (∃ d, (FileScope.ofFile .default .empty {}).fieldDeclaration slopeField = .ok d ∧
      IsScriptNumber d.defaultValue (.finite true 150)) ∧
    (FileScope.ofFile .default .empty {}).fieldDeclaration halfField =
      .error (.reported (.invalidDefault "half" "0.5")) := by
  obtain ⟨-, hslope⟩ := numericDefault_grammar (.ofFile .default .empty {})
    (show Scalar.double.tsType = "number" from rfl)
    (show slopeField.valueType = .scalar .double from rfl) rfl
    (show slopeField.defaultValue? = some "-1.50e2" from rfl)
  obtain ⟨hhalf, -⟩ := numericDefault_grammar (.ofFile .default .empty {})
    (show Scalar.int32.tsType = "number" from rfl)
    (show halfField.valueType = .scalar .int32 from rfl) rfl
    (show halfField.defaultValue? = some "0.5" from rfl)
  have hchars : "-1.50e2".toList = ['-', '1', '.', '5', '0', 'e', '2'] := rfl
  have hvalue : decimal ['1'] ['5', '0'] 2 = 150 := by
    have hdigits : Nat.ofDigitChars 10 (['1'] ++ ['5', '0']) 0 = 150 := by decide
    rw [decimal, hdigits]
    norm_num
  have hslopeValue : Scalar.double.Denotes "-1.50e2" (.finite true 150) := by
    refine ⟨-.finite false 150, ?_, by decide +kernel⟩
    rw [← hvalue, hchars]
    exact .minus (.fraction (.point (w := ['1']) (d := ['5', '0']) rfl (by simp [AreDigits])
      (.letter (.inl rfl) (.bare ⟨rfl, rfl⟩))))
  have hspelled : ¬ IsMisspelled "-1.50e2" := by
    rintro (⟨c, rest, hzero, -⟩ | ⟨⟨hname, -⟩, -⟩)
    · cases hzero
    · cases hname
  refine ⟨?_, (hhalf _).2 ⟨fun v hv => ?_, rfl⟩⟩
  · obtain ⟨d, hd, -, -, -, hnumber, hfraction⟩ := hslope _ hslopeValue
    exact ⟨d, hd, hnumber.2 ⟨hspelled, hfraction (.inl rfl)⟩⟩
  · have hno : isInteger "0.5".toList = false := by decide
    cases hno.symm.trans (isInteger_iff.2 ⟨v, hv⟩)

/-- A field whose default is not a number, and has a sign. -/
def rippleField : FieldDescriptor where
  name? := "ripple"
  type? := some 1
  defaultValue? := "-nan"

/-- A field whose default has zeros in front. -/
def agentField : FieldDescriptor where
  name? := "agent"
  type? := some 5
  defaultValue? := "-007"

/-- A field whose default is the first whole number that 64 bits have no room for. -/
def ledgerField : FieldDescriptor where
  name? := "ledger"
  type? := some 3
  defaultValue? := "9007199254740993"

/-- Texts are taken over that denote a number of the field's type, and that are none in TypeScript
or another. -/
theorem numericDefault_misread :
    (Scalar.double.Denotes "-nan" .nan ∧ ∃ d,
      (FileScope.ofFile .default .empty {}).fieldDeclaration rippleField = .ok d ∧
      d.defaultValue = "-nan" ∧ ∀ w, ¬ IsScriptNumber "-nan" w) ∧
    (Scalar.int32.Denotes "-007" (.finite true 7) ∧ ∃ d,
      (FileScope.ofFile .default .empty {}).fieldDeclaration agentField = .ok d ∧
      d.defaultValue = "-007" ∧ ∀ w, ¬ IsScriptNumber "-007" w) ∧
    Scalar.int64.Denotes "9007199254740993" (.finite false 9007199254740993) ∧ ∃ d,
      (FileScope.ofFile .default .empty {}).fieldDeclaration ledgerField = .ok d ∧
      d.defaultValue = "9007199254740993" ∧
      ∀ w, IsScriptNumber "9007199254740993" w ↔ w = .finite false 9007199254740992 := by
  have hnan : FileScope.scalarExpression? .double "-nan" = some "-nan" := by decide
  have hagent : FileScope.scalarExpression? .int32 "-007" = some "-007" := by decide
  have hledger : FileScope.scalarExpression? .int64 "9007199254740993" =
      some "9007199254740993" := by decide
  have hdouble := FileScope.expresses_of_numeric (show Scalar.double.tsType = "number" from rfl)
  have hint32 := FileScope.expresses_of_numeric (show Scalar.int32.tsType = "number" from rfl)
  have hint64 := FileScope.expresses_of_numeric (show Scalar.int64.tsType = "number" from rfl)
  have hnanValue : Number AnyWhole AnyCaseName "-nan".toList (-.nan) :=
    .minus (.name (.nan (by decide)))
  have hagentValue : Signed Natural "-007".toList (-.finite false (7 : ℕ)) :=
    .minus (.digits ⟨by decide, by decide⟩)
  have hledgerValue : Scalar.int64.Denotes "9007199254740993" (.finite false 9007199254740993) :=
    ⟨.bare (.digits (n := 9007199254740993) ⟨by decide, by decide⟩),
      Nat.cast_lt.2 (show 9007199254740993 < signedBound by decide)⟩
  refine ⟨⟨⟨_, hnanValue, rfl⟩, ?_⟩, ⟨⟨hagentValue, ?_⟩, ?_⟩, hledgerValue, ?_⟩
  · obtain ⟨d, hd, -, -, -, hvalue⟩ := FileScope.exists_fieldDeclaration_of_default
      (s := .ofFile .default .empty {}) (f := rippleField) rfl rfl rfl hnan
    refine ⟨d, hd, hvalue, not_exists.1 (mt (hdouble.exists_iff hnan).1 (not_not_intro ?_))⟩
    exact .inr ⟨⟨by decide, by decide, by decide⟩, by decide⟩
  · exact Nat.cast_le.2 (show 7 ≤ signedBound by decide)
  · obtain ⟨d, hd, -, -, -, hvalue⟩ := FileScope.exists_fieldDeclaration_of_default
      (s := .ofFile .default .empty {}) (f := agentField) rfl rfl rfl hagent
    refine ⟨d, hd, hvalue, not_exists.1 (mt (hint32.exists_iff hagent).1 (not_not_intro ?_))⟩
    exact .inl ⟨'0', ['7'], rfl, rfl⟩
  · obtain ⟨d, hd, -, -, -, hvalue⟩ := FileScope.exists_fieldDeclaration_of_default
      (s := .ofFile .default .empty {}) (f := ledgerField) rfl rfl rfl hledger
    have hround : Value.toBinary64 (.finite false 9007199254740993) =
        .finite false 9007199254740992 := by decide +kernel
    have hspelled : ¬ IsMisspelled "9007199254740993" := by
      rintro (⟨c, rest, hzero, -⟩ | ⟨⟨hname, -⟩, -⟩)
      · cases hzero
      · cases hname
    obtain ⟨w, hw⟩ := (hint64.exists_iff hledger).2 hspelled
    have hunique : ∀ w, IsScriptNumber "9007199254740993" w → w = .finite false 9007199254740992 :=
      fun w hw => (hint64.value hledger hledgerValue hw).trans hround
    exact ⟨d, hd, hvalue, fun w' => ⟨hunique w', fun h => h ▸ hunique w hw ▸ hw⟩⟩

end ProtoTypeScript
