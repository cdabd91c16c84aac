import ProtoTypeScript.Proofs.Lowering

/-!
# Defaults of scalar fields

A field of a scalar type needs nothing but its default to be declared. Let its default be given as a
text.

* `fieldDeclaration_eq_error_iff_of_default`: the field fails just when it has one value and the
  text is no value of its type, and the error then names the field and shows the text;
* `exists_fieldDeclaration_of_default`: otherwise the declaration has the expression for the text.

A repeated field reads as the empty array, whatever the text.
-/

namespace ProtoTypeScript.FileScope

open Outcome

variable {s : FileScope} {f : FieldDescriptor} {scalar : Scalar} {text : String}

theorem fieldType_of_scalar (htype : f.valueType = .scalar scalar) :
    s.fieldType f = .ok (.scalar scalar) :=
  fieldType_eq_ok_iff.2 (.scalar (by rw [htype]; rfl))

theorem cardinality_scalar_eq_repeated_iff :
    s.cardinality f (.scalar scalar) = .repeated ↔ f.isRepeated = true := by
  simp only [cardinality, FieldType.isMap, Bool.false_eq_true, if_false]
  split_ifs with hrepeated <;> simp [hrepeated]

theorem scalarDefault_of_default (hdefault : f.defaultValue? = some text) :
    scalarDefault f scalar = match scalarExpression? scalar text with
      | some expression => .ok expression
      | none => .error (.invalidDefault f.name text) := by
  cases hexpression : scalarExpression? scalar text with
  | none => simp [scalarDefault, hdefault, hexpression]
  | some expression => simp [scalarDefault, hdefault, hexpression]

/-- A default that is no value of the field's type is the only reason to fail. -/
theorem fieldDeclaration_eq_error_iff_of_default (htype : f.valueType = .scalar scalar)
    (hdefault : f.defaultValue? = some text) {failure : Failure} :
    s.fieldDeclaration f = .error failure ↔ f.isRepeated = false ∧
      scalarExpression? scalar text = none ∧
      failure = .reported (.invalidDefault f.name text) := by
  -- a scalar has its type in any case, so that only the default can fail
  have hvalue : s.fieldDeclaration f = .error failure ↔
      report (s.defaultValue f (.scalar scalar) (s.cardinality f (.scalar scalar))) =
        .error failure := by
    simp only [fieldDeclaration, bind_eq_error_iff, fieldType_of_scalar htype, Except.ok.injEq,
      reduceCtorEq, false_or, exists_eq_left']
    refine or_iff_left ?_
    rintro ⟨value, -, h⟩
    cases h
  rw [hvalue, defaultValue]
  cases hrepeated : f.isRepeated with
  | true =>
    rw [if_pos (cardinality_scalar_eq_repeated_iff.2 hrepeated)]
    simp
  | false =>
    rw [if_neg (by simp [cardinality_scalar_eq_repeated_iff, hrepeated])]
    rw [scalarDefault_of_default hdefault]
    cases scalarExpression? scalar text with
    | none => simp [eq_comm]
    | some expression => simp

/-- A field whose default is a value of its type has the expression for it. -/
theorem exists_fieldDeclaration_of_default (htype : f.valueType = .scalar scalar)
    (hsingle : f.isRepeated = false) (hdefault : f.defaultValue? = some text) {expression : String}
    (hexpression : scalarExpression? scalar text = some expression) :
    ∃ d, s.fieldDeclaration f = .ok d ∧ d.number = f.number ∧ d.type = .scalar scalar ∧
      d.isRepeated = false ∧ d.defaultValue = expression := by
  have hsingular : ¬ s.cardinality f (.scalar scalar) = .repeated := by
    simp [cardinality_scalar_eq_repeated_iff, hsingle]
  have hvalue : s.defaultValue f (.scalar scalar) (s.cardinality f (.scalar scalar)) =
      .ok expression := by
    rw [defaultValue, if_neg hsingular]
    rw [scalarDefault_of_default hdefault, hexpression]
  exact ⟨_, fieldDeclaration_eq_ok_iff.2 ⟨_, _, fieldType_of_scalar htype, hvalue, rfl⟩, rfl, rfl,
    by simpa [FieldDeclaration.isRepeated] using hsingular, rfl⟩

end ProtoTypeScript.FileScope
