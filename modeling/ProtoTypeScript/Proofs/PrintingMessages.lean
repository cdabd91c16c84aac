import ProtoTypeScript.Proofs.Printing
import ProtoTypeScript.Script.Message

/-!
# Printing message classes

The steps of each member of a message class, in the order in which they are taken: what is opened by
one step may be left by a step of another kind. `writes_messageClass` says that they write the lines
of the class and end where they began.

Three constructs are no blocks. The table of a oneof leaves its type and enters its value by one
line, `toObject` opens an object type and goes out without a line, and a case is entered by a line
but left without one.
-/

namespace ProtoTypeScript.Script

/-! ### Constructors and accessors -/

/-- The steps of the assignment of a value that the constructor is given. -/
def initialValueSteps (f : FieldDeclaration) : List Step :=
  blockSteps ("if (" ++ ("\"" ++ f.name ++ "\" in data && data." ++ f.name ++ " != undefined") ++
      ") \x7b")
    [.line ("this." ++ f.name ++ " = data." ++ f.name ++ ";")] "\x7d"

/-- The steps of the assignments of the values that the constructor is given. -/
def initialValuesSteps (fields : List FieldDeclaration) : List Step :=
  if fields = [] then []
  else
    blockSteps ("if (" ++ "!Array.isArray(data) && typeof data == \"object\"" ++ ") \x7b")
      (fields.flatMap initialValueSteps) "\x7d"

/-- The steps of the map that a map field starts with. -/
def initialMapSteps (f : FieldDeclaration) : List Step :=
  guardedSteps ("!this." ++ f.name) ("this." ++ f.name ++ " = new Map();")

/-- The steps of the constructor of a class. -/
def constructorSteps (m : MessageClass) : List Step :=
  openObjectTyped ("constructor" ++ "(data?: any[] | ")
      (m.fields.map fun f => (f.name, propertyType f)) ") \x7b" ++
    ([.line "super();",
      .line (messageCall m.runtime "initialize"
        ["this", "Array.isArray(data) ? data : []", "0", "-1", numberArray m.repeatedFields,
          "this.#one_of_decls"] ++ ";")] ++
      initialValuesSteps m.fields ++
      (m.fields.filter (·.isMap)).flatMap initialMapSteps) ++
    [.leave "\x7d"]

/-- The steps of an accessor with one statement. -/
def getterSteps (name statement : String) : List Step :=
  blockSteps ("get " ++ name ++ "() \x7b") [.line statement] "\x7d"

/-- The steps of the setter of a field. -/
def setterSteps (m : MessageClass) (f : FieldDeclaration) : List Step :=
  blockSteps ("set " ++ f.name ++ "(value: " ++ propertyType f ++ ") \x7b")
    [.line (setterCall m.runtime f (fieldSlot m f) ++ ";")] "\x7d"

/-- The steps of the accessors of a field. -/
def accessorSteps (m : MessageClass) (f : FieldDeclaration) : List Step :=
  deprecationSteps f.deprecated ++
    getterSteps f.name ("return " ++ getterValue m.runtime f ++ ";") ++ setterSteps m f ++
    if f.hasPresence then
      getterSteps ("has_" ++ f.name)
        ("return " ++ messageCall m.runtime "getField" ["this", decimal f.number] ++ " != null;")
    else []

/-- The steps of the accessor that names the member of a oneof that is set. -/
def oneofCaseSteps (m : MessageClass) (oneof : OneofDeclaration) : List Step :=
  let members := m.memberFields oneof
  let alternatives := members.map fun member => " | \"" ++ member.2 ++ "\""
  let cases := members.map fun member => decimal member.1 ++ ": \"" ++ member.2 ++ "\""
  blockSteps ("get " ++ oneof.name ++ "() \x7b")
    ([.enter "const cases: \x7b",
      .line ("[index: number]: \"none\"" ++ String.join alternatives ++ ";"),
      .reenter "\x7d = \x7b"] ++
      (Text.withCommas ("0: \"none\"" :: cases)).map .line ++
      [.leave "\x7d;",
        .line ("return cases[" ++
          messageCall m.runtime "computeOneofCase" ["this", numberArray oneof.members] ++ "];")])
    "\x7d"

theorem writes_initialValues (fields : List FieldDeclaration) :
    Writes (initialValuesSteps fields) 0 (initialValues fields) 0 := by
  rw [initialValuesSteps, initialValues]
  split_ifs
  · exact .nil
  · exact writes_block (.flatMap fun f _ => writes_block (.line _ .nil))

theorem writes_constructor (m : MessageClass) :
    Writes (constructorSteps m) 0 (constructor m).lines 0 := by
  have hmaps : Writes ((m.fields.filter (·.isMap)).flatMap initialMapSteps) 0
      ((m.fields.filter (·.isMap)).flatMap initialMap) 0 :=
    .flatMap fun f _ => writes_guarded _ _
  exact writes_objectTyped (.line _ (.line _ ((writes_initialValues m.fields).append hmaps)))

theorem writes_getter (name statement : String) :
    Writes (getterSteps name statement) 0
      (block ("get " ++ name ++ "() \x7b") [line statement] "\x7d") 0 :=
  writes_block (.line _ .nil)

theorem writes_setter (m : MessageClass) (f : FieldDeclaration) :
    Writes (setterSteps m f) 0
      (block ("set " ++ f.name ++ "(value: " ++ propertyType f ++ ") \x7b")
        [line (setterCall m.runtime f (fieldSlot m f) ++ ";")] "\x7d") 0 :=
  writes_block (.line _ .nil)

theorem writes_accessors (m : MessageClass) (f : FieldDeclaration) :
    Writes (accessorSteps m f) 0 ((fieldAccessors m f).flatMap Member.lines) 0 := by
  have hget := (writes_deprecation f.deprecated).append
    (writes_getter f.name ("return " ++ getterValue m.runtime f ++ ";"))
  rw [accessorSteps, fieldAccessors, List.flatMap_append, List.flatMap_cons, List.flatMap_singleton]
  refine (hget.append (writes_setter m f)).append ?_
  split_ifs
  · rw [List.flatMap_singleton]
    exact writes_getter _ _
  · exact .nil

theorem writes_oneofCase (m : MessageClass) (oneof : OneofDeclaration) :
    Writes (oneofCaseSteps m oneof) 0 (oneofCase m oneof).lines 0 := by
  have hcases := Writes.indent (.lines (Text.withCommas ("0: \"none\"" ::
    (m.memberFields oneof).map fun member => decimal member.1 ++ ": \"" ++ member.2 ++ "\"")))
  refine writes_block ?_
  simp only [List.append_assoc]
  exact .enter _ (.line _ (.reenter _ (hcases.append (.leave _ (.line _ .nil)))))

/-! ### Conversions -/

/-- The steps of `fromObject` for a field. -/
def readKeySteps (f : FieldDeclaration) : List Step :=
  blockSteps ("if (" ++ ("data." ++ f.objectKey ++ " != null") ++ ") \x7b")
    [.line ("message." ++ f.name ++ " = " ++ fieldFromObject f ("data." ++ f.objectKey) ++ ";")]
    "\x7d"

/-- The steps of `toObject` for a field. -/
def writeKeySteps (f : FieldDeclaration) : List Step :=
  let value := "this." ++ f.name
  let condition := if f.hasPresence then "this.has_" ++ f.name else value ++ " != null"
  blockSteps ("if (" ++ condition ++ ") \x7b")
    [.line ("data." ++ f.objectKey ++ " = " ++ fieldToObject f value ++ ";")] "\x7d"

/-- The steps of the method that builds a message from a plain object. -/
def fromObjectSteps (m : MessageClass) : List Step :=
  openObjectTyped (Member.modifiers true false ++ "fromObject" ++ "(data: ") (objectEntries m)
      ("): " ++ m.name ++ " \x7b") ++
    (.line ("const message = new " ++ m.name ++ "(\x7b\x7d);") ::
      m.fields.flatMap readKeySteps ++ [.line "return message;"]) ++
    [.leave "\x7d"]

/-- The steps of the method that builds a plain object from a message. The object type is that of a
constant without a body, so the printer goes out again. -/
def toObjectSteps (m : MessageClass) : List Step :=
  blockSteps (Member.modifiers false m.explicitOverride ++ "toObject" ++ "() \x7b")
    (openObjectTyped "const data: " (objectEntries m) " = \x7b\x7d;" ++
      (.rise :: m.fields.flatMap writeKeySteps ++ [.line "return data;"]))
    "\x7d"

theorem writes_fromObject (m : MessageClass) :
    Writes (fromObjectSteps m) 0 (fromObject m).lines 0 := by
  have hkeys : Writes (m.fields.flatMap readKeySteps) 0 (m.fields.flatMap readKey) 0 :=
    .flatMap fun f _ => writes_block (.line _ .nil)
  exact writes_objectTyped (.line _ (hkeys.append (.line _ .nil)))

theorem writes_toObject (m : MessageClass) :
    Writes (toObjectSteps m) 0 (toObject m).lines 0 := by
  have htype := writes_openObjectTyped "const data: " (objectEntries m) " = \x7b\x7d;"
  have hkeys : Writes (m.fields.flatMap writeKeySteps) 0 (m.fields.flatMap writeKey) 0 :=
    .flatMap fun f _ => writes_block (.line _ .nil)
  refine writes_block ?_
  rw [List.append_assoc]
  exact htype.append (.rise (hkeys.append (.line _ .nil)))

/-! ### The wire format -/

/-- The steps of a statement that writes a field. -/
def WriteStatement.steps (w : WriteStatement) : List Step :=
  let value := "this." ++ w.name
  let number := decimal w.number
  match w.form with
  | .mapEntries key mapped =>
    blockSteps ("for (const [key, value] of " ++ value ++ ") \x7b")
      (blockSteps ("writer.writeMessage(" ++ number ++ ", " ++ value ++ ", () => \x7b")
        [.line ("writer.write" ++ key.wireMethod ++ "(1, key);"), .line (writeMapValue mapped)]
        "\x7d);")
      "\x7d"
  | .messages type =>
    guardedSteps (value ++ ".length")
      ("writer.writeRepeatedMessage(" ++ number ++ ", " ++ value ++ ", (item: " ++ type ++
        ") => item.serialize(writer));")
  | .message =>
    guardedSteps ("this.has_" ++ w.name)
      ("writer.writeMessage(" ++ number ++ ", " ++ value ++ ", () => " ++ value ++
        ".serialize(writer));")
  | .packed method =>
    guardedSteps (value ++ ".length")
      ("writer.writePacked" ++ method ++ "(" ++ number ++ ", " ++ value ++ ");")
  | .repeated method =>
    guardedSteps (value ++ ".length")
      ("writer.writeRepeated" ++ method ++ "(" ++ number ++ ", " ++ value ++ ");")
  | .value guard method =>
    guardedSteps (guard.condition w.name)
      ("writer.write" ++ method ++ "(" ++ number ++ ", " ++ value ++ ");")

/-- The steps of a statement that reads a field. -/
def ReadStatement.steps (runtime : String) (r : ReadStatement) : List Step :=
  let value := "message." ++ r.name
  match r.form with
  | .mapEntries key (.message type) =>
    blockSteps ("reader.readMessage(message, () => " ++ runtime ++ ".Map.deserializeBinary(" ++
        value ++ " as any, reader, reader.read" ++ key.wireMethod ++ ", () => \x7b")
      [.line "let value;",
        .line ("reader.readMessage(message, () => value = " ++ type ++ ".deserialize(reader));"),
        .line "return value;"]
      "\x7d));"
  | .mapEntries key mapped =>
    [.line ("reader.readMessage(message, () => " ++ runtime ++ ".Map.deserializeBinary(" ++ value ++
      " as any, reader, reader.read" ++ key.wireMethod ++ ", reader.read" ++ mapped.wireMethod ++
      "));")]
  | .messages type =>
    [.line ("reader.readMessage(" ++ value ++ ", () => " ++ runtime ++
      ".Message.addToRepeatedWrapperField(message, " ++ decimal r.number ++ ", " ++ type ++
      ".deserialize(reader), " ++ type ++ "));")]
  | .message type =>
    [.line ("reader.readMessage(" ++ value ++ ", () => " ++ value ++ " = " ++ type ++
      ".deserialize(reader));")]
  | .packedOrOne method =>
    [.line (value ++ " = [..." ++ value ++ ", ...(reader.isDelimited() ? reader.readPacked" ++
      method ++ "() : [reader.read" ++ method ++ "()])];")]
  | .one method =>
    [.line (runtime ++ ".Message.addToRepeatedField(message, " ++ decimal r.number ++
      ", reader.read" ++ method ++ "());")]
  | .value method => [.line (value ++ " = reader.read" ++ method ++ "();")]

/-- The steps of the case of a field that is read. -/
def readCaseSteps (runtime : String) (r : ReadStatement) : List Step :=
  .enter ("case " ++ decimal r.number ++ ":") :: r.steps runtime ++ [.line "break;", .rise]

/-- The steps of the method that writes a message, and of the ways in which it may be called. -/
def serializeSteps (m : MessageClass) : List Step :=
  [.line ("serialize" ++ "(): Uint8Array" ++ ";"),
    .line ("serialize" ++ ("(w: " ++ m.runtime ++ ".BinaryWriter): void") ++ ";")] ++
    blockSteps (Member.modifiers false false ++ "serialize" ++
        ("(w?: " ++ m.runtime ++ ".BinaryWriter): Uint8Array | void \x7b"))
      (.line ("const writer = w || new " ++ m.runtime ++ ".BinaryWriter();") ::
        (m.fields.map WriteStatement.ofField).flatMap WriteStatement.steps ++
        guardedSteps "!w" "return writer.getResultBuffer();")
      "\x7d"

/-- The steps of the method that reads a message. -/
def deserializeSteps (m : MessageClass) : List Step :=
  blockSteps (Member.modifiers true false ++ "deserialize" ++
      ("(bytes: Uint8Array | " ++ m.runtime ++ ".BinaryReader): " ++ m.name ++ " \x7b"))
    (.line ("const reader = bytes instanceof " ++ m.runtime ++ ".BinaryReader ? bytes : new " ++
        m.runtime ++ ".BinaryReader(bytes), message = new " ++ m.name ++ "();") ::
      blockSteps "while (reader.nextField()) \x7b"
        (guardedSteps "reader.isEndGroup()" "break;" ++
          blockSteps "switch (reader.getFieldNumber()) \x7b"
            ((m.armFields.map ReadStatement.ofField).flatMap (readCaseSteps m.runtime) ++
              [.line "default: reader.skipField();"])
            "\x7d")
        "\x7d" ++
      [.line "return message;"])
    "\x7d"

/-- The steps of the methods that write and read a message as bytes. -/
def binaryMethodsSteps (m : MessageClass) : List Step :=
  blockSteps
      (Member.modifiers false m.explicitOverride ++ "serializeBinary" ++ "(): Uint8Array \x7b")
      [.line "return this.serialize();"] "\x7d" ++
    blockSteps (Member.modifiers true m.explicitOverride ++ "deserializeBinary" ++
        ("(bytes: Uint8Array): " ++ m.name ++ " \x7b"))
      [.line ("return " ++ m.name ++ ".deserialize(bytes);")] "\x7d"

theorem writes_writeStatement (w : WriteStatement) : Writes w.steps 0 w.lines 0 := by
  rw [WriteStatement.steps, WriteStatement.lines]
  cases w.form with
  | mapEntries key mapped => exact writes_block (writes_block (.line _ (.line _ .nil)))
  | messages | message | packed | repeated | value => exact writes_guarded _ _

theorem writes_readStatement (runtime : String) (r : ReadStatement) :
    Writes (r.steps runtime) 0 (r.lines runtime) 0 := by
  rw [ReadStatement.steps, ReadStatement.lines]
  cases r.form with
  | mapEntries key mapped =>
    cases mapped with
    | message type => exact writes_block (.line _ (.line _ (.line _ .nil)))
    | scalar | enumeration | map => exact .line _ .nil
  | messages | message | packedOrOne | one | value => exact .line _ .nil

/-- A case is left by a step without a line, after its own statements. -/
theorem writes_readCase (runtime : String) (r : ReadStatement) :
    Writes (readCaseSteps runtime r) 0 (readCase runtime r) 0 := by
  have hbody := (writes_readStatement runtime r).append (.line "break;" .nil)
  have hcase := (Writes.enter ("case " ++ decimal r.number ++ ":") hbody.indent).append (.rise .nil)
  simpa [readCaseSteps, readCase, Script.line] using hcase

theorem writes_serialize (m : MessageClass) : Writes (serializeSteps m) 0
    ((serializeOverloads m ++ [serialize m]).flatMap Member.lines) 0 := by
  have hfields : Writes ((m.fields.map WriteStatement.ofField).flatMap WriteStatement.steps) 0
      ((m.fields.map WriteStatement.ofField).flatMap WriteStatement.lines) 0 :=
    .flatMap fun w _ => writes_writeStatement w
  have hbody := @writes_block (Member.modifiers false false ++ "serialize" ++
      ("(w?: " ++ m.runtime ++ ".BinaryWriter): Uint8Array | void \x7b")) "\x7d" _ _
    (.line ("const writer = w || new " ++ m.runtime ++ ".BinaryWriter();")
      (hfields.append (writes_guarded "!w" "return writer.getResultBuffer();")))
  rw [List.flatMap_append, List.flatMap_singleton]
  exact Writes.append (.line _ (.line _ .nil)) hbody

theorem writes_deserialize (m : MessageClass) :
    Writes (deserializeSteps m) 0 (deserialize m).lines 0 := by
  have hcases : Writes ((m.armFields.map ReadStatement.ofField).flatMap (readCaseSteps m.runtime)) 0
      ((m.armFields.map ReadStatement.ofField).flatMap (readCase m.runtime)) 0 :=
    .flatMap fun r _ => writes_readCase m.runtime r
  have hloop := @writes_block "while (reader.nextField()) \x7b" "\x7d" _ _
    ((writes_guarded "reader.isEndGroup()" "break;").append
      (@writes_block "switch (reader.getFieldNumber()) \x7b" "\x7d" _ _
        (hcases.append (.line "default: reader.skipField();" .nil))))
  exact writes_block (.line _ (hloop.append (.line _ .nil)))

theorem writes_binaryMethods (m : MessageClass) :
    Writes (binaryMethodsSteps m) 0 ((binaryMethods m).flatMap Member.lines) 0 := by
  rw [binaryMethods, List.flatMap_cons, List.flatMap_singleton]
  exact (writes_block (.line _ .nil)).append (writes_block (.line _ .nil))

/-! ### Classes -/

/-- The steps of the members of a message class. -/
def memberSteps (m : MessageClass) : List Step :=
  .line ("#one_of_decls: number[][] = [" ++
      Text.joinWith ", " ((m.oneofs.map (·.members)).map numberArray) ++ "];") ::
    (constructorSteps m ++ m.fields.flatMap (accessorSteps m) ++
      m.oneofs.flatMap (oneofCaseSteps m) ++ fromObjectSteps m ++ toObjectSteps m ++
      serializeSteps m ++ deserializeSteps m ++ binaryMethodsSteps m)

/-- The steps of a message class, without what is nested in it. -/
def messageClassSteps (m : MessageClass) : List Step :=
  deprecationSteps m.deprecated ++
    blockSteps ("export class " ++ m.name ++ " extends " ++ m.runtime ++ ".Message \x7b")
      (memberSteps m) "\x7d"

theorem writes_members (m : MessageClass) :
    Writes (memberSteps m) 0 ((members m).flatMap Member.lines) 0 := by
  have hfields : Writes (m.fields.flatMap (accessorSteps m)) 0
      (m.fields.flatMap fun f => (fieldAccessors m f).flatMap Member.lines) 0 :=
    .flatMap fun f _ => writes_accessors m f
  have honeofs : Writes (m.oneofs.flatMap (oneofCaseSteps m)) 0
      (m.oneofs.flatMap fun oneof => (oneofCase m oneof).lines) 0 :=
    .flatMap fun oneof _ => writes_oneofCase m oneof
  have hconversions := (((writes_constructor m).append hfields).append honeofs).append
    (writes_fromObject m) |>.append (writes_toObject m)
  have hbinary := ((hconversions.append (writes_serialize m)).append (writes_deserialize m)).append
    (writes_binaryMethods m)
  have hmembers := hbinary.line ("#one_of_decls: number[][] = [" ++
    Text.joinWith ", " ((m.oneofs.map (·.members)).map numberArray) ++ "];")
  rw [memberSteps, members]
  -- both sides are the same members in the same order, grouped differently
  simp only [List.flatMap_append, List.flatMap_cons, List.flatMap_nil, List.flatMap_map,
    List.flatMap_assoc, List.append_nil, List.append_assoc] at hmembers ⊢
  exact hmembers

theorem writes_messageClass (m : MessageClass) :
    Writes (messageClassSteps m) 0 (messageClass m) 0 :=
  (writes_deprecation m.deprecated).append (writes_block (writes_members m))

end ProtoTypeScript.Script
