import ProtoTypeScript.Generator
import ProtoTypeScript.Wire.Request

/-!
# Responses on the wire

`Response.encode` writes a response, its fields in the order of their numbers. `respondTo?` answers
bytes, and has no answer for bytes that are no request.
-/

namespace ProtoTypeScript

namespace Wire

/-- A field with a number as its value. -/
def varintField (number value : Nat) : List UInt8 :=
  Varint.encode (8 * number) ++ Varint.encode value

/-- A field with a run of bytes as its value. -/
def bytesField (number : Nat) (content : List UInt8) : List UInt8 :=
  Varint.encode (8 * number + 2) ++ Varint.encode content.length ++ content

/-- A text in UTF-8. -/
def utf8 (s : String) : List UInt8 :=
  s.toUTF8.data.toList

/-- A field with a text as its value. -/
def textField (number : Nat) (s : String) : List UInt8 :=
  bytesField number (utf8 s)

end Wire

/-- A generated file as it stands in a response. -/
def GeneratedFile.encode (f : GeneratedFile) : List UInt8 :=
  Wire.textField 1 f.name ++ Wire.textField 15 f.content

/-- The bytes of a response. -/
def Response.encode (r : Response) : List UInt8 :=
  (match r.error with
    | none => []
    | some message => Wire.textField 1 message) ++
    Wire.varintField 2 Response.supportedFeatures ++
    r.files.flatMap fun f => Wire.bytesField 15 f.encode

/-- The bytes of the response to the request that the given bytes encode, if its run returns. -/
def respondTo? (bytes : List UInt8) : Option (List UInt8) :=
  (Request.decode? bytes).map fun r => r.respond.encode

end ProtoTypeScript
