import ProtoTypeScript.Main
import ProtoTypeScript.Proofs.DeclaredTree
import ProtoTypeScript.Proofs.ReferenceErrors
import ProtoTypeScript.Proofs.References
import ProtoTypeScript.Proofs.RequestOrder
import ProtoTypeScript.Proofs.Flattening
import ProtoTypeScript.Proofs.PrintedLines
import ProtoTypeScript.Proofs.WireFormat
import ProtoTypeScript.Proofs.OneLine
import ProtoTypeScript.Proofs.WireAgreement
import ProtoTypeScript.Proofs.NestedMessages
import ProtoTypeScript.Proofs.NestedServices
import ProtoTypeScript.Proofs.NestedFiles
import ProtoTypeScript.Proofs.Indentation
import ProtoTypeScript.Proofs.OneofAgreement
import ProtoTypeScript.Proofs.PresenceAgreement
import ProtoTypeScript.Proofs.ReferenceScopes
import ProtoTypeScript.Proofs.UnrelatedFiles
import ProtoTypeScript.Proofs.ErrorPrecedence
import ProtoTypeScript.Proofs.ClosedFiles
import ProtoTypeScript.Proofs.StubAgreement
import ProtoTypeScript.Proofs.ByteStrings
import ProtoTypeScript.Proofs.FlatNames
import ProtoTypeScript.Proofs.OrthogonalOptions
import ProtoTypeScript.Proofs.CommandRoundTrip
import ProtoTypeScript.Proofs.ScalarDefaults
import ProtoTypeScript.Proofs.EscapeGrammar
import ProtoTypeScript.Proofs.StringLiterals
import ProtoTypeScript.Proofs.PathNormalization
import ProtoTypeScript.Proofs.ImportSpecifiers
import ProtoTypeScript.Proofs.OutputNames
import ProtoTypeScript.Proofs.TableLookup
import ProtoTypeScript.Proofs.ParameterOverlay
import ProtoTypeScript.Proofs.ParameterWriting
import ProtoTypeScript.Proofs.AliasHistory
import ProtoTypeScript.Proofs.EnumAgreement
import ProtoTypeScript.Proofs.NumericDefaults
import ProtoTypeScript.Proofs.ObjectKeys
import ProtoTypeScript.Proofs.VersionGate
import ProtoTypeScript.Proofs.InstanceMembers
import ProtoTypeScript.Proofs.MapEntries
