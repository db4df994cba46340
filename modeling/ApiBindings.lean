import ApiBindings.Contract.Decode
import ApiBindings.Main
import ApiBindings.Model.Api
import ApiBindings.Proofs.Resolving
import ApiBindings.Proofs.SchemaForm
import ApiBindings.TypeScript.Package
import ApiBindings.Proofs.ShortestDecimal
import ApiBindings.Proofs.LiteralText
import ApiBindings.Proofs.Conformance
import ApiBindings.Proofs.Emission
import ApiBindings.Proofs.Names
import ApiBindings.Proofs.MeaningPreserved
import ApiBindings.Proofs.ReferenceClosure
import ApiBindings.Proofs.BodyEntries
import ApiBindings.Proofs.Hoisting
import ApiBindings.Proofs.Scoping
import ApiBindings.Proofs.Envelope
import ApiBindings.Proofs.ClientReads
import ApiBindings.Proofs.ClientImports
import ApiBindings.Proofs.Designation
import ApiBindings.Proofs.PercentText
import ApiBindings.Proofs.PathValue
import ApiBindings.Proofs.Casing
import ApiBindings.Proofs.DeclaredNames
import ApiBindings.Proofs.ExportedNames
import ApiBindings.Proofs.DeclaredIdentifiers
import ApiBindings.Proofs.Decoding
import ApiBindings.Proofs.ReferencePlaces
import ApiBindings.Proofs.ListUse
import ApiBindings.Proofs.Reordering
import ApiBindings.Proofs.WrittenOnce
import ApiBindings.Proofs.AlikeNodes
import ApiBindings.Proofs.JsonReadings
import ApiBindings.Proofs.DepthLimit
import ApiBindings.Proofs.TwoPhaseRun
import ApiBindings.Proofs.CommentPlaces
import ApiBindings.Proofs.PathFailure
import ApiBindings.Proofs.EnumMembers
import ApiBindings.Proofs.JsonText
import ApiBindings.Proofs.EnumValues
import ApiBindings.Proofs.NumberGrammar
import ApiBindings.Proofs.MemberNames
import ApiBindings.Proofs.Collisions
import ApiBindings.Proofs.FunctionNames
import ApiBindings.Proofs.EnvelopeCollisions
import ApiBindings.Proofs.CommentText
import ApiBindings.Proofs.TypeReading
import ApiBindings.Proofs.TypeLexemes
import ApiBindings.Proofs.TypeText
import ApiBindings.Proofs.Grouping
