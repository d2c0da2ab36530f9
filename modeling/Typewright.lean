import Typewright.Main
import Typewright.Proofs.Execution
import Typewright.Proofs.NormalPath
import Typewright.Proofs.Reading
import Typewright.Proofs.Termination
import Typewright.Proofs.NodeReferences
import Typewright.Proofs.History
import Typewright.Proofs.Listing
import Typewright.Proofs.UsedNames
import Typewright.Proofs.Loading
import Typewright.Proofs.SingleExpansion
import Typewright.Proofs.Binding
import Typewright.Proofs.Unfolding
import Typewright.Proofs.Reordering
import Typewright.Proofs.Transparency
import Typewright.Proofs.Surfacing
import Typewright.Proofs.JoinedPath
import Typewright.Proofs.Specifier
import Typewright.Proofs.Imports
import Typewright.Proofs.InlineDeclarations
import Typewright.Proofs.FailedRuns
import Typewright.Proofs.SurvivingTypes
import Typewright.Proofs.ExternalReferences
import Typewright.Proofs.DecoderFiles
import Typewright.Proofs.AfterRequests
import Typewright.Proofs.ResultShape
import Typewright.Proofs.ContainedValues
import Typewright.Proofs.Locating
import Typewright.Proofs.Scoping
import Typewright.Proofs.SparedFiles
import Typewright.Proofs.InputFiles
import Typewright.Proofs.FiledTypes
import Typewright.Proofs.ExportedModules
import Typewright.Proofs.ImportedNames
import Typewright.Proofs.MemoKeys
import Typewright.Proofs.TypelessNodes
import Typewright.Proofs.FieldReading
import Typewright.Proofs.SchemaGrammar
import Typewright.Proofs.Restatement
import Typewright.Proofs.ReferencedProperties
import Typewright.Proofs.AlikeWalks
import Typewright.Proofs.MaskedFailures
import Typewright.Proofs.AnsweredNames
import Typewright.Proofs.InlineContents
import Typewright.Proofs.PrimitiveSets
import Typewright.Proofs.RememberedNodes
import Typewright.Proofs.Offenders
import Typewright.Proofs.Pointers
import Typewright.Proofs.EnumerationItems
import Typewright.Proofs.RealisedLayouts
import Typewright.Proofs.LexicalWalk
import Typewright.Proofs.RelativeSpecifier
import Typewright.Proofs.OutputBounds
import Typewright.Proofs.UseOrder
import Typewright.Proofs.UrlReferences
