import HeaderOutline.CommandLine
import HeaderOutline.Declaration.Json
import HeaderOutline.Declaration.Walk
import HeaderOutline.Extraction
import HeaderOutline.Main
import HeaderOutline.Program
import HeaderOutline.Proofs.Bookkeeping
import HeaderOutline.Proofs.Completeness
import HeaderOutline.Proofs.Concatenation
import HeaderOutline.Proofs.DataRestated
import HeaderOutline.Proofs.Delivery
import HeaderOutline.Proofs.FileChange
import HeaderOutline.Proofs.HeaderNames
import HeaderOutline.Proofs.LayeredLoad
import HeaderOutline.Proofs.Layering
import HeaderOutline.Proofs.NamespaceIndex
import HeaderOutline.Proofs.Positions
import HeaderOutline.Proofs.RecordIndex
import HeaderOutline.Proofs.ReportLossless
import HeaderOutline.Proofs.Reuse
import HeaderOutline.Proofs.RunOutcome
import HeaderOutline.Proofs.ValidSettings
import HeaderOutline.Proofs.Visibility
import HeaderOutline.Report.Emitter
import HeaderOutline.Settings.Json
import HeaderOutline.Proofs.ByteOrder
import HeaderOutline.Proofs.Enumerators
import HeaderOutline.Proofs.Events
import HeaderOutline.Proofs.FileNames
import HeaderOutline.Proofs.HeaderSearch
import HeaderOutline.Proofs.IncludeSequence
import HeaderOutline.Proofs.Overrides
import HeaderOutline.Proofs.PathSplitting
import HeaderOutline.Proofs.SearchPaths
import HeaderOutline.Proofs.Arguments
import HeaderOutline.Proofs.IndexContents
import HeaderOutline.Proofs.LiteralTexts
import HeaderOutline.Proofs.NamespaceKeys
import HeaderOutline.Proofs.PredefinedVariables
