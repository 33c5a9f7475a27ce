import Census.Cli.Tree
import Census.Main
import Census.Workspace
import Census.Proofs.HeaderPairs
import Census.Proofs.FeedEffect
import Census.Proofs.TableOutcome
import Census.Proofs.DictionaryInvariant
import Census.Proofs.FeedComposition
import Census.Proofs.CategoryModes
import Census.Proofs.FeedText
import Census.Proofs.CompleteBlocks
import Census.Proofs.DocumentReading
import Census.Proofs.QueryNormalForm
import Census.Proofs.StructReading
import Census.Proofs.RequestShapes
import Census.Proofs.RequestReading
import Census.Proofs.RequestRoundTrip
import Census.Proofs.CommandOptions
import Census.Proofs.RequestFile
import Census.Proofs.WrittenValues
import Census.Proofs.DictionaryJson
import Census.Proofs.DictionaryCommands
import Census.Proofs.OutputStreams
import Census.Proofs.ConfigurationUse
import Census.Proofs.MovedLines
import Census.Proofs.RenderedDocuments
import Census.Proofs.SplitFeeds
import Census.Proofs.FeedNoise
import Census.Proofs.JoinedTables
import Census.Proofs.DataVariables
import Census.Proofs.CatalogPasses
import Census.Proofs.ReadableLayouts
import Census.Proofs.CounterSections
import Census.Proofs.BlankIdentifiers
import Census.Proofs.LineGrammar
import Census.Proofs.TaggedRequests
