import Multimodal.Configuration
import Multimodal.Csv.Cell
import Multimodal.Csv.Record
import Multimodal.Csv.Rows
import Multimodal.DateTime
import Multimodal.Digraph
import Multimodal.Failure
import Multimodal.Geometry.Basic
import Multimodal.Geometry.Wkb
import Multimodal.IdIndex
import Multimodal.Import.Acceptance
import Multimodal.Import.Directory
import Multimodal.Import.Event
import Multimodal.Import.Options
import Multimodal.Import.Report
import Multimodal.Import.Run
import Multimodal.Itinerary.Basic
import Multimodal.Itinerary.Costs
import Multimodal.Itinerary.GeoJson
import Multimodal.Itinerary.Json
import Multimodal.Itinerary.Leg
import Multimodal.Json.Decode
import Multimodal.Json.Printer
import Multimodal.Json.Reader
import Multimodal.Json.Value
import Multimodal.Network
import Multimodal.Network.Json
import Multimodal.Number.Decimal
import Multimodal.Number.Integer
import Multimodal.Number.Order
import Multimodal.Number.Shortest
import Multimodal.RecordField
import Multimodal.Records
import Multimodal.Road
import Multimodal.Storage
import Multimodal.Text.Blank
import Multimodal.Toml.Reader
import Multimodal.Toml.Scalar
import Multimodal.Toml.Table
import Multimodal.Toml.Text
import Multimodal.Transit
import Multimodal.Proofs.Checks
import Multimodal.Proofs.Pass
import Multimodal.Proofs.RelatedLists
import Multimodal.Proofs.Registration
import Multimodal.Proofs.FirstFailure
import Multimodal.Proofs.Stations
import Multimodal.Proofs.StationLinks
import Multimodal.Proofs.ByIds
import Multimodal.Proofs.Separation
import Multimodal.Proofs.SoundRows
import Multimodal.Proofs.Reordering
import Multimodal.Proofs.Csv.Cells
import Multimodal.Proofs.Csv.Writing
import Multimodal.Proofs.Csv.Columns
import Multimodal.Proofs.Csv.RowTables
import Multimodal.Proofs.Directories
import Multimodal.Proofs.TotalCosts
import Multimodal.Proofs.CostSums
import Multimodal.Proofs.Geometries
import Multimodal.Proofs.Progress
import Multimodal.Proofs.Conservation
import Multimodal.Proofs.GraphEdits
import Multimodal.Proofs.NetworkEdits
import Multimodal.Proofs.Lookups
import Multimodal.Proofs.MoreRows
import Multimodal.Proofs.Adjacency
import Multimodal.Proofs.Decoding
import Multimodal.Proofs.Json.Readings
import Multimodal.Proofs.Json.Exports
import Multimodal.Proofs.ItineraryText
import Multimodal.Proofs.Json.Maps
import Multimodal.Proofs.Features
import Multimodal.Proofs.StationNotes
import Multimodal.Proofs.Faults
import Multimodal.Proofs.Log
import Multimodal.Proofs.NoWarnings
import Multimodal.Proofs.LogAgreement
import Multimodal.Proofs.IntegerGrammar
import Multimodal.Proofs.LenientValues
import Multimodal.Proofs.Json.RowObjects
import Multimodal.Proofs.ConfigurationChecks
import Multimodal.Proofs.ImportSafety
import Multimodal.Proofs.WriteOnce
import Multimodal.Proofs.IdTexts
