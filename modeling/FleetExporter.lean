import FleetExporter.Main
import FleetExporter.Scrape
import FleetExporter.Proofs.Watch.History
import FleetExporter.Proofs.Watch.Relist
import FleetExporter.Proofs.Watch.Interleaving
import FleetExporter.Proofs.Series
import FleetExporter.Proofs.Numeral
import FleetExporter.Proofs.Publication
import FleetExporter.Proofs.Resemblance
import FleetExporter.Proofs.Watch.Effect
import FleetExporter.Proofs.Deployment
import FleetExporter.Proofs.Scrape
import FleetExporter.Proofs.WellFormed
import FleetExporter.Proofs.Isolation
import FleetExporter.Proofs.ByteOrder
import FleetExporter.Proofs.Contents
import FleetExporter.Exposition.Reader
import FleetExporter.Proofs.Exposition
import FleetExporter.Proofs.Shape
import FleetExporter.Proofs.Decoding
import FleetExporter.Proofs.Calendar
import FleetExporter.Proofs.Timestamp
import FleetExporter.Proofs.Writing
import FleetExporter.Proofs.Metadata
import FleetExporter.Proofs.Encoding
import FleetExporter.Proofs.Dependence
import FleetExporter.Proofs.Quantity.Spelling
import FleetExporter.Proofs.Quantity.Recognition
import FleetExporter.Proofs.Quantity.Scaling
import FleetExporter.Proofs.Quantity.Exactness
import FleetExporter.Proofs.Quantity.Words
import FleetExporter.Proofs.Rendering
import FleetExporter.Proofs.Retrying
import FleetExporter.Proofs.HubIdentity
import FleetExporter.Proofs.Absence
import FleetExporter.Proofs.Selection
import FleetExporter.Proofs.Identity
