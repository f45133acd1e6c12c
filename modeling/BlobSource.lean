import BlobSource.BuildStep
import BlobSource.CommandLine.Program
import BlobSource.Main
import BlobSource.Text.Utf8.RoundTrip
import BlobSource.Proofs.Reading.CText
import BlobSource.Proofs.Received
import BlobSource.Proofs.Reading.ArrayText
import BlobSource.Proofs.Rendered
import BlobSource.Proofs.ArrayRoundTrip
import BlobSource.Proofs.Reading.Assembler
import BlobSource.Proofs.Reading.AssemblyText
import BlobSource.Proofs.AssemblyReading
import BlobSource.Proofs.Store.Leads
import BlobSource.Proofs.Store.Overwriting
import BlobSource.Proofs.Embedded
import BlobSource.Proofs.Refinement
import BlobSource.Proofs.Calls
import BlobSource.Proofs.Frame
import BlobSource.Proofs.Produced
import BlobSource.Proofs.LengthWord
import BlobSource.Proofs.DeclaredSize
import BlobSource.Proofs.Outlet
import BlobSource.Proofs.Refusal
import BlobSource.Proofs.Strict
import BlobSource.Proofs.ExportedNames
import BlobSource.Proofs.Path.Components
import BlobSource.Proofs.Utf8
import BlobSource.Proofs.Destination
import BlobSource.Proofs.Store.Linkless
import BlobSource.Proofs.FrontEnds
import BlobSource.Proofs.SparedSource
import BlobSource.Proofs.Strictness
import BlobSource.Proofs.Dependence
import BlobSource.Proofs.Independence
import BlobSource.Proofs.CargoLines
import BlobSource.Proofs.ReadSchedule
import BlobSource.Proofs.Identifier
import BlobSource.Proofs.Utf8.Exactness
import BlobSource.Proofs.InertSettings
import BlobSource.Proofs.DerivedSymbol
import BlobSource.Proofs.BuildStages
import BlobSource.Proofs.TargetWidth
import BlobSource.Proofs.ArrayLayout
import BlobSource.Proofs.OverwrittenSource
import BlobSource.Proofs.NameClash
import BlobSource.Proofs.OwnTypes
