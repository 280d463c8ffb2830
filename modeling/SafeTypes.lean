import SafeTypes.Main
import SafeTypes.Package.Manifest
import SafeTypes.Json.Reader
import SafeTypes.Report.Reader
import SafeTypes.CommandLine.Writing
import SafeTypes.Proofs.LastWrite
import SafeTypes.Proofs.Increasing
import SafeTypes.Proofs.Trimming
import SafeTypes.Proofs.FlagReading
import SafeTypes.Proofs.FlagRoundTrip
import SafeTypes.Proofs.FlagLists
import SafeTypes.Proofs.OptionalMarker
import SafeTypes.Proofs.Registration
import SafeTypes.Proofs.RosterRun
import SafeTypes.Proofs.Acceptance
import SafeTypes.Proofs.Batches
import SafeTypes.Proofs.InheritedParameters
import SafeTypes.Proofs.AssemblyOrder
import SafeTypes.Proofs.LogAccounting
import SafeTypes.Proofs.Absorption
import SafeTypes.Proofs.OwnNames
import SafeTypes.Proofs.SourceNames
import SafeTypes.Proofs.Settings
import SafeTypes.Proofs.Decoding
import SafeTypes.Proofs.Invocation
import SafeTypes.Proofs.ExitStatus
import SafeTypes.Proofs.Verbosity
import SafeTypes.Proofs.SeparateValues
import SafeTypes.Proofs.Lookup
import SafeTypes.Proofs.JsonRoundTrip
import SafeTypes.Proofs.ListingAgreement
import SafeTypes.Proofs.JsonListing
import SafeTypes.Proofs.TextListing
import SafeTypes.Proofs.Lines
import SafeTypes.Proofs.RequirementLines
import SafeTypes.Proofs.DeclaredVersion
import SafeTypes.Proofs.Colours
import SafeTypes.Proofs.Renderings
import SafeTypes.Proofs.Numerals
import SafeTypes.Proofs.Labels
