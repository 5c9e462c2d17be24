import AbiTypings.Main
import AbiTypings.Proofs.Closure
import AbiTypings.Proofs.Reading
import AbiTypings.Proofs.Loading
import AbiTypings.Proofs.RoundTrip
import AbiTypings.Proofs.LongIntegers
import AbiTypings.Proofs.LoadFaults
import AbiTypings.Proofs.Collections
import AbiTypings.Proofs.LoadedOutcome
import AbiTypings.Proofs.LineRoles
import AbiTypings.Proofs.Summaries
import AbiTypings.Proofs.DistinctIdentifiers
import AbiTypings.Proofs.Merging
import AbiTypings.Proofs.ArraySuffixes
import AbiTypings.Proofs.OptionalMarks
import AbiTypings.Proofs.Resolver
import AbiTypings.Proofs.Encoding
import AbiTypings.Proofs.FirstUnknown
import AbiTypings.Proofs.Runs
import AbiTypings.Proofs.CommandLine
import AbiTypings.Proofs.Routes
import AbiTypings.Proofs.KeyOrder
import AbiTypings.Proofs.LineEnds
import AbiTypings.Proofs.VariantLines
import AbiTypings.Proofs.RenderedLines
import AbiTypings.Proofs.ReportReading
import AbiTypings.Proofs.StableNames
import AbiTypings.Proofs.Configuring
import AbiTypings.Proofs.Capitals
