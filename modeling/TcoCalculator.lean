import TcoCalculator.Api.ActionConfirmed
import TcoCalculator.Api.AuthResolution
import TcoCalculator.Api.CalculatorManifestFaithful
import TcoCalculator.Api.GuestQuotaHeaders
import TcoCalculator.Api.ProjectSharesOwed
import TcoCalculator.Api.ProjectsSound
import TcoCalculator.Assistant.AssumedIops
import TcoCalculator.Assistant.DraftFields
import TcoCalculator.Assistant.Measurements
import TcoCalculator.Assistant.NoteLimits
import TcoCalculator.Assistant.ProjectPatchExact
import TcoCalculator.Assistant.ProposalNotes
import TcoCalculator.Calculation.CostBreakdown
import TcoCalculator.Calculation.SqlPaygBreakeven
import TcoCalculator.Calculation.TargetCapacity
import TcoCalculator.Calculation.TargetOptimal
import TcoCalculator.Calculation.VmDiskSurplus
import TcoCalculator.Calculation.VmPriceAgreement
import TcoCalculator.Calculation.VmSelectionCorrect
import TcoCalculator.Library.Crc32
import TcoCalculator.Library.JsonUnambiguous
import TcoCalculator.Library.Pipeline
import TcoCalculator.Library.StoredArchive
import TcoCalculator.Library.TimedRuns
import TcoCalculator.Persistence.AwsPriceDocumentsJoin
import TcoCalculator.Persistence.CalculatorLaunchActive
import TcoCalculator.Persistence.MemoryProjects
import TcoCalculator.Persistence.ProjectRepositoryRun
import TcoCalculator.Persistence.RefreshLeaseSafety
import TcoCalculator.Persistence.RefreshQuotaSafety
import TcoCalculator.Persistence.SnapshotWriteSafety
import TcoCalculator.Pricing.AwsEc2Rates
import TcoCalculator.Pricing.AwsRatesAccepted
import TcoCalculator.Pricing.AwsRdsAmortized
import TcoCalculator.Pricing.AzureRetailOrder
import TcoCalculator.Pricing.HttpBudget
import TcoCalculator.Pricing.RdsProjectionOnce
import TcoCalculator.Pricing.RdsStream
import TcoCalculator.Pricing.RefreshKey
import TcoCalculator.Pricing.RetailListingOnce
import TcoCalculator.Pricing.SnapshotAging
import TcoCalculator.Pricing.SnapshotSources
import TcoCalculator.Web.DraftUnchanged
import TcoCalculator.Web.StoredZip
import TcoCalculator.Web.StoredZipCrc
import TcoCalculator.Web.StoredZipLayout
import TcoCalculator.Web.StoredZipRoundTrip
