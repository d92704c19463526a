import ModemStack.Backend.Epochs
import ModemStack.Backend.TransitionSuccess
import ModemStack.Journal.CrashSafety
import ModemStack.Backend.QuiesceLeases
import ModemStack.Ports.Convergence
import ModemStack.Usage.RestartTransparency
import ModemStack.Usage.FlushSafety
import ModemStack.Policies
import ModemStack.Transport.LiveBus
import ModemStack.Transport.Messages
import ModemStack.Backend.IdentityRegistry
import ModemStack.Backend.LadderBudget
import ModemStack.Backend.LadderSafety
import ModemStack.Backend.RecoveryAttribution
import ModemStack.Sms.Convergence
import ModemStack.Ussd.IdleExpiry
import ModemStack.Ussd.SessionRelease
import ModemStack.Safety.CompositionRoot
import ModemStack.Providers.OrderFree
import ModemStack.Backend.SignalSetup
import ModemStack.Backend.QuiesceRestoration
import ModemStack.Providers.LocationOperations
import ModemStack.HuaweiHilink.WriteExclusion
import ModemStack.Providers.RouterLogins
import ModemStack.RedactTrees
import ModemStack.Certify.RoundTrip
import ModemStack.Operations.ExecuteFence
import ModemStack.Operations.Honesty
import ModemStack.Transport.CodecRoundTrip
import ModemStack.Transport.SignatureGrammar
import ModemStack.Radio.OfferedWrites
import ModemStack.Journal.RecoveryFold
import ModemStack.Backend.RowMirror
import ModemStack.Backend.Listeners
import ModemStack.Backend.DistinctIdentities
import ModemStack.Backend.LeaseAudit
import ModemStack.Backend.UsbEnumerator
import ModemStack.Backend.UsbClasses
import ModemStack.UsbMode.CapabilityResolution
import ModemStack.Usage.Rates
import ModemStack.Usage.CycleBoundary
import ModemStack.Usage.PolicySequence
import ModemStack.Radio.ModeRoundTrip
import ModemStack.Radio.BandReadback
import ModemStack.Sms.InboxLaws
import ModemStack.Sms.ReadablePaths
import ModemStack.Sms.MmcliUnescape
import ModemStack.NetworkManager.LossReports
import ModemStack.Observations.Freshness
import ModemStack.Backend.SimUnlock
import ModemStack.Backend.LocationMask
import ModemStack.Backend.GsmReadback
import ModemStack.UsbMode.UsbDevices
import ModemStack.Backend.CellInfo
import ModemStack.Certify.SignalWindow
import ModemStack.Power.HilCycle
import ModemStack.Observations.Routers
import ModemStack.Sms.NewestFirst
import ModemStack.Location.Nmea
