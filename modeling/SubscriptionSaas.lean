import SubscriptionSaas.AssetAccounting.Proofs.VehicleCostProofs
import SubscriptionSaas.Billing.Proofs.ManualProofs
import SubscriptionSaas.Billing.Proofs.PauseProofs
import SubscriptionSaas.Change.Proofs.ContractArchiveProofs
import SubscriptionSaas.Change.Proofs.EndProofs
import SubscriptionSaas.Change.Proofs.QuoteProofs
import SubscriptionSaas.Change.Proofs.RenewalProofs
import SubscriptionSaas.Change.Proofs.SwapEntitlementProofs
import SubscriptionSaas.Change.Proofs.SwapSettlementProofs
import SubscriptionSaas.Closure.Proofs.CanonicalJsonProofs
import SubscriptionSaas.Closure.Proofs.ChargeClauseProofs
import SubscriptionSaas.Closure.Proofs.CoherenceProofs
import SubscriptionSaas.Closure.Proofs.FoldProofs
import SubscriptionSaas.Closure.Proofs.GovernanceProofs
import SubscriptionSaas.Closure.Proofs.PauseProofs
import SubscriptionSaas.Closure.Proofs.SettlementProofs
import SubscriptionSaas.Depreciation.Proofs.StraightLineProofs
import SubscriptionSaas.FieldVideo.Proofs.MachineProofs
import SubscriptionSaas.Finance.Proofs.OverdueProofs
import SubscriptionSaas.FleetOps.Proofs.StateResolverProofs
import SubscriptionSaas.Journey.Proofs.EvidenceProofs
import SubscriptionSaas.Mandate.Proofs.MandateProofs
import SubscriptionSaas.Mileage.Proofs.ReviewCalendarProofs
import SubscriptionSaas.Mileage.Proofs.UndoProofs
import SubscriptionSaas.Payment.Proofs.AttemptProofs
import SubscriptionSaas.Portal.Proofs.ListOrderingProofs
import SubscriptionSaas.Release.Proofs.CustodyProofs
import SubscriptionSaas.Release.Proofs.DispatchProofs
import SubscriptionSaas.Release.Proofs.ExecutionProofs
import SubscriptionSaas.Release.Proofs.LifecycleProofs
import SubscriptionSaas.Release.Proofs.MigrationScanProofs
import SubscriptionSaas.Release.Proofs.ReadOnlySourceProofs
import SubscriptionSaas.Release.Proofs.RevocationProofs
import SubscriptionSaas.Renewal.Proofs.EnrollmentProofs
import SubscriptionSaas.Report.Proofs.CsvProofs
import SubscriptionSaas.RevenueRight.Proofs.SharePreviewProofs
import SubscriptionSaas.Snapshot.Proofs.ExportProofs
