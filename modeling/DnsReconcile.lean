import DnsReconcile.Main
import DnsReconcile.Proofs.AbortedRuns
import DnsReconcile.Proofs.AcceptedContent
import DnsReconcile.Proofs.Accounting
import DnsReconcile.Proofs.Announcements
import DnsReconcile.Proofs.ApexDelegation
import DnsReconcile.Proofs.CallTrace
import DnsReconcile.Proofs.ChangeTexts
import DnsReconcile.Proofs.CleanApplication
import DnsReconcile.Proofs.CnameExclusivity
import DnsReconcile.Proofs.ConcurrentApplication
import DnsReconcile.Proofs.DomainOrder
import DnsReconcile.Proofs.Hostability
import DnsReconcile.Proofs.NameLength
import DnsReconcile.Proofs.PlannedVerbs
import DnsReconcile.Proofs.Preview
import DnsReconcile.Proofs.ReadBack
import DnsReconcile.Proofs.RequestPaths
import DnsReconcile.Proofs.Resumption
import DnsReconcile.Proofs.Scheduling
import DnsReconcile.Proofs.SnapshotForm
import DnsReconcile.Proofs.Spellings
import DnsReconcile.Proofs.StoreReading
import DnsReconcile.Proofs.WrittenConfig
