import DomainScope.Address.Random
import DomainScope.Main
import DomainScope.Resolver.Typed
import DomainScope.Validator.Port
import DomainScope.Validator.WebAddress
import DomainScope.Proofs.Name.FirstLabel
import DomainScope.Proofs.Name.IcannOnly
import DomainScope.Proofs.Suffix.Prevailing
import DomainScope.Proofs.Record.Value
import DomainScope.Proofs.Resolver.Existence
import DomainScope.Proofs.Resolver.Isolation
import DomainScope.Proofs.Resolver.Unprintable
import DomainScope.Proofs.Wildcard.AtOnce
import DomainScope.Proofs.Wildcard.Candidates
import DomainScope.Proofs.Wildcard.Flight
import DomainScope.Proofs.Wildcard.InSequence
import DomainScope.Proofs.Name.RuleWalk
import DomainScope.Proofs.Name.LeadingLabel
import DomainScope.Proofs.Name.OwnSuffix
import DomainScope.Proofs.Suffix.Tails
import DomainScope.Address.Word
import DomainScope.Proofs.Address.Hosts
import DomainScope.Proofs.Name.Spelling
import DomainScope.Proofs.Resolver.Retry
import DomainScope.Proofs.Suffix.Snapshot
import DomainScope.Proofs.Address.Ranges
import DomainScope.Proofs.Name.FirstFault
import DomainScope.Proofs.Name.PrivateSwitch
import DomainScope.Proofs.Suffix.Insertion
import DomainScope.Proofs.Resolver.Arranged
import DomainScope.Proofs.CommandLine.AddressReport
import DomainScope.Proofs.CommandLine.NameReport
import DomainScope.Proofs.Name.InFront
import DomainScope.Proofs.Record.WireName
import DomainScope.Proofs.Validator.Email
import DomainScope.Proofs.Address.Narrowest
import DomainScope.Proofs.Resolver.Delays
