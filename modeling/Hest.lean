import Hest.Client
import Hest.Collection
import Hest.Registry
import Hest.Source.Generic
import Hest.Table.Buffer
import Hest.Text.Quoted
import Hest.Text.Numeral
import Hest.Text.Plain
import Hest.Text.Similarity
import Hest.CommandLine.Reading
import Hest.Program
import Hest.Files.Tree
import Hest.Main
import Hest.Proofs.Bytes
import Hest.Proofs.Layout
import Hest.Proofs.TableHistory
import Hest.Proofs.CollectionRules
import Hest.Proofs.FillPass
import Hest.Proofs.ClientDecision
import Hest.Proofs.FixedCollection
import Hest.Proofs.FixedExchange
import Hest.Proofs.Snapshot
import Hest.Proofs.TableDecision
import Hest.Proofs.TableBuffer
import Hest.Proofs.RegistryExchange
import Hest.Proofs.FileTrees
import Hest.Proofs.BuildRun
import Hest.Proofs.HeaderFormat
import Hest.Proofs.RegistryHistory
import Hest.Proofs.DispatcherHistory
import Hest.Proofs.MessageBounds
import Hest.Proofs.LookupFailure
import Hest.Proofs.ProbePass
import Hest.Proofs.ProducerRoles
import Hest.Proofs.CountedProducers
import Hest.Proofs.Negotiation
import Hest.Proofs.Warnings
import Hest.Proofs.BuildFailures
import Hest.Proofs.SourceFormat
import Hest.Proofs.OptionValues
import Hest.Proofs.IdentityHistory
import Hest.Proofs.TableChecksum
