import ServiceClient.CommandLine.Run
import ServiceClient.Main
import ServiceClient.Proofs.Acronyms
import ServiceClient.Proofs.CallNumbers
import ServiceClient.Proofs.EndlessTypes
import ServiceClient.Proofs.Matching
import ServiceClient.Proofs.Namespaces
import ServiceClient.Proofs.PageTokens
import ServiceClient.Proofs.RecordEquality
import ServiceClient.Proofs.RecordForms
import ServiceClient.Proofs.Resubmission
import ServiceClient.Proofs.SameRequest
import ServiceClient.Proofs.StandardBodies
import ServiceClient.Proofs.UntypedObjects
