import ClusterAgent.Main
import ClusterAgent.Proofs.Net.Selection
import ClusterAgent.Proofs.Net.SubnetText
import ClusterAgent.Proofs.Node.AdminRows
import ClusterAgent.Proofs.Node.HintFamilies
import ClusterAgent.Proofs.Node.LineForms
import ClusterAgent.Proofs.Node.Merging
import ClusterAgent.Proofs.Node.Settings
import ClusterAgent.Proofs.Join.Bodies
import ClusterAgent.Proofs.Join.Contention
import ClusterAgent.Proofs.Join.EndpointCheck
import ClusterAgent.Proofs.Join.OneToken
import ClusterAgent.Proofs.Join.PatchedOnce
import ClusterAgent.Proofs.Join.Secrets
import ClusterAgent.Proofs.Join.SelfJoin
import ClusterAgent.Proofs.Join.Voters
import ClusterAgent.Proofs.Client.Credentials
import ClusterAgent.Proofs.Client.Hostname
import ClusterAgent.Proofs.Client.Reinstall
import ClusterAgent.Proofs.Client.Requests
import ClusterAgent.Proofs.Client.Responses
import ClusterAgent.Proofs.Client.Unfit
import ClusterAgent.Proofs.Client.WorkerInstall
import ClusterAgent.Proofs.Client.WorkerTokens
import ClusterAgent.Proofs.Membership.Rewriting
import ClusterAgent.Proofs.Membership.Waiting
import ClusterAgent.Proofs.Tokens.CallbackRuns
import ClusterAgent.Proofs.Tokens.Inviting
