import Fleet.Broker.GroupTable
import Fleet.Budget
import Fleet.Call
import Fleet.Collaborators
import Fleet.Command
import Fleet.CommandLine
import Fleet.Config.Basic
import Fleet.Config.Check
import Fleet.Config.Overlay
import Fleet.Config.Read
import Fleet.Config.Variable
import Fleet.Container.Environment
import Fleet.Container.Pair
import Fleet.Container.Pass
import Fleet.Container.Spec
import Fleet.Decimal.Binary
import Fleet.Decimal.Shortest
import Fleet.Deployment
import Fleet.Deployment.Turns
import Fleet.Docker.Client
import Fleet.Docker.Command
import Fleet.Docker.Listing
import Fleet.Duration
import Fleet.Failure
import Fleet.Host
import Fleet.Host.Composition
import Fleet.Host.Label
import Fleet.Host.Mapping
import Fleet.Host.Name
import Fleet.Host.Numeric
import Fleet.Host.Punycode
import Fleet.Host.Traits
import Fleet.Http.Client
import Fleet.Http.Message
import Fleet.Http.Url
import Fleet.ImageCache
import Fleet.ImageCache.Turns
import Fleet.Json.Basic
import Fleet.Json.Decode
import Fleet.Json.Encode
import Fleet.Json.Parser
import Fleet.Json.Printer
import Fleet.Json.Selection
import Fleet.Machine
import Fleet.Machine.Read
import Fleet.Machine.Script
import Fleet.Main
import Fleet.Module.Descriptor
import Fleet.Module.Id
import Fleet.Module.Listing
import Fleet.Module.Resolve
import Fleet.Module.Spec
import Fleet.Platform
import Fleet.Ports
import Fleet.Program
import Fleet.Proofs.Broker.GroupRow
import Fleet.Proofs.Broker.ShortRows
import Fleet.Proofs.Container.Environment
import Fleet.Proofs.Container.Specs
import Fleet.Proofs.Contract
import Fleet.Proofs.Course
import Fleet.Proofs.Deployment.Bringing
import Fleet.Proofs.Deployment.Creations
import Fleet.Proofs.Deployment.Ending
import Fleet.Proofs.Deployment.FailFast
import Fleet.Proofs.Deployment.Installation
import Fleet.Proofs.Deployment.OneTurn
import Fleet.Proofs.Deployment.Passage
import Fleet.Proofs.Deployment.Progress
import Fleet.Proofs.Deployment.Removal
import Fleet.Proofs.Deployment.Standing
import Fleet.Proofs.Deployment.Undeploying
import Fleet.Proofs.Deployment.Undisturbed
import Fleet.Proofs.Deployment.Upkeep
import Fleet.Proofs.Docker.Labels
import Fleet.Proofs.Docker.RootTokens
import Fleet.Proofs.Failures
import Fleet.Proofs.Http.Deliveries
import Fleet.Proofs.Http.KeptBodies
import Fleet.Proofs.Http.Retries
import Fleet.Proofs.ImageCache.OneImage
import Fleet.Proofs.ImageCache.PulledOnce
import Fleet.Proofs.ImageCache.Together
import Fleet.Proofs.Module.Assignment
import Fleet.Proofs.Module.Description
import Fleet.Proofs.Module.Groupings
import Fleet.Proofs.Module.Id
import Fleet.Proofs.Module.IssuedPorts
import Fleet.Proofs.Module.Merging
import Fleet.Proofs.Module.PublishedPorts
import Fleet.Proofs.Module.Refusals
import Fleet.Proofs.Module.Resolvable
import Fleet.Proofs.Platform.ConfigurationFailures
import Fleet.Proofs.Platform.HostPorts
import Fleet.Proofs.Platform.PassCommands
import Fleet.Proofs.Platform.PassViews
import Fleet.Proofs.Platform.PlannedContainers
import Fleet.Proofs.Platform.SharedRuntime
import Fleet.Proofs.Platform.StageCourses
import Fleet.Proofs.Platform.StageOrder
import Fleet.Proofs.Platform.Stages
import Fleet.Proofs.Platform.TearDown
import Fleet.Proofs.Ports.Drawing
import Fleet.Proofs.Ports.LeastFree
import Fleet.Proofs.Ports.Taking
import Fleet.Proofs.Quiescence
import Fleet.Proofs.Readiness
import Fleet.Proofs.Readiness.Ending
import Fleet.Proofs.Readiness.Gate
import Fleet.Proofs.Readiness.OneTurn
import Fleet.Proofs.Readiness.Outcomes
import Fleet.Proofs.Readiness.Passage
import Fleet.Proofs.Readiness.Rounds
import Fleet.Proofs.Readiness.Timelines
import Fleet.Proofs.Rehearsal.ContainerIds
import Fleet.Proofs.Rehearsal.ContainerRuns
import Fleet.Proofs.Rehearsal.Containers
import Fleet.Proofs.Rehearsal.Identity
import Fleet.Proofs.Rehearsal.TenantIds
import Fleet.Proofs.Rehearsal.Tenants
import Fleet.Proofs.Service.CapabilitySets
import Fleet.Proofs.Service.Directory
import Fleet.Proofs.Service.Failures
import Fleet.Proofs.Service.UserCreation
import Fleet.Proofs.Service.UserRuns
import Fleet.Proofs.Service.UserService
import Fleet.Proofs.Splitting
import Fleet.Proofs.Table
import Fleet.Proofs.Tenant.Attachment
import Fleet.Proofs.Tenant.Coverage
import Fleet.Proofs.Tenant.Creation
import Fleet.Proofs.Tenant.Entitlement
import Fleet.Proofs.Tenant.ExactPlan
import Fleet.Proofs.Tenant.Itinerary
import Fleet.Proofs.Tenant.Plan
import Fleet.Proofs.Tenant.Recreation
import Fleet.Proofs.Tenant.Removal
import Fleet.Proofs.Tenant.Steps
import Fleet.Proofs.Text.Pieces
import Fleet.Proofs.Text.Utf8
import Fleet.Proofs.Text.Words
import Fleet.Proofs.Vigil
import Fleet.Quiescence
import Fleet.Readiness
import Fleet.Readiness.Turns
import Fleet.Rehearsal
import Fleet.Rehearsal.Containers
import Fleet.Rehearsal.Identity
import Fleet.Rehearsal.Read
import Fleet.Rehearsal.Signals
import Fleet.Rehearsal.Tenants
import Fleet.RootToken
import Fleet.Service.Directory
import Fleet.Service.Gateway
import Fleet.Service.Identity
import Fleet.Service.Probe
import Fleet.Service.Registry
import Fleet.Service.Tenants
import Fleet.Site
import Fleet.Table
import Fleet.Tenant.Partition
import Fleet.Tenant.Traversal
import Fleet.Text.Blank
import Fleet.Text.Hex
import Fleet.Text.Percent
import Fleet.Text.Upper
import Fleet.Text.Utf8
import Fleet.Token
import Fleet.View.Config
import Fleet.View.Failure
import Fleet.View.Machine
import Fleet.View.Module
import Fleet.View.Service
