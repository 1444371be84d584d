import HarvesterCloudProvider.StatefulProgram
import HarvesterCloudProvider.NilableMap
import HarvesterCloudProvider.JsonText
import HarvesterCloudProvider.Consts
import HarvesterCloudProvider.LoadBalancerName
import HarvesterCloudProvider.Objects
import HarvesterCloudProvider.ClusterStore
import HarvesterCloudProvider.ApiSession
import HarvesterCloudProvider.NetAddress
import HarvesterCloudProvider.Config
import HarvesterCloudProvider.LoadBalancerManager
import HarvesterCloudProvider.ApiEffects
import HarvesterCloudProvider.LoadBalancerReads
import HarvesterCloudProvider.StepSystem
import HarvesterCloudProvider.LoadBalancerOutcome
import HarvesterCloudProvider.LoadBalancerRun
import HarvesterCloudProvider.SharedDeletion
import HarvesterCloudProvider.NetworkBinding
import HarvesterCloudProvider.LoadBalancerCleanup
import HarvesterCloudProvider.FailedReconcile
import HarvesterCloudProvider.PortSharing
import HarvesterCloudProvider.MappingSync
import HarvesterCloudProvider.MappingRace
import HarvesterCloudProvider.FirstOfClass
import HarvesterCloudProvider.NodeAddresses
import HarvesterCloudProvider.CommonMapping
import HarvesterCloudProvider.ProvidedNodeIP
import HarvesterCloudProvider.InstanceController
import HarvesterCloudProvider.NodeIdentity
import HarvesterCloudProvider.MappingSoundness
import HarvesterCloudProvider.ServiceRace
import HarvesterCloudProvider.ClusterIdentity
import HarvesterCloudProvider.SharingLabel
import HarvesterCloudProvider.SharingLabelValue
import HarvesterCloudProvider.NetworkResolution
import HarvesterCloudProvider.NodeIPCIDR
import HarvesterCloudProvider.ConfigSync
import HarvesterCloudProvider.ServiceFixpoint
import HarvesterCloudProvider.LoadBalancerConstruct
import HarvesterCloudProvider.NetAddressText
import HarvesterCloudProvider.NodeExcludeRanges
import HarvesterCloudProvider.AddressSpelling
import HarvesterCloudProvider.SharingDepth
import HarvesterCloudProvider.NodeInitialization
import HarvesterCloudProvider.NodeTopology
import HarvesterCloudProvider.NodeConvergence
import HarvesterCloudProvider.ServiceController
import HarvesterCloudProvider.ServiceEvents
import HarvesterCloudProvider.NodeLifecycle
import HarvesterCloudProvider.NodeMonitoring
import HarvesterCloudProvider.NodeAddressSync
import HarvesterCloudProvider.CommandLine
import HarvesterCloudProvider.ServiceDelivery
