import HarvesterCloudProvider.NilableMap

namespace HarvesterCloudProvider

/-!
# Annotation keys, label keys and names

The constants of `pkg/utils/consts.go` that the modelled functions read, and
the Harvester annotation keys that the provider writes on a load balancer.
-/

def keyIPAM : String :=
  "cloudprovider.harvesterhci.io/ipam"

def keyNetwork : String :=
  "cloudprovider.harvesterhci.io/network"

def keyProject : String :=
  "cloudprovider.harvesterhci.io/project"

def keyNamespace : String :=
  "cloudprovider.harvesterhci.io/namespace"

/-- Both the annotation that names a primary and the label that shares it. -/
def keyPrimaryService : String :=
  "cloudprovider.harvesterhci.io/primary-service"

def keyKubevipLoadBalancerIP : String :=
  "kube-vip.io/loadbalancerIPs"

def keyKubevipServiceInterface : String :=
  "kube-vip.io/serviceInterface"

def keyAdditionalInternalIPs : String :=
  "cloudprovider.harvesterhci.io/additional-internal-ips"

/-- Name of the ConfigMap in `kube-system` that stores the common mapping. -/
def configMapNADMapping : String :=
  "harvester-nad-mapping"

/-- Data key of the stored mapping. -/
def configMapKeyNADMapping : String :=
  "interface-nad-mapping"

def namespaceSystem : String :=
  "kube-system"

def lbClusterNameKey : String :=
  "cloudprovider.harvesterhci.io/cluster"

def lbServiceNamespaceKey : String :=
  "cloudprovider.harvesterhci.io/serviceNamespace"

def lbServiceNameKey : String :=
  "cloudprovider.harvesterhci.io/serviceName"

def networkTypeManagement : String :=
  "managementNetwork"

def annotationKeyGuestClusterManagementNetworkOnLB : String :=
  "cloudprovider.harvesterhci.io/managementNetwork"

/-- The network request recorded on a load balancer when it was created. -/
def annotationKeyNetworkOnLB : String :=
  "cloudprovider.harvesterhci.io/lb-network"

def defaultGuestClusterName : String :=
  "kubernetes"

def defaultNamespace : String :=
  "default"

def labelKeyGuestClusterNameOnVM : String :=
  "guestcluster.harvesterhci.io/name"

def annotationKeyNetwork : String :=
  "loadbalancer.harvesterhci.io/network"

def annotationKeyProject : String :=
  "loadbalancer.harvesterhci.io/project"

def annotationKeyNamespace : String :=
  "loadbalancer.harvesterhci.io/namespace"

def annotationKeyCluster : String :=
  "loadbalancer.harvesterhci.io/cluster"

/-- The API version the provider puts on a new load balancer. -/
def loadBalancerApiVersion : String :=
  "loadbalancer.harvesterhci.io/v1beta1"

/-- Annotation with which the kubelet announces the node address. -/
def annotationAlphaProvidedIPAddr : String :=
  "alpha.kubernetes.io/provided-node-ip"

/-- Label that says which tool made a virtual machine. -/
def labelKeyVirtualMachineCreator : String :=
  "harvesterhci.io/creator"

/-- The creator of the virtual machines of guest clusters. -/
def virtualMachineCreatorNodeDriver : String :=
  "docker-machine-driver-harvester"

def labelTopologyRegion : String :=
  "topology.kubernetes.io/region"

def labelTopologyZone : String :=
  "topology.kubernetes.io/zone"

/-- Key of the taint that makes the cloud node controller look at a node again. -/
def taintExternalCloudProvider : String :=
  "node.cloudprovider.kubernetes.io/uninitialized"

def flagManagementNetwork : String :=
  "management-network"

def flagNodeIPCIDR : String :=
  "node-ip-cidr"

def flagNodeExcludeIPRanges : String :=
  "node-exclude-ip-ranges"

end HarvesterCloudProvider
