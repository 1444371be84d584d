import HarvesterCloudProvider.Consts
import HarvesterCloudProvider.NetAddress
import HarvesterCloudProvider.Objects

namespace HarvesterCloudProvider

/-!
# Provider configuration

The configuration record that the flags fill once at start-up, its readers,
and the normal form of network names.
-/

/-- `config.Config`. -/
structure Config where
  clusterName : String := ""
  cloudProviderControllers : String := ""
  disableAnnotationAlphaProvidedIPAddr : Bool := false
  managementNetwork : String := ""
  nodeIPCIDR : String := ""
  nodeExcludeIPRanges : List String := []
  disableVMIController : Bool := false
  showFullHelpOnError : Bool := false
  internalNodeIPCIDRPrefixes : List Prefix := []
  internalNodeExcludeIPPrefixes : List Prefix := []

namespace Config

/-- The management network, when one is configured. -/
def getManagementNetwork (cfg : Config) : Option String :=
  if cfg.managementNetwork ≠ "" then some cfg.managementNetwork else none

/-- The parsed node IP prefixes. -/
def getNodeIPCIDRPrefixes (cfg : Config) : List Prefix :=
  cfg.internalNodeIPCIDRPrefixes

/-- The parsed prefixes of excluded node IPs. -/
def getNodeExcludeIPPrefixes (cfg : Config) : List Prefix :=
  cfg.internalNodeExcludeIPPrefixes

end Config

/-- `NormalizeNetworkName`: bring a network name into `namespace/name` form. -/
def normalizeNetworkName
    (networkType networkName : String) :
    Except Err String :=
  if networkName = "" then
    .error (.errorf s!"network type {networkType}: network name is empty")
  else
    match networkName.toList.splitOn '/' with
    | [_] => .ok (defaultNamespace ++ "/" ++ networkName)
    | [ns, name] =>
        if ns = [] ∨ name = [] then
          .error (.errorf
            (s!"invalid network type {networkType} format " ++
              s!"{quote networkName}, expected 'namespace/name'"))
        else
          .ok networkName
    | _ =>
        .error (.errorf
          s!"network type {networkType} name {quote networkName} has too many slashes")

end HarvesterCloudProvider
