import HarvesterCloudProvider.ApiSession
import HarvesterCloudProvider.Config
import HarvesterCloudProvider.JsonText

namespace HarvesterCloudProvider

open Program

/-!
# The load balancer manager

The functions of `pkg/cloud-controller-manager/loadbalancer.go`.  A primary
service owns a Harvester load balancer; a secondary service names a primary in
an annotation and shares the load balancer of that primary.  Log output is
left out.
-/

/-- The fixed data of the manager and the global configuration. -/
structure LoadBalancerManager where
  ns : String
  config : Config := {}

/-- How often the manager polls for an allocated address. -/
def retryTimes : Nat :=
  10

/-- Attempts of `retry.RetryOnConflict` with the default backoff. -/
def defaultBackoffSteps : Nat :=
  4

/-- `retry.RetryOnConflict` with the default backoff. -/
def retryOnConflict
    (attempt : Program Session Err Unit) :
    Program Session Err Unit :=
  retryWhile Err.isConflict attempt (defaultBackoffSteps - 1)

/-- The value of the label that a secondary of this service carries. -/
def primaryServiceLabelValue (service : Service) : String :=
  service.ns ++ "." ++ service.name

/-- The name of the load balancer of a service as a primary. -/
def ServiceId.loadBalancerName (id : ServiceId) (clusterName : String) : LBName :=
  HarvesterCloudProvider.loadBalancerName (bytesOf clusterName)
    (bytesOf id.ns) (bytesOf id.name) (bytesOf id.uid)

/-- The name of the load balancer of a service as a primary. -/
def Service.loadBalancerName (service : Service) (clusterName : String) : LBName :=
  service.id.loadBalancerName clusterName

/-- `strings.SplitN` at the first slash, when there is one. -/
def splitAtSlash (text : String) : Option (String × String) :=
  match text.toList.dropWhile (· ≠ '/') with
  | [] => none
  | _ :: rest =>
      some (String.ofList (text.toList.takeWhile (· ≠ '/')), String.ofList rest)

/-- The service that the primary-service annotation points to, if it is set. -/
def getPrimaryService (service : Service) : Program Session Err (Option Service) :=
  match service.annotations.lookup keyPrimaryService with
  | none => pure none
  | some primary =>
      match splitAtSlash primary with
      | none => fail (.errorf s!"invalid service name {primary}")
      | some (ns, name) => do
          let primarySvc ←
            mapError (.wrap s!"get service {primary} failed: ")
              (localSvcCacheGet ns name)
          if primarySvc.annotations.read keyPrimaryService ≠ "" then
            fail (.errorf s!"service {primary} is not a primary service")
          else
            pure (some primarySvc)

/-- The name of the load balancer a service uses, its own or a shared one. -/
def getLoadBalancerName
    (clusterName : String)
    (service : Service) :
    Program Session Err LBName := do
  match ← attempt (getPrimaryService service) with
  | .ok (some primarySvc) => pure (primarySvc.loadBalancerName clusterName)
  | .ok none => pure (service.loadBalancerName clusterName)
  | .error _ => pure (service.loadBalancerName clusterName)

/-- The status of the load balancer of a service; `none` means it is missing. -/
def getLoadBalancer
    (clusterName : String)
    (service : Service) :
    Program Session Err (Option LoadBalancerStatus) := do
  let name ← getLoadBalancerName clusterName service
  match ← attempt (lbClientGet name) with
  | .error error => if error.isNotFound then pure none else fail error
  | .ok lb =>
      if lb.status.address = "" then
        pure none
      else
        pure (some service.loadBalancer)

/--
The stored mapping from networks to interfaces: nil without a ConfigMap, empty
when the ConfigMap holds no entries.
-/
def getNADInterfaceMapping : Program Session Err StringMap := do
  match ← attempt configMapGet with
  | .error error =>
      if error.isNotFound then
        pure none
      else
        fail (.wrap "get NAD mapping ConfigMap: " error)
  | .ok configMap =>
      let mappingStr := configMap.data.read configMapKeyNADMapping
      if mappingStr = "" then
        pure (some ∅)
      else
        match JsonText.unmarshalStringMap mappingStr with
        | some mapping => pure mapping
        | none =>
            fail (.errorf
              (s!"invalid {configMapKeyNADMapping} in ConfigMap " ++
                s!"{configMap.ns}/{configMap.name}: not a JSON string map"))

/--
The Linux interface of the network a service asks for.  The empty interface
means that there is nothing to check: no network annotation, or no mapping yet.
-/
def resolveNetworkInterface (service : Service) : Program Session Err String := do
  let network := service.annotations.read keyNetwork
  if network = "" then
    pure ""
  else
    match ← getNADInterfaceMapping with
    | none => pure ""
    | some mapping =>
        if mapping.isEmpty then
          fail (.errorf
            (s!"there is no common NAD mapping: {namespaceSystem}/" ++
              s!"{configMapNADMapping} is empty"))
        else
          match mapping[network]? with
          | some iface => pure iface
          | none =>
              fail (.errorf
                (s!"network {network} not found in NAD mapping for service " ++
                  s!"{service.ns}/{service.name}"))

/-- Whether a service asks for another network than the load balancer has. -/
def isNetworkChanged (service : Service) (lb : LoadBalancer) : Bool :=
  service.annotations.read keyNetwork ≠
    lb.annotations.read annotationKeyNetworkOnLB

/-- Refuse a service whose network differs from its existing load balancer. -/
def checkNetworkChanged
    (service : Service)
    (lbName : LBName)
    (secondary : Bool) :
    Program Session Err Unit := do
  match ← attempt (lbClientGet lbName) with
  | .error error => if error.isNotFound then pure () else fail error
  | .ok lb =>
      if lb.name = [] then
        pure ()
      else if secondary = true ∧
          service.annotations.read keyNetwork = "" ∧
          lb.annotations.read annotationKeyNetworkOnLB ≠ "" then
        -- A secondary without network takes the network over from its primary.
        pure ()
      else if isNetworkChanged service lb then
        let wanted := service.annotations.read keyNetwork
        let recorded := lb.annotations.read annotationKeyNetworkOnLB
        fail (.errorf
          (s!"network annotation of service {service.ns}/{service.name} " ++
            s!"is not same as the load balancer {lb.ns}/{textOf lb.name}, " ++
            s!"service: '{wanted}', lb: '{recorded}'"))
      else
        pure ()

/-- Set or drop the management network annotation. -/
def patchLB (cfg : Config) (lb : LoadBalancer) : LoadBalancer :=
  let annotations := some (lb.annotations.getD ∅)
  match cfg.getManagementNetwork with
  | some mgmt =>
      match normalizeNetworkName networkTypeManagement mgmt with
      | .ok target =>
          { lb with
            annotations :=
              NilableMap.write annotations
                annotationKeyGuestClusterManagementNetworkOnLB target }
      | .error _ =>
          { lb with
            annotations :=
              NilableMap.remove annotations
                annotationKeyGuestClusterManagementNetworkOnLB }
  | none =>
      { lb with
        annotations :=
          NilableMap.remove annotations
            annotationKeyGuestClusterManagementNetworkOnLB }

namespace LoadBalancerManager

/-- Whether there is no usable old load balancer. -/
def isMissing (oldLB : Option LoadBalancer) : Bool :=
  match oldLB with
  | none => true
  | some lb => lb.name = []

/-- The object that reconciling starts from. -/
def startingLB
    (l : LoadBalancerManager)
    (oldLB : Option LoadBalancer)
    (name : LBName) :
    LoadBalancer :=
  match oldLB with
  | some lb =>
      if lb.name = [] then
        { apiVersion := loadBalancerApiVersion, ns := l.ns, name := name }
      else
        lb
  | none =>
      { apiVersion := loadBalancerApiVersion, ns := l.ns, name := name }

/-- The annotations of a reconciled load balancer before the global patch. -/
def constructAnnotations
    (oldLB : Option LoadBalancer)
    (starting : StringMap)
    (service : Service)
    (clusterName : String) :
    StringMap :=
  let network := service.annotations.read keyNetwork
  let withNetwork :=
    if isMissing oldLB then
      (starting.write annotationKeyNetwork network).write
        annotationKeyNetworkOnLB network
    else
      starting
  ((withNetwork.write annotationKeyProject
      (service.annotations.read keyProject)).write annotationKeyNamespace
      (service.annotations.read keyNamespace)).write annotationKeyCluster
      clusterName

/-- The load balancer a service wants, built on the old one if there is one. -/
def constructLB
    (l : LoadBalancerManager)
    (oldLB : Option LoadBalancer)
    (service : Service)
    (name : LBName)
    (clusterName : String) :
    LoadBalancer :=
  let lb := l.startingLB oldLB name
  let labels :=
    ((lb.labels.write lbClusterNameKey clusterName).write
      lbServiceNamespaceKey service.ns).write lbServiceNameKey service.name
  let lb :=
    { lb with
      annotations := constructAnnotations oldLB lb.annotations service clusterName
      labels := labels }
  let lb := patchLB l.config lb
  let ipam := (service.annotations.lookup keyIPAM).getD "pool"
  let lb :=
    { lb with
      spec := { lb.spec with ipam := ipam, workloadType := "cluster" } }
  match service.loadBalancer.ingress with
  | [] => lb
  | first :: _ => { lb with status := { lb.status with address := first.ip } }

/-- Create the load balancer of a service, or update the existing one. -/
def createOrUpdateLoadBalancer
    (l : LoadBalancerManager)
    (name : LBName)
    (clusterName : String)
    (service : Service) :
    Program Session Err Unit := do
  match ← attempt (lbClientGet name) with
  | .error error =>
      if error.isNotFound then
        lbClientCreate (l.constructLB none service name clusterName)
      else
        fail error
  | .ok lb => lbClientUpdate (l.constructLB (some lb) service name clusterName)

end LoadBalancerManager

/-- Poll for the allocated address. -/
def waitForIP
    (callback : Program Session Err (LoadBalancer × String)) :
    Program Session Err (LoadBalancer × String) :=
  mapError (.wrap "timeout waiting for IP address, last error:")
    (poll callback retryTimes (.errorf "nil"))

/-- Read the stored service again and write a changed copy of it. -/
def retryFunc
    (service : Service)
    (serviceType ip primaryLabel : String)
    (updateServiceObject : Service → String → String → Service) :
    Program Session Err Unit := do
  let newService ←
    mapError
      (.wrap
        (s!"failed to get {serviceType} service " ++
          s!"{service.ns}/{service.name} to update ip {ip}, error: "))
      (localSvcCacheGet service.ns service.name)
  -- Another UID means that the service has been recreated.
  if newService.uid ≠ service.uid then
    fail (.errorf
      (s!"failed to get {serviceType} service " ++
        s!"{service.ns}/{service.name} to update ip {ip}, UID " ++
        s!"{service.uid} has changed to {newService.uid}"))
  else
    localSvcClientUpdate (updateServiceObject newService ip primaryLabel)

/-- Write a changed copy of a service, starting over when it was outdated. -/
def retryUpdateService
    (service : Service)
    (serviceType ip primaryLabel : String)
    (updateServiceObject : Service → String → String → Service) :
    Program Session Err Unit :=
  mapError
    (.wrap
      (s!"failed to update {serviceType} service {service.ns}/{service.name} " ++
        s!"with ip {ip} after retry, last error: "))
    (retryOnConflict
      (retryFunc service serviceType ip primaryLabel updateServiceObject))

/-- Whether a primary already carries its address and interface. -/
def isPrimaryServiceUpdatedWithIP
    (service : Service)
    (lb : LoadBalancer)
    (ip resolvedIface : String) :
    Bool :=
  if resolvedIface ≠ "" ∧
      service.annotations.read keyKubevipServiceInterface ≠ resolvedIface then
    false
  else
    service.annotations.isSome &&
      service.annotations.read keyKubevipLoadBalancerIP = ip &&
      lb.status.address = ip &&
      service.labels.isSome &&
      service.labels.read keyPrimaryService = ""

/-- Clear the sharing label and set the address and interface of a primary. -/
def updatePrimaryServiceObject
    (resolvedIface : String)
    (serviceCopy : Service)
    (ip _primaryLabel : String) :
    Service :=
  let labels :=
    if serviceCopy.labels.read keyPrimaryService ≠ "" then
      serviceCopy.labels.write keyPrimaryService ""
    else
      serviceCopy.labels
  let withIP := serviceCopy.annotations.write keyKubevipLoadBalancerIP ip
  let annotations :=
    if resolvedIface ≠ "" then
      withIP.write keyKubevipServiceInterface resolvedIface
    else
      withIP
  { serviceCopy with labels := labels, annotations := annotations }

/-- Wait for the allocated address and pass it on to the service. -/
def updatePrimaryServiceLoadBalancerIP
    (lbName : LBName)
    (service : Service) :
    Program Session Err Unit := do
  let resolvedIface ←
    mapError (.wrap s!"resolve interface for service {service.ns}/{service.name}: ")
      (resolveNetworkInterface service)
  let (lb, ip) ←
    waitForIP do
      let lb ← mapError (.wrap "fail to get lb ") (lbClientGet lbName)
      if lb.status.allocatedAddress.ip = "" then
        fail (.errorf
          (s!"ip is not allocated, mode: {lb.spec.ipam}, " ++
            s!"message: {lb.readyMessage}"))
      else
        pure (lb, lb.status.allocatedAddress.ip)
  if isPrimaryServiceUpdatedWithIP service lb ip resolvedIface then
    pure ()
  else
    retryUpdateService service "primary" ip ""
      (updatePrimaryServiceObject resolvedIface)

/-- Whether a service asks for a network. -/
def hasNetworkAnnotation (service : Service) : Bool :=
  service.annotations.read keyNetwork ≠ ""

/-- Whether a secondary already carries the address, network and label. -/
def isSecondaryServiceUpdatedWithPrimary
    (primary secondary : Service)
    (ip labelValue : String) :
    Bool :=
  if hasNetworkAnnotation primary = true ∧
      secondary.annotations.read keyNetwork ≠
        primary.annotations.read keyNetwork then
    false
  else
    secondary.annotations.isSome &&
      secondary.annotations.read keyKubevipLoadBalancerIP = ip &&
      secondary.annotations.read keyKubevipServiceInterface = "" &&
      secondary.annotations.read keyIPAM = "" &&
      secondary.labels.isSome &&
      secondary.labels.read keyPrimaryService = labelValue

/-- Set label, address and network of a secondary and drop its own requests. -/
def updateSecondaryServiceObject
    (primary secondaryCopy : Service)
    (ip primaryLabel : String) :
    Service :=
  let labels := secondaryCopy.labels.write keyPrimaryService primaryLabel
  let withIP := secondaryCopy.annotations.write keyKubevipLoadBalancerIP ip
  let withNetwork :=
    if hasNetworkAnnotation primary then
      withIP.write keyNetwork (primary.annotations.read keyNetwork)
    else
      withIP
  { secondaryCopy with
    labels := labels
    annotations :=
      (withNetwork.remove keyKubevipServiceInterface).remove keyIPAM }

/-- Pass the address of the primary on to a secondary. -/
def updateSecondaryServiceLoadBalancerIP
    (ip : String)
    (primary secondary : Service) :
    Program Session Err Unit :=
  let labelValue := primaryServiceLabelValue primary
  if isSecondaryServiceUpdatedWithPrimary primary secondary ip labelValue then
    pure ()
  else
    retryUpdateService secondary "secondary" ip labelValue
      (updateSecondaryServiceObject primary)

/-- The first listed port that a secondary would use a second time. -/
def usedPort (secondary : Service) (services : List Service) :
    Option (ServicePort × Service) :=
  services.findSome? fun service =>
    -- The service itself may be in the list.
    if service.uid = secondary.uid then
      none
    else
      (service.ports.find? fun port =>
        secondary.ports.any fun own => own.port = port.port).map
        fun port => (port, service)

/-- Refuse a secondary whose ports are taken by its primary or another one. -/
def checkPortOverlap (primary secondary : Service) : Program Session Err Unit := do
  let listed ←
    mapError (.wrap "list service failed: ")
      (localSvcCacheList (primaryServiceLabelValue primary))
  match usedPort secondary (listed ++ [primary]) with
  | none => pure ()
  | some (port, service) =>
      fail (.errorf
        (s!"port {port.port.toInt} has been used in service " ++
          s!"{service.ns}/{service.name}"))

/-- Refuse to delete a load balancer that other services share. -/
def checkSecondaryServicesBeforeDeleted (primary : Service) :
    Program Session Err Unit := do
  let services ← localSvcCacheList (primaryServiceLabelValue primary)
  if services ≠ [] then
    let names :=
      String.intercalate " " (services.map fun service => service.ns ++ "/" ++ service.name)
    fail (.errorf
      (s!"service {primary.ns}/{primary.name} is still used by other services " ++
        s!"[{names}]"))
  else
    pure ()

/-- Delete the own load balancer of a service, if it exists and nobody shares it. -/
def deleteLoadBalancer
    (clusterName : String)
    (service : Service) :
    Program Session Err Unit := do
  mapError
    (.wrap s!"could not delete load balancer for service {service.ns}/{service.name}: ")
    (checkSecondaryServicesBeforeDeleted service)
  let name := service.loadBalancerName clusterName
  match ← attempt (lbClientGet name) with
  | .error error => if error.isNotFound then pure () else fail error
  | .ok _ => lbClientDelete name

namespace LoadBalancerManager

/-- Reconcile the load balancer of a primary service. -/
def ensurePrimaryLoadBalancer
    (l : LoadBalancerManager)
    (clusterName : String)
    (service : Service) :
    Program Session Err LoadBalancerStatus := do
  let name := service.loadBalancerName clusterName
  checkNetworkChanged service name false
  mapError (.wrap s!"create or update lb {l.ns}/{textOf name} failed, error: ")
    (l.createOrUpdateLoadBalancer name clusterName service)
  match ← attempt (updatePrimaryServiceLoadBalancerIP name service) with
  | .error error =>
      -- The service could not be updated, so its load balancer goes again.
      mapError (.wrap s!"delete lb {l.ns}/{textOf name} failed, error: ")
        (deleteLoadBalancer clusterName service)
      fail (.wrap
        (s!"update load balancer IP of service {service.ns}/{service.name} " ++
          "failed, error: ") error)
  | .ok _ => pure service.loadBalancer

/-- Let a secondary service share the load balancer of its primary. -/
def ensureSecondaryLoadBalancer
    (clusterName : String)
    (primary secondary : Service) :
    Program Session Err LoadBalancerStatus :=
  match primary.loadBalancer.ingress with
  | [] =>
      fail (.errorf
        s!"primary service {primary.ns}/{primary.name} has no ingress IP")
  | first :: _ => do
      mapError
        (.wrap
          (s!"check port overlap failed, primary service: {primary.ns}/" ++
            s!"{primary.name}, secondary service: {secondary.ns}/" ++
            s!"{secondary.name}, error: "))
        (checkPortOverlap primary secondary)
      checkNetworkChanged secondary (primary.loadBalancerName clusterName) true
      deleteLoadBalancer clusterName secondary
      updateSecondaryServiceLoadBalancerIP first.ip primary secondary
      pure secondary.loadBalancer

/-- Create or update the load balancer of a service. -/
def ensureLoadBalancer
    (l : LoadBalancerManager)
    (clusterName : String)
    (service : Service) :
    Program Session Err LoadBalancerStatus := do
  let _ ← resolveNetworkInterface service
  match ← getPrimaryService service with
  | some primarySvc => ensureSecondaryLoadBalancer clusterName primarySvc service
  | none => l.ensurePrimaryLoadBalancer clusterName service

/-- Update the load balancer of a service. -/
def updateLoadBalancer
    (l : LoadBalancerManager)
    (clusterName : String)
    (service : Service) :
    Program Session Err Unit := do
  let _ ←
    mapError (.wrap "update load balancer failed, error: ")
      (l.ensureLoadBalancer clusterName service)
  pure ()

/-- Delete the load balancer of a service; a secondary has none of its own. -/
def ensureLoadBalancerDeleted
    (clusterName : String)
    (service : Service) :
    Program Session Err Unit := do
  match ← getPrimaryService service with
  | some _ => pure ()
  | none => deleteLoadBalancer clusterName service

end LoadBalancerManager

end HarvesterCloudProvider
