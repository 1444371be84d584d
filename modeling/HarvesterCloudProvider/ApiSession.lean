import HarvesterCloudProvider.ClusterStore
import HarvesterCloudProvider.StatefulProgram
import HarvesterCloudProvider.TextFields

namespace HarvesterCloudProvider

/-!
# Provider calls as sequences of API requests

A provider call is a `Program` over a `Session`.  Every API request consumes
one `Tick`, which says what the Harvester controller, kube-vip and the mapping
controller do right before the request, and whether the request fails.  A
failed request commits nothing.  The informer caches are up to date, so a cache
read sees the stored objects.

The session records every request together with the cluster it met.  What the
other controllers do in between is invisible in the `View` of a cluster, and a
session moves the view by its committed writes only.
-/

/-- What other controllers do between two requests of the provider. -/
inductive EnvironmentAction where
  /-- The Harvester controller allocates an address or reports why it cannot. -/
  | allocate
      (name : LBName)
      (address : AllocatedAddress)
      (conditions : List Condition)
  /-- kube-vip publishes the addresses of a service. -/
  | assignIngress (key : String) (ingress : List LoadBalancerIngress)
  /-- The mapping controller stores or removes the network mapping. -/
  | storeMapping (configMap : Option ConfigMap)

namespace Cluster

/-- The effect of one action of another controller. -/
def react (cluster : Cluster) : EnvironmentAction → Cluster
  | .allocate name address conditions =>
      match cluster.loadBalancers.get? name with
      | none => cluster
      | some lb =>
          { cluster with
            loadBalancers := cluster.loadBalancers.put
              { lb with
                resourceVersion := cluster.version + 1
                status :=
                  { lb.status with
                    allocatedAddress := address
                    conditions := conditions } }
            version := cluster.version + 1 }
  | .assignIngress key ingress =>
      match cluster.services.get? key with
      | none => cluster
      | some service =>
          { cluster with
            services := cluster.services.replace
              { service with
                resourceVersion := cluster.version + 1
                loadBalancer := { ingress := ingress } }
            version := cluster.version + 1 }
  | .storeMapping configMap =>
      { cluster with configMap := configMap }

end Cluster

/-- A request failure that is not an answer about the stored objects. -/
structure Failure where
  conflict : Bool := false
  message : String := "request failed"

/-- The error a failed request returns. -/
def Failure.toErr (failure : Failure) : Err where
  reason := if failure.conflict then .conflict else .unknown
  message := failure.message

/-- What surrounds one request. -/
structure Tick where
  environment : List EnvironmentAction := []
  failure : Option Failure := none

/-- The requests of the provider. -/
inductive Request where
  | getLoadBalancer (name : LBName)
  | createLoadBalancer (lb : LoadBalancer)
  | updateLoadBalancer (lb : LoadBalancer)
  | deleteLoadBalancer (name : LBName)
  | getService (ns name : String)
  | listServices (label : String)
  | updateService (service : Service)
  | getConfigMap
  | createConfigMap (configMap : ConfigMap)
  | updateConfigMap (configMap : ConfigMap)

/-- One answered request, the cluster it met, and the error it returned. -/
structure Event where
  request : Request
  before : Cluster
  error : Option Err

/-- The state threaded by one provider call. -/
structure Session where
  cluster : Cluster
  ticks : List Tick
  events : List Event := []

/-- The error of an answer. -/
def errorOf : Except Err α → Option Err
  | .ok _ => none
  | .error error => some error

/-- Send one request: the other controllers move, then the server answers. -/
def call
    (request : Request)
    (serve : Cluster → Except Err α × Cluster) :
    Program Session Err α :=
  fun session =>
    let tick := session.ticks.headD {}
    let before := tick.environment.foldl Cluster.react session.cluster
    let served : Except Err α × Cluster :=
      match tick.failure with
      | some failure => (.error failure.toErr, before)
      | none => serve before
    (served.1,
      { cluster := served.2
        ticks := session.ticks.tail
        events :=
          session.events ++
            [{ request := request
               before := before
               error := errorOf served.1 }] })

section Requests

/-- The answer about an object that is not stored. -/
def notFound (resource name : String) : Err where
  reason := .notFound
  message := resource ++ " " ++ quote name ++ " not found"

/-- The answer to an update of an outdated object. -/
def conflicting (resource name : String) : Err where
  reason := .conflict
  message :=
    "Operation cannot be fulfilled on " ++ resource ++ " " ++ quote name ++
      ": the object has been modified; please apply your changes to the " ++
      "latest version and try again"

/-- The answer to the creation of an object that is already stored. -/
def alreadyExists (resource name : String) : Err where
  reason := .alreadyExists
  message := resource ++ " " ++ quote name ++ " already exists"

/-- `lbClient.Get` in the provider's namespace. -/
def lbClientGet (name : LBName) : Program Session Err LoadBalancer :=
  call (.getLoadBalancer name) fun cluster =>
    match cluster.loadBalancers.get? name with
    | some lb => (.ok lb, cluster)
    | none => (.error (notFound "loadbalancers" (textOf name)), cluster)

/-- `lbClient.Create`. -/
def lbClientCreate (lb : LoadBalancer) : Program Session Err Unit :=
  call (.createLoadBalancer lb) fun cluster =>
    match cluster.loadBalancers.get? lb.name with
    | some _ => (.error (alreadyExists "loadbalancers" (textOf lb.name)), cluster)
    | none =>
        (.ok (),
          { cluster with
            loadBalancers := cluster.loadBalancers.put
              { lb with resourceVersion := cluster.version + 1 }
            version := cluster.version + 1 })

/-- `lbClient.Update`. -/
def lbClientUpdate (lb : LoadBalancer) : Program Session Err Unit :=
  call (.updateLoadBalancer lb) fun cluster =>
    match cluster.loadBalancers.get? lb.name with
    | none => (.error (notFound "loadbalancers" (textOf lb.name)), cluster)
    | some stored =>
        if stored.resourceVersion = lb.resourceVersion then
          (.ok (),
            { cluster with
              loadBalancers := cluster.loadBalancers.put
                { lb with resourceVersion := cluster.version + 1 }
              version := cluster.version + 1 })
        else
          (.error (conflicting "loadbalancers" (textOf lb.name)), cluster)

/-- `lbClient.Delete` in the provider's namespace. -/
def lbClientDelete (name : LBName) : Program Session Err Unit :=
  call (.deleteLoadBalancer name) fun cluster =>
    match cluster.loadBalancers.get? name with
    | none => (.error (notFound "loadbalancers" (textOf name)), cluster)
    | some _ =>
        (.ok (),
          { cluster with loadBalancers := cluster.loadBalancers.erase name })

/-- `localSvcCache.Get`. -/
def localSvcCacheGet (ns name : String) : Program Session Err Service :=
  call (.getService ns name) fun cluster =>
    match cluster.services.get? (metaNamespaceKey ns name) with
    | some service => (.ok service, cluster)
    | none => (.error (notFound "services" name), cluster)

/-- `localSvcCache.List` over all namespaces by the primary-service label. -/
def localSvcCacheList (label : String) : Program Session Err (List Service) :=
  call (.listServices label) fun cluster =>
    (.ok (cluster.services.labelled label), cluster)

/-- `localSvcClient.Update`. -/
def localSvcClientUpdate (service : Service) : Program Session Err Unit :=
  call (.updateService service) fun cluster =>
    match cluster.services.get? service.key with
    | none => (.error (notFound "services" service.name), cluster)
    | some stored =>
        if stored.id = service.id ∧
            stored.resourceVersion = service.resourceVersion then
          (.ok (),
            { cluster with
              services := cluster.services.replace
                { service with resourceVersion := cluster.version + 1 }
              version := cluster.version + 1 })
        else
          (.error (conflicting "services" service.name), cluster)

/-- `Get` of the mapping ConfigMap, by the client or from the cache. -/
def configMapGet : Program Session Err ConfigMap :=
  call .getConfigMap fun cluster =>
    match cluster.configMap with
    | some configMap => (.ok configMap, cluster)
    | none => (.error (notFound "configmaps" configMapNADMapping), cluster)

/-- `configMapClient.Create` of the mapping ConfigMap. -/
def configMapClientCreate (configMap : ConfigMap) : Program Session Err Unit :=
  call (.createConfigMap configMap) fun cluster =>
    match cluster.configMap with
    | some _ => (.error (alreadyExists "configmaps" configMap.name), cluster)
    | none =>
        (.ok (),
          { cluster with
            configMap :=
              some { configMap with resourceVersion := cluster.version + 1 }
            version := cluster.version + 1 })

/-- `configMapClient.Update` of the mapping ConfigMap. -/
def configMapClientUpdate (configMap : ConfigMap) : Program Session Err Unit :=
  call (.updateConfigMap configMap) fun cluster =>
    match cluster.configMap with
    | none => (.error (notFound "configmaps" configMap.name), cluster)
    | some stored =>
        if stored.resourceVersion = configMap.resourceVersion then
          (.ok (),
            { cluster with
              configMap :=
                some { configMap with resourceVersion := cluster.version + 1 }
              version := cluster.version + 1 })
        else
          (.error (conflicting "configmaps" configMap.name), cluster)

end Requests

/-- A service without what only other controllers and the server write. -/
def Service.content (service : Service) : Service :=
  { service with
    resourceVersion := 0
    loadBalancer := {} }

/-- A load balancer without what only other controllers and the server write. -/
def LoadBalancer.content (lb : LoadBalancer) : LoadBalancer :=
  { lb with
    resourceVersion := 0
    status :=
      { lb.status with
        allocatedAddress := {}
        conditions := [] } }

/-- The stored objects up to what only other controllers and the server write. -/
@[ext]
structure View where
  services : String → Option Service
  loadBalancers : LBName → Option LoadBalancer

/-- The view of a cluster. -/
def Cluster.view (cluster : Cluster) : View where
  services key := (cluster.services.get? key).map Service.content
  loadBalancers name := (cluster.loadBalancers.get? name).map LoadBalancer.content

/-- The effect of a committed request on the view. -/
def Request.apply (request : Request) (view : View) : View :=
  match request with
  | .createLoadBalancer lb | .updateLoadBalancer lb =>
      { view with
        loadBalancers :=
          Function.update view.loadBalancers lb.name (some lb.content) }
  | .deleteLoadBalancer name =>
      { view with
        loadBalancers := Function.update view.loadBalancers name none }
  | .updateService service =>
      { view with
        services :=
          Function.update view.services service.key (some service.content) }
  | _ => view

/-- The effect of an answered request on the view. -/
def Event.apply (event : Event) (view : View) : View :=
  match event.error with
  | none => event.request.apply view
  | some _ => view

end HarvesterCloudProvider
