import HarvesterCloudProvider.LoadBalancerName

namespace HarvesterCloudProvider

/-!
# API objects

The Kubernetes and Harvester objects the provider reads and writes, with the
fields its code touches, and the errors the API machinery reports.  Strings of
API objects are texts: they reach the provider through JSON and are therefore
valid UTF-8.  Load balancer names are byte strings because the provider cuts
them at a byte position.
-/

/-- Annotations, labels and ConfigMap data. -/
abbrev StringMap := NilableMap String String

/-- The reasons of an API status that the code distinguishes. -/
inductive StatusReason where
  | notFound
  | alreadyExists
  | conflict
  | invalid
  | unknown
  deriving Repr, DecidableEq

/-- A Go error: its text, and the status reason found by unwrapping it. -/
structure Err where
  reason : StatusReason
  message : String
  deriving Repr, DecidableEq

namespace Err

/-- `fmt.Errorf` without a wrapped error. -/
def errorf (message : String) : Err where
  reason := .unknown
  message := message

/-- `fmt.Errorf` ending in `%w`: the wrapped error keeps its reason. -/
def wrap (message : String) (cause : Err) : Err where
  reason := cause.reason
  message := message ++ cause.message

/-- `errors.IsNotFound`. -/
def isNotFound (error : Err) : Bool :=
  error.reason = .notFound

/-- `errors.IsConflict`. -/
def isConflict (error : Err) : Bool :=
  error.reason = .conflict

end Err

/-- One entry of the load balancer status of a service. -/
structure LoadBalancerIngress where
  ip : String
  deriving Repr, DecidableEq

/-- The load balancer status of a service. -/
structure LoadBalancerStatus where
  ingress : List LoadBalancerIngress := []
  deriving Repr, DecidableEq

/-- One exposed port of a service. -/
structure ServicePort where
  port : Int32
  deriving Repr, DecidableEq

/-- The type of a service. -/
inductive ServiceType where
  | clusterIP
  | nodePort
  | loadBalancer
  | externalName
  deriving Repr, DecidableEq

/-- What makes a service the same service over time. -/
structure ServiceId where
  ns : String
  name : String
  uid : String
  deriving Repr, DecidableEq

/-- A service of the guest cluster. -/
structure Service where
  ns : String
  name : String
  uid : String
  annotations : StringMap := none
  labels : StringMap := none
  resourceVersion : Nat := 0
  serviceType : ServiceType := .loadBalancer
  ports : List ServicePort := []
  loadBalancer : LoadBalancerStatus := {}

/-- The key of an object in an informer cache. -/
def metaNamespaceKey (ns name : String) : String :=
  if ns = "" then name else ns ++ "/" ++ name

namespace Service

/-- The identity of a service. -/
def id (service : Service) : ServiceId where
  ns := service.ns
  name := service.name
  uid := service.uid

/-- The cache key of a service. -/
def key (service : Service) : String :=
  metaNamespaceKey service.ns service.name

/-- What the API server admits as namespace and name of a service. -/
def Admissible (service : Service) : Prop :=
  isDNS1123Label (bytesOf service.ns) = true ∧
    isDNS1123Label (bytesOf service.name) = true

instance (service : Service) : Decidable service.Admissible :=
  inferInstanceAs (Decidable (_ ∧ _))

end Service

/-- The address the Harvester controller allocated for a load balancer. -/
structure AllocatedAddress where
  ipPool : String := ""
  ip : String := ""
  mask : String := ""
  gateway : String := ""
  deriving Repr, DecidableEq

/-- A status condition of a load balancer. -/
structure Condition where
  conditionType : String
  status : String
  message : String
  deriving Repr, DecidableEq

/-- A listener of a load balancer. -/
structure Listener where
  name : String
  port : Int32
  protocol : String
  backendPort : Int32
  deriving Repr, DecidableEq

/-- The health check of a load balancer. -/
structure HealthCheck where
  port : Nat
  successThreshold : Nat
  failureThreshold : Nat
  periodSeconds : Nat
  timeoutSeconds : Nat
  deriving Repr, DecidableEq

/-- The requested part of a Harvester load balancer. -/
structure LoadBalancerSpec where
  description : String := ""
  workloadType : String := ""
  ipam : String := ""
  ipPool : String := ""
  listeners : List Listener := []
  backendServerSelector : NilableMap String (List String) := none
  healthCheck : Option HealthCheck := none

/-- The observed part of a Harvester load balancer. -/
structure LoadBalancerObserved where
  backendServers : List String := []
  allocatedAddress : AllocatedAddress := {}
  address : String := ""
  conditions : List Condition := []

/-- The name of a load balancer resource. -/
abbrev LBName := Bytes

/-- A load balancer resource in the Harvester cluster. -/
structure LoadBalancer where
  apiVersion : String := ""
  ns : String
  name : LBName
  annotations : StringMap := none
  labels : StringMap := none
  resourceVersion : Nat := 0
  spec : LoadBalancerSpec := {}
  status : LoadBalancerObserved := {}

namespace LoadBalancer

/-- `LoadBalancerReady.GetMessage`: the message of the ready condition. -/
def readyMessage (lb : LoadBalancer) : String :=
  match lb.status.conditions.find? (·.conditionType = "Ready") with
  | some condition => condition.message
  | none => ""

end LoadBalancer

/-- A ConfigMap of the guest cluster. -/
structure ConfigMap where
  ns : String
  name : String
  data : StringMap := none
  resourceVersion : Nat := 0

end HarvesterCloudProvider
