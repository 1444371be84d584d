import HarvesterCloudProvider.SharingLabel

namespace HarvesterCloudProvider

open Program

/-!
# The depth of sharing

Annotations can refer to services in any way: to no service, to the annotated
service itself, along chains and in cycles.  `getPrimaryService` cuts every such
reference graph down to depth one, because it refuses a primary that refers on.

Whether a service refers on is tested twice, and differently.  A service is a
secondary of its own when the annotation is present; it is refused as somebody's
primary when the annotation has a value.  A service with an empty annotation
passes the second test only: others share its load balancer, and itself it has
none that could be reconciled or deleted.
-/

section OwnPath

/-- Reconcile and deletion of a service treat it as a primary, whatever is stored. -/
structure Service.TakesPrimaryPath (service : Service) : Prop where
  own :
    ∀ session : Session,
      getPrimaryService service session = (.ok none, session)
  ensured :
    ∀ (l : LoadBalancerManager) (clusterName : String) (session : Session),
      l.ensureLoadBalancer clusterName service session =
        (do
          let _ ← resolveNetworkInterface service
          l.ensurePrimaryLoadBalancer clusterName service) session
  deleted :
    ∀ (clusterName : String) (session : Session),
      LoadBalancerManager.ensureLoadBalancerDeleted clusterName service session =
        deleteLoadBalancer clusterName service session

/-- A service takes the primary path exactly when it has no annotation at all. -/
theorem Service.takesPrimaryPath_iff {service : Service} :
    service.TakesPrimaryPath ↔
      service.annotations.lookup keyPrimaryService = none := by
  constructor
  · intro path
    exact getPrimaryService_none (path.own { cluster := {}, ticks := [] })
  · intro unset
    have own := getPrimaryService_run_of_unset unset
    exact {
      own := own
      ensured := by
        intro l clusterName session
        rw [LoadBalancerManager.ensureLoadBalancer, bind_run, bind_run]
        cases resolved : resolveNetworkInterface service session with
        | mk answer reached =>
            cases answer with
            | error error =>
                rfl
            | ok network =>
                exact bind_run_of_ok (own reached)
      deleted := by
        intro clusterName session
        exact bind_run_of_ok (own session) }

/-- The lookup of a service with an empty annotation fails. -/
theorem getPrimaryService_run_of_blank
    {service : Service}
    (blank : service.annotations.lookup keyPrimaryService = some "")
    (session : Session) :
    getPrimaryService service session =
      (.error (.errorf "invalid service name "), session) := by
  have unsplit : splitAtSlash "" = none := by
    decide +kernel
  simp only [getPrimaryService, blank, unsplit]
  rfl

/-- A service with an empty annotation is never reconciled. -/
theorem ensureLoadBalancer_of_blank
    {service : Service}
    (blank : service.annotations.lookup keyPrimaryService = some "")
    (l : LoadBalancerManager)
    (clusterName : String)
    (session final : Session)
    (status : LoadBalancerStatus) :
    l.ensureLoadBalancer clusterName service session ≠ (.ok status, final) := by
  intro ran
  obtain ⟨_, reached, _, continued⟩ := bind_ok.mp ran
  obtain ⟨_, _, looked, _⟩ := bind_ok.mp continued
  rw [getPrimaryService_run_of_blank blank] at looked
  cases looked

/-- A service with an empty annotation is never cleaned up. -/
theorem ensureLoadBalancerDeleted_of_blank
    {service : Service}
    (blank : service.annotations.lookup keyPrimaryService = some "")
    (clusterName : String)
    (session final : Session) :
    LoadBalancerManager.ensureLoadBalancerDeleted clusterName service session ≠
      (.ok (), final) := by
  intro ran
  obtain ⟨_, _, looked, _⟩ := bind_ok.mp ran
  rw [getPrimaryService_run_of_blank blank] at looked
  cases looked

end OwnPath

section Depth

/-- A service and the primary found for it are two services, and the sharing ends there. -/
structure Cluster.EndsSharing
    (cluster : Cluster)
    (service primary : Service) :
    Prop where
  different : primary ≠ service
  otherKey : service ∈ cluster.services → primary.key ≠ service.key
  ends : primary.TakesPrimaryPath

/-- Whatever primary a lookup returns, also among failures, ends the sharing. -/
def Cluster.SharesAtDepthOne (cluster : Cluster) (service : Service) : Prop :=
  ∀ (session final : Session) (primary : Service),
    session.cluster = cluster →
    getPrimaryService service session = (.ok (some primary), final) →
    cluster.EndsSharing service primary

variable {cluster : Cluster}
variable {service primary : Service}

/-- What is returned as a primary is stored, up to what other controllers write. -/
theorem View.Primary.stored_service
    (resolved : cluster.view.Primary service primary) :
    ∃ stored ∈ cluster.services,
      stored.key = primary.key ∧ stored.annotations = primary.annotations := by
  obtain ⟨stored, found, sameContent⟩ := Option.map_eq_some_iff.mp resolved.stored
  obtain ⟨member, sameKey⟩ := ServiceStore.get?_eq_some.mp found
  have sameAnnotations : stored.content.annotations = primary.content.annotations := by
    rw [sameContent]
  exact ⟨stored, member, sameKey, sameAnnotations⟩

/-- A reference does not end at the service it starts from. -/
theorem View.Primary.ne
    (resolved : cluster.view.Primary service primary) :
    primary ≠ service := by
  rintro rfl
  exact resolved.annotation_ne_empty resolved.unannotated

/-- A stored service does not refer to its own key. -/
theorem View.Primary.key_ne
    (resolved : cluster.view.Primary service primary)
    (member : service ∈ cluster.services) :
    primary.key ≠ service.key := by
  intro sameKey
  obtain ⟨stored, storedMember, storedKey, sameAnnotations⟩ := resolved.stored_service
  obtain rfl :=
    ServiceStore.eq_of_key storedMember member (storedKey.trans sameKey)
  apply resolved.annotation_ne_empty
  rw [sameAnnotations]
  exact resolved.unannotated

/-- The annotation of a primary is missing or empty. -/
theorem View.Primary.unset_or_blank
    (resolved : cluster.view.Primary service primary) :
    primary.annotations.lookup keyPrimaryService = none ∨
      primary.annotations.lookup keyPrimaryService = some "" := by
  cases annotated : primary.annotations.lookup keyPrimaryService with
  | none =>
      exact .inl rfl
  | some text =>
      have empty := resolved.unannotated
      rw [NilableMap.read_of_lookup annotated] at empty
      rw [empty]
      exact .inr rfl

/-- A primary whose annotation is not empty ends the sharing. -/
theorem View.Primary.endsSharing
    (resolved : cluster.view.Primary service primary)
    (notBlank : primary.annotations.lookup keyPrimaryService ≠ some "") :
    cluster.EndsSharing service primary where
  different := resolved.ne
  otherKey := resolved.key_ne
  ends :=
    Service.takesPrimaryPath_iff.mpr (resolved.unset_or_blank.resolve_right notBlank)

/-- A stored service with an empty annotation is shared without being a primary. -/
theorem not_sharesAtDepthOne_of_blank
    (member : primary ∈ cluster.services)
    (declared : service.Declares primary.key)
    (blank : primary.annotations.lookup keyPrimaryService = some "") :
    ¬ cluster.SharesAtDepthOne service := by
  intro depthOne
  have unannotated : primary.annotations.read keyPrimaryService = "" :=
    NilableMap.read_of_lookup blank
  -- Without failures the lookup accepts the primary, whose own annotation is present.
  have answered := (Cluster.primaryOf_eq_iff member unannotated).mpr declared
  have ended :=
    depthOne { cluster := cluster, ticks := [] } _ primary rfl (Prod.ext answered rfl)
  have unset := Service.takesPrimaryPath_iff.mp ended.ends
  rw [blank] at unset
  cases unset

/-- Sharing has depth one exactly where no declared primary has an empty annotation. -/
theorem sharing_depthOne_iff
    (cluster : Cluster)
    (service : Service) :
    cluster.SharesAtDepthOne service ↔
      ∀ primary ∈ cluster.services,
        service.Declares primary.key →
        primary.annotations.lookup keyPrimaryService ≠ some "" := by
  constructor
  · intro depthOne primary member declared blank
    exact not_sharesAtDepthOne_of_blank member declared blank depthOne
  · rintro notBlank session final primary rfl looked
    have resolved := getPrimaryService_some looked
    obtain ⟨stored, member, sameKey, sameAnnotations⟩ := resolved.stored_service
    have declared : service.Declares stored.key := by
      rw [sameKey]
      exact resolved.annotated
    apply resolved.endsSharing
    rw [← sameAnnotations]
    exact notBlank stored member declared

/-- A service that shares the load balancer of `default/web`. -/
def sharingApi : Service where
  ns := "default"
  name := "api"
  uid := "2"
  annotations := some (Std.ExtTreeMap.ofList [(keyPrimaryService, "default/web")])

/-- A cluster where the annotation of `default/web` is left empty. -/
def blankSharing : Cluster where
  services :=
    (ServiceStore.empty.insert
      { ns := "default"
        name := "web"
        uid := "1"
        annotations := some (Std.ExtTreeMap.ofList [(keyPrimaryService, "")]) }).insert
      sharingApi

/-- A service with an empty annotation is shared, but neither reconciled nor deleted. -/
theorem sharing_not_always_depthOne :
    ¬ blankSharing.SharesAtDepthOne sharingApi ∧
      ∃ web ∈ blankSharing.services,
        blankSharing.primaryOf sharingApi = .ok (some web) ∧
          (∀ (l : LoadBalancerManager) (clusterName : String) (session final : Session)
              (status : LoadBalancerStatus),
            l.ensureLoadBalancer clusterName web session ≠ (.ok status, final)) ∧
          (∀ (clusterName : String) (session final : Session),
            LoadBalancerManager.ensureLoadBalancerDeleted clusterName web session ≠
              (.ok (), final)) := by
  have evaluated :
      (blankSharing.services.get? "default/web").map
          (fun web => web.annotations.lookup keyPrimaryService) =
        some (some "") := by
    decide +kernel
  obtain ⟨web, found, blank⟩ := Option.map_eq_some_iff.mp evaluated
  obtain ⟨member, sameKey⟩ := ServiceStore.get?_eq_some.mp found
  have declared : sharingApi.Declares web.key := by
    rw [sameKey]
    exact ⟨"default/web", "default", "web", by decide +kernel, by decide +kernel,
      by decide +kernel⟩
  refine ⟨not_sharesAtDepthOne_of_blank member declared blank, web, member, ?_,
    ensureLoadBalancer_of_blank blank, ensureLoadBalancerDeleted_of_blank blank⟩
  exact (Cluster.primaryOf_eq_iff member (NilableMap.read_of_lookup blank)).mpr declared

end Depth

end HarvesterCloudProvider
