import HarvesterCloudProvider.LoadBalancerRun

namespace HarvesterCloudProvider

/-!
# Ports of services behind one load balancer

The ports of a secondary are compared with its primary and with the services
that carry the label of this primary.  The ports of a primary are compared with
nothing, so the services behind its load balancer stay apart only as long as no
primary is reconciled on a port that one of its secondaries already has.
-/

section Settled

/-- The cache key of an identity. -/
def ServiceId.key (id : ServiceId) : String :=
  metaNamespaceKey id.ns id.name

/-- How the last reconcile of a service ended, if no user changed it since. -/
def latestReconcile (id : ServiceId) : List Entry → Option Bool
  | [] => none
  | entry :: earlier =>
      match entry.step with
      | .create service =>
          -- A creation under a taken key is refused and changes nothing.
          if service.id = id ∧ (entry.before.services.get? service.key).isNone then
            none
          else
            latestReconcile id earlier
      | .edit key _ => if key = id.key then none else latestReconcile id earlier
      | .remove key => if key = id.key then none else latestReconcile id earlier
      | .environment _ => latestReconcile id earlier
      | .invoke .ensureLoadBalancerDeleted _ _ => latestReconcile id earlier
      | .invoke _ service _ =>
          if service.id = id then some entry.succeeded else latestReconcile id earlier

/-- The last reconcile of a service succeeded and no user changed it since. -/
def System.settled (system : System) (id : ServiceId) : Bool :=
  latestReconcile id system.log = some true

theorem System.settled_iff {system : System} {id : ServiceId} :
    system.settled id = true ↔ latestReconcile id system.log = some true :=
  decide_eq_true_iff

/--
A reconcile of a service without the annotation finds its ports unused by the
settled services that share its load balancer.
-/
def PrimaryPortsFree (system : System) (step : Step) : Prop :=
  match step with
  | .invoke .ensureLoadBalancerDeleted _ _ => True
  | .invoke _ service _ =>
      service.annotations.lookup keyPrimaryService = none →
      ∀ other ∈ system.cluster.services.labelled (primaryServiceLabelValue service),
        system.settled other.id = true →
        other.uid ≠ service.uid →
        ∀ port ∈ other.ports, port ∉ service.ports
  | _ => True

instance (system : System) (step : Step) : Decidable (PrimaryPortsFree system step) := by
  unfold PrimaryPortsFree
  split <;> infer_instance

end Settled

section Labels

/-- The label value as bytes: a dot between namespace and name. -/
theorem bytesOf_primaryServiceLabelValue (service : Service) :
    bytesOf (primaryServiceLabelValue service) =
      bytesOf service.ns ++ 46 :: bytesOf service.name := by
  have dot : bytesOf "." = [46] := by
    decide +kernel
  rw [primaryServiceLabelValue, bytesOf_append, bytesOf_append, dot, List.append_assoc,
    List.singleton_append]

/-- The label value of an admissible service tells its namespace and name. -/
theorem primaryServiceLabelValue_injective
    {first second : Service}
    (admitted : first.Admissible)
    (same : primaryServiceLabelValue first = primaryServiceLabelValue second) :
    first.ns = second.ns ∧ first.name = second.name := by
  have bytes := congrArg bytesOf same
  rw [bytesOf_primaryServiceLabelValue, bytesOf_primaryServiceLabelValue] at bytes
  -- DNS labels have no dot, so the join has one dot only.
  have outside : isLabelByte 46 = false := by
    decide
  obtain ⟨sameNs, _, sameName⟩ :=
    (List.append_cons_inj_of_notMem
      (isDNS1123Label_notMem admitted.1 outside)
      (isDNS1123Label_notMem admitted.2 outside)).mp bytes
  exact ⟨bytesOf_injective sameNs, bytesOf_injective sameName⟩

theorem key_eq_of_primaryServiceLabelValue
    {first second : Service}
    (admitted : first.Admissible)
    (same : primaryServiceLabelValue first = primaryServiceLabelValue second) :
    first.key = second.key := by
  obtain ⟨sameNs, sameName⟩ := primaryServiceLabelValue_injective admitted same
  rw [Service.key, Service.key, sameNs, sameName]

theorem primaryServiceLabelValue_ne_empty (service : Service) :
    primaryServiceLabelValue service ≠ "" := by
  intro empty
  have lengths := congrArg String.length empty
  simp [primaryServiceLabelValue] at lengths

end Labels

section Invariant

/-- The services that count as settled have roles and ports that fit together. -/
structure View.PortsSettled
    (view : View)
    (settled : ServiceId → Bool) :
    Prop where
  unlabelled :
    ∀ {key service},
      view.services key = some service →
      settled service.id = true →
      service.annotations.read keyPrimaryService = "" →
      service.labels.read keyPrimaryService = ""
  siblings :
    ∀ {firstKey secondKey first second value},
      view.services firstKey = some first →
      view.services secondKey = some second →
      settled first.id = true →
      settled second.id = true →
      first.labels.lookup keyPrimaryService = some value →
      second.labels.lookup keyPrimaryService = some value →
      value ≠ "" →
      firstKey ≠ secondKey →
      List.Disjoint first.ports second.ports
  withPrimary :
    ∀ {primaryKey key primary service},
      view.services primaryKey = some primary →
      view.services key = some service →
      settled primary.id = true →
      settled service.id = true →
      primary.annotations.read keyPrimaryService = "" →
      service.labels.lookup keyPrimaryService =
        some (primaryServiceLabelValue primary) →
      List.Disjoint service.ports primary.ports

/-- Fewer stored or settled services are settled as before. -/
theorem View.PortsSettled.mono
    {before after : View}
    {settledBefore settledAfter : ServiceId → Bool}
    (ports : before.PortsSettled settledBefore)
    (frame :
      ∀ key service,
        after.services key = some service →
        settledAfter service.id = true →
        before.services key = some service ∧ settledBefore service.id = true) :
    after.PortsSettled settledAfter where
  unlabelled stored settled unannotated := by
    obtain ⟨stored, settled⟩ := frame _ _ stored settled
    exact ports.unlabelled stored settled unannotated
  siblings firstStored secondStored firstSettled secondSettled := by
    obtain ⟨firstStored, firstSettled⟩ := frame _ _ firstStored firstSettled
    obtain ⟨secondStored, secondSettled⟩ := frame _ _ secondStored secondSettled
    exact ports.siblings firstStored secondStored firstSettled secondSettled
  withPrimary primaryStored stored primarySettled settled := by
    obtain ⟨primaryStored, primarySettled⟩ := frame _ _ primaryStored primarySettled
    obtain ⟨stored, settled⟩ := frame _ _ stored settled
    exact ports.withPrimary primaryStored stored primarySettled settled

/-- What the view stores about a service after a successful reconcile. -/
inductive View.Role
    (view : View)
    (service updated : Service) :
    Prop where
  | primary
      (unset : service.annotations.lookup keyPrimaryService = none)
      (label : updated.labels.read keyPrimaryService = "") :
      View.Role view service updated
  | secondary
      {primary : Service}
      (resolved : view.Primary service primary)
      (portsFree : view.PortsFree primary service)
      (label :
        updated.labels.lookup keyPrimaryService =
          some (primaryServiceLabelValue primary)) :
      View.Role view service updated

/-- A successful reconcile stores the service in its role. -/
structure View.Reconciled
    (before after : View)
    (service updated : Service) :
    Prop where
  services : after.services = Function.update before.services service.key (some updated)
  sameId : updated.id = service.id
  samePorts : updated.ports = service.ports
  sameType : updated.serviceType = service.serviceType
  sameAnnotation :
    updated.annotations.lookup keyPrimaryService =
      service.annotations.lookup keyPrimaryService
  role : before.Role service updated

end Invariant

section Calls

variable {l : LoadBalancerManager}
variable {clusterName : String}
variable {service : Service}
variable {view : View}
variable {events : List Event}

/-- A refetched service is the stored one. -/
theorem View.Refetched.content_eq
    {current : Service}
    (refetched : view.Refetched service current)
    (inHand : view.services service.key = some service.content) :
    current.content = service.content :=
  Option.some.inj (refetched.stored.symm.trans inHand)

/-- The outcome of a call that reconciles. -/
theorem Operation.Outcome.ensured
    {operation : Operation}
    {succeeded : Bool}
    (outcome : operation.Outcome l clusterName service view events succeeded)
    (isReconcile : operation ≠ .ensureLoadBalancerDeleted) :
    EnsureOutcome l clusterName service view events succeeded := by
  cases operation with
  | ensureLoadBalancerDeleted =>
      exact (isReconcile rfl).elim
  | _ =>
      exact outcome

/-- A failed reconcile writes no service. -/
theorem EnsureOutcome.services_of_failed
    (outcome : EnsureOutcome l clusterName service view events false) :
    ((writes events).foldl (fun reached request => request.apply reached)
      view).services = view.services := by
  have afterPut
      {request : Request}
      (written : view.Written l clusterName service request) :
      (request.apply view).services = view.services := by
    obtain ⟨lb, applied⟩ := written.apply_eq
    rw [applied]
  cases outcome with
  | refused reads =>
      rw [writes_eq_nil_of_reads reads]
      rfl
  | primary unset inner =>
      cases inner with
      | refused reads =>
          rw [writes_eq_nil_of_reads reads]
          rfl
      | unwritten _ written =>
          rw [written]
          rfl
      | kept _ put _ written =>
          rw [written]
          exact afterPut put
      | withdrawn _ put _ written =>
          rw [written]
          exact afterPut put
  | secondary resolved inner =>
      cases inner with
      | refused reads =>
          rw [writes_eq_nil_of_reads reads]
          rfl
      | blocked _ written =>
          rw [written]
          rfl
      | detached _ removed written =>
          rw [written, removed.apply_eq]

/-- The deletion of a load balancer writes no service. -/
theorem EnsureDeletedOutcome.services_eq
    {succeeded : Bool}
    (outcome : EnsureDeletedOutcome clusterName service view events succeeded) :
    ((writes events).foldl (fun reached request => request.apply reached)
      view).services = view.services := by
  cases outcome with
  | unresolved _ reads =>
      rw [writes_eq_nil_of_reads reads]
      rfl
  | secondary _ reads =>
      rw [writes_eq_nil_of_reads reads]
      rfl
  | primary _ inner =>
      cases inner with
      | absent _ _ written =>
          rw [written]
          rfl
      | refused _ written =>
          rw [written]
          rfl
      | deleted _ _ written =>
          rw [written]
          rfl

/-- A successful reconcile of a stored service stores it in its role. -/
theorem EnsureOutcome.reconciled
    (outcome : EnsureOutcome l clusterName service view events true)
    (inHand : view.services service.key = some service.content) :
    ∃ updated,
      view.Reconciled
        ((writes events).foldl (fun reached request => request.apply reached) view)
        service updated := by
  have unchanged :
      view.services =
        Function.update view.services service.key (some service.content) :=
    (Function.update_eq_self_iff.mpr inHand.symm).symm
  cases outcome with
  | primary unset inner =>
      cases inner with
      | confirmed _ put unlabelled written =>
          obtain ⟨lb, applied⟩ := put.apply_eq
          refine ⟨service.content, ?_, rfl, rfl, rfl, rfl, .primary unset unlabelled⟩
          rw [written, List.foldl_cons, List.foldl_nil, applied]
          exact unchanged
      | @published request current iface ip _ put refetched written =>
          have same := refetched.content_eq inHand
          have sameId := congrArg Service.id same
          have samePorts := congrArg Service.ports same
          have sameType := congrArg Service.serviceType same
          obtain ⟨lb, applied⟩ := put.apply_eq
          refine ⟨(updatePrimaryServiceObject iface current ip "").content,
            ?_, ?_, ?_, ?_, ?_, .primary unset ?_⟩
          · rw [written, List.foldl_cons, applied]
            exact congrArg
              (fun key => Function.update view.services key _) refetched.sameKey
          · exact sameId
          · exact samePorts
          · exact sameType
          · exact (updatePrimaryServiceObject_annotated iface ip "" current).trans
              (congrArg (fun found => found.annotations.lookup keyPrimaryService) same)
          · exact updatePrimaryServiceObject_label iface ip "" current
  | @secondary _ primary resolved inner =>
      cases inner with
      | @confirmed removal ip accepted removed upToDate written =>
          refine ⟨service.content, ?_, rfl, rfl, rfl, rfl,
            .secondary resolved accepted.portsFree ?_⟩
          · rw [written, removed.apply_eq]
            exact unchanged
          · unfold isSecondaryServiceUpdatedWithPrimary at upToDate
            split at upToDate
            · cases upToDate
            · simp only [Bool.and_eq_true, decide_eq_true_eq] at upToDate
              exact NilableMap.lookup_of_read upToDate.2
                (primaryServiceLabelValue_ne_empty _)
      | @published removal current ip accepted removed refetched written =>
          have same := refetched.content_eq inHand
          have sameId := congrArg Service.id same
          have samePorts := congrArg Service.ports same
          have sameType := congrArg Service.serviceType same
          refine ⟨(updateSecondaryServiceObject primary current ip
              (primaryServiceLabelValue primary)).content,
            ?_, ?_, ?_, ?_, ?_, .secondary resolved accepted.portsFree ?_⟩
          · rw [written, List.foldl_append, removed.apply_eq]
            exact congrArg
              (fun key => Function.update view.services key _) refetched.sameKey
          · exact sameId
          · exact samePorts
          · exact sameType
          · exact (updateSecondaryServiceObject_annotated ip
              (primaryServiceLabelValue primary) primary current).trans
              (congrArg (fun found => found.annotations.lookup keyPrimaryService) same)
          · exact updateSecondaryServiceObject_label ip _ primary current

end Calls

section Steps

/-- A stored service sits under its key and is admissible. -/
theorem Cluster.view_services_stored
    {cluster : Cluster}
    {key : String}
    {service : Service}
    (found : cluster.view.services key = some service) :
    service.key = key ∧ service.Admissible := by
  obtain ⟨stored, present, rfl⟩ := Option.map_eq_some_iff.mp found
  have sameKey := cluster.services.keyed present
  have admitted := cluster.services.admitted present
  exact ⟨sameKey, admitted⟩

/-- Stored services under different keys have different UIDs. -/
theorem Cluster.view_services_uid_ne
    {cluster : Cluster}
    {firstKey secondKey : String}
    {first second : Service}
    (firstFound : cluster.view.services firstKey = some first)
    (secondFound : cluster.view.services secondKey = some second)
    (different : firstKey ≠ secondKey) :
    first.uid ≠ second.uid := by
  obtain ⟨_, firstPresent, rfl⟩ := Option.map_eq_some_iff.mp firstFound
  obtain ⟨_, secondPresent, rfl⟩ := Option.map_eq_some_iff.mp secondFound
  exact fun sameUid =>
    different (cluster.services.uidsDistinct firstPresent secondPresent sameUid)

/-- An annotation that names a primary is not empty. -/
theorem View.Primary.annotation_ne_empty
    {view : View}
    {service primary : Service}
    (resolved : view.Primary service primary) :
    service.annotations.read keyPrimaryService ≠ "" := by
  obtain ⟨text, ns, name, annotated, parts, _⟩ := resolved.annotated
  rw [NilableMap.read_of_lookup annotated]
  rintro rfl
  have unsplit : splitAtSlash "" = none := by
    decide +kernel
  rw [unsplit] at parts
  cases parts

/-- A settled service after a reconcile is the reconciled one or an older one. -/
theorem View.Reconciled.settled_cases
    {cluster : Cluster}
    {after : View}
    {service updated found : Service}
    {settled : ServiceId → Bool}
    {key : String}
    (reconciled : cluster.view.Reconciled after service updated)
    (stored : after.services key = some found)
    (isSettled : (decide (found.id = service.id) || settled found.id) = true) :
    (key = service.key ∧ found = updated) ∨
      (key ≠ service.key ∧
        cluster.view.services key = some found ∧
        settled found.id = true) := by
  rw [reconciled.services] at stored
  by_cases sameKey : key = service.key
  · subst sameKey
    rw [Function.update_self, Option.some.injEq] at stored
    exact .inl ⟨rfl, stored.symm⟩
  · rw [Function.update_of_ne sameKey] at stored
    refine .inr ⟨sameKey, stored, ?_⟩
    have foundKey := (Cluster.view_services_stored stored).1
    rcases Bool.or_eq_true_iff.mp isSettled with own | older
    · have sameId := of_decide_eq_true own
      exact (sameKey (foundKey.symm.trans (congrArg ServiceId.key sameId))).elim
    · exact older

section Reconciling

variable {cluster : Cluster}
variable {after : View}
variable {service updated : Service}
variable {settled : ServiceId → Bool}

theorem View.Reconciled.read_eq
    (reconciled : cluster.view.Reconciled after service updated) :
    updated.annotations.read keyPrimaryService =
      service.annotations.read keyPrimaryService := by
  rw [NilableMap.read, NilableMap.read, reconciled.sameAnnotation]

theorem View.Reconciled.labelValue_eq
    (reconciled : cluster.view.Reconciled after service updated) :
    primaryServiceLabelValue updated = primaryServiceLabelValue service := by
  have sameNs := congrArg ServiceId.ns reconciled.sameId
  have sameName := congrArg ServiceId.name reconciled.sameId
  exact congrArg₂ (fun ns name => ns ++ "." ++ name) sameNs sameName

/-- The reconciled service carries a label only as a secondary. -/
theorem View.Reconciled.secondary_of_labelled
    (reconciled : cluster.view.Reconciled after service updated)
    {value : String}
    (label : updated.labels.lookup keyPrimaryService = some value)
    (nonempty : value ≠ "") :
    ∃ primary,
      cluster.view.Primary service primary ∧
        cluster.view.PortsFree primary service ∧
        value = primaryServiceLabelValue primary := by
  cases reconciled.role with
  | primary _ unlabelled =>
      rw [NilableMap.read_of_lookup label] at unlabelled
      exact (nonempty unlabelled).elim
  | secondary resolved free ofPrimary =>
      rw [label, Option.some.injEq] at ofPrimary
      exact ⟨_, resolved, free, ofPrimary⟩

/-- The reconciled service carries no label unless its annotation is set. -/
theorem View.Reconciled.primary_of_unannotated
    (reconciled : cluster.view.Reconciled after service updated)
    (unannotated : updated.annotations.read keyPrimaryService = "") :
    service.annotations.lookup keyPrimaryService = none ∧
      updated.labels.read keyPrimaryService = "" := by
  cases reconciled.role with
  | primary unset unlabelled =>
      exact ⟨unset, unlabelled⟩
  | secondary resolved _ _ =>
      rw [reconciled.read_eq] at unannotated
      exact (resolved.annotation_ne_empty unannotated).elim

/-- The reconciled service is kept apart from the services with its label. -/
theorem View.Reconciled.apart_from_sibling
    (reconciled : cluster.view.Reconciled after service updated)
    (inHand : cluster.view.services service.key = some service.content)
    {key : String}
    {other : Service}
    {value : String}
    (stored : cluster.view.services key = some other)
    (different : key ≠ service.key)
    (ownLabel : updated.labels.lookup keyPrimaryService = some value)
    (label : other.labels.lookup keyPrimaryService = some value)
    (nonempty : value ≠ "") :
    List.Disjoint other.ports updated.ports := by
  obtain ⟨primary, _, free, rfl⟩ := reconciled.secondary_of_labelled ownLabel nonempty
  rw [reconciled.samePorts]
  have otherUid := Cluster.view_services_uid_ne stored inHand different
  exact free.labelled key other stored label otherUid

/-- The reconciled service is kept apart from the primary it is labelled with. -/
theorem View.Reconciled.apart_from_primary
    (reconciled : cluster.view.Reconciled after service updated)
    (inHand : cluster.view.services service.key = some service.content)
    {primaryKey : String}
    {primary : Service}
    (stored : cluster.view.services primaryKey = some primary)
    (different : primaryKey ≠ service.key)
    (label :
      updated.labels.lookup keyPrimaryService =
        some (primaryServiceLabelValue primary)) :
    List.Disjoint updated.ports primary.ports := by
  obtain ⟨resolvedPrimary, resolved, free, sameValue⟩ :=
    reconciled.secondary_of_labelled label (primaryServiceLabelValue_ne_empty _)
  obtain ⟨sameKey, admitted⟩ := Cluster.view_services_stored stored
  have resolvedKey : resolvedPrimary.key = primaryKey :=
    (key_eq_of_primaryServiceLabelValue admitted sameValue).symm.trans sameKey
  have resolvedStored := resolved.stored
  rw [resolvedKey, stored, Option.some.injEq] at resolvedStored
  subst resolvedStored
  rw [reconciled.samePorts]
  have otherUid := Cluster.view_services_uid_ne stored inHand different
  exact (free.ofPrimary otherUid).symm

/-- A successful reconcile keeps the ports of the settled services apart. -/
theorem View.Reconciled.portsSettled
    (reconciled : cluster.view.Reconciled after service updated)
    (inHand : cluster.view.services service.key = some service.content)
    (portsFree :
      service.annotations.lookup keyPrimaryService = none →
      ∀ key other,
        cluster.view.services key = some other →
        other.labels.lookup keyPrimaryService =
          some (primaryServiceLabelValue service) →
        settled other.id = true →
        key ≠ service.key →
        List.Disjoint other.ports service.ports)
    (ports : cluster.view.PortsSettled settled) :
    after.PortsSettled fun id => decide (id = service.id) || settled id := by
  constructor
  case unlabelled =>
    intro key found stored isSettled unannotated
    rcases reconciled.settled_cases stored isSettled with
      ⟨_, rfl⟩ | ⟨_, stored, older⟩
    · exact (reconciled.primary_of_unannotated unannotated).2
    · exact ports.unlabelled stored older unannotated
  case siblings =>
    intro firstKey secondKey first second value firstStored secondStored
      firstSettled secondSettled firstLabel secondLabel nonempty different
    rcases reconciled.settled_cases firstStored firstSettled with
      ⟨rfl, rfl⟩ | ⟨firstOther, firstStored, firstOlder⟩
    · rcases reconciled.settled_cases secondStored secondSettled with
        ⟨rfl, _⟩ | ⟨secondOther, secondStored, _⟩
      · exact (different rfl).elim
      · exact (reconciled.apart_from_sibling inHand secondStored secondOther firstLabel
          secondLabel nonempty).symm
    · rcases reconciled.settled_cases secondStored secondSettled with
        ⟨_, rfl⟩ | ⟨_, secondStored, secondOlder⟩
      · exact reconciled.apart_from_sibling inHand firstStored firstOther secondLabel
          firstLabel nonempty
      · exact ports.siblings firstStored secondStored firstOlder secondOlder
          firstLabel secondLabel nonempty different
  case withPrimary =>
    intro primaryKey key primary found primaryStored stored primarySettled
      isSettled unannotated label
    rcases reconciled.settled_cases primaryStored primarySettled with
      ⟨_, rfl⟩ | ⟨primaryOther, primaryStored, primaryOlder⟩
    · -- The reconciled service is the primary.
      obtain ⟨unset, unlabelled⟩ := reconciled.primary_of_unannotated unannotated
      rcases reconciled.settled_cases stored isSettled with
        ⟨_, rfl⟩ | ⟨different, stored, older⟩
      · rw [NilableMap.read_of_lookup label] at unlabelled
        exact (primaryServiceLabelValue_ne_empty _ unlabelled).elim
      · rw [reconciled.samePorts]
        rw [reconciled.labelValue_eq] at label
        exact portsFree unset key found stored label older different
    · rcases reconciled.settled_cases stored isSettled with
        ⟨_, rfl⟩ | ⟨_, stored, older⟩
      · -- The reconciled service is a secondary of an older primary.
        exact reconciled.apart_from_primary inHand primaryStored primaryOther label
      · exact ports.withPrimary primaryStored stored primaryOlder older unannotated label

end Reconciling

/-- A service in the view after a creation was there before or is the new one. -/
theorem Cluster.view_create_services
    {cluster : Cluster}
    {service found : Service}
    {key : String}
    (stored : (cluster.create service).view.services key = some found) :
    cluster.view.services key = some found ∨
      (found.id = service.id ∧ cluster.services.get? service.key = none) := by
  obtain ⟨present, isPresent, rfl⟩ := Option.map_eq_some_iff.mp stored
  obtain ⟨entered, sameId, inserted⟩ :
      ∃ entered : Service,
        entered.id = service.id ∧
          (cluster.services.insert entered).get? key = some present :=
    ⟨{ service with
        resourceVersion := cluster.version + 1
        loadBalancer := {} }, rfl, isPresent⟩
  have sameKey : entered.key = service.key := congrArg ServiceId.key sameId
  rw [← sameKey]
  by_cases own : key = entered.key
  · subst own
    cases old : cluster.services.get? entered.key with
    | none =>
        obtain rfl := ServiceStore.eq_of_get?_insert old inserted
        exact .inr ⟨sameId, rfl⟩
    | some taken =>
        rw [ServiceStore.insert_of_stored old] at inserted
        exact .inl (congrArg (Option.map Service.content) inserted)
  · rw [ServiceStore.get?_insert_of_ne _ own] at inserted
    exact .inl (congrArg (Option.map Service.content) inserted)

/-- An edit shows up under its own key only. -/
theorem Cluster.view_edit_services
    {cluster : Cluster}
    {edited key : String}
    {change : UserEdit}
    (different : key ≠ edited) :
    (cluster.edit edited change).view.services key = cluster.view.services key := by
  unfold Cluster.edit
  cases old : cluster.services.get? edited with
  | none =>
      rfl
  | some service =>
      obtain ⟨_, sameKey⟩ := ServiceStore.get?_eq_some.mp old
      subst sameKey
      have replaced :=
        @ServiceStore.get?_replace cluster.services
          { service with
            annotations := change.annotations
            labels := change.labels
            serviceType := change.serviceType
            ports := change.ports
            resourceVersion := cluster.version + 1 }
          service old rfl key
      exact congrArg (Option.map Service.content) (replaced.trans (if_neg different))

/-- A removal shows up under its own key only. -/
theorem Cluster.view_remove_services
    {cluster : Cluster}
    {removed key : String}
    (different : key ≠ removed) :
    (cluster.remove removed).view.services key = cluster.view.services key := by
  have erased := ServiceStore.get?_erase cluster.services removed key
  rw [if_neg (Ne.symm different)] at erased
  exact congrArg (Option.map Service.content) erased

variable {l : LoadBalancerManager}
variable {clusterName : String}

/-- A step other than a provider call settles no service. -/
theorem settled_of_not_invoke
    {system : System}
    {step : Step}
    (notInvoke : ∀ operation service ticks, step ≠ .invoke operation service ticks)
    {key : String}
    {service : Service}
    (stored :
      (system.advance l clusterName step).cluster.view.services key = some service)
    (isSettled : (system.advance l clusterName step).settled service.id = true) :
    system.cluster.view.services key = some service ∧
      system.settled service.id = true := by
  obtain ⟨sameKey, _⟩ := Cluster.view_services_stored stored
  rw [System.settled_iff] at isSettled ⊢
  simp only [System.advance] at stored isSettled
  cases step with
  | create created =>
      simp only [Step.perform, latestReconcile] at stored isSettled
      rcases Cluster.view_create_services stored with older | ⟨sameId, free⟩
      · exact ⟨older, (Option.ite_none_left_eq_some.mp isSettled).2⟩
      · simp [sameId, free] at isSettled
  | edit edited change =>
      simp only [Step.perform, latestReconcile] at stored isSettled
      obtain ⟨different, isSettled⟩ := Option.ite_none_left_eq_some.mp isSettled
      have other : key ≠ edited := fun same =>
        different (same.symm.trans sameKey.symm)
      rw [Cluster.view_edit_services other] at stored
      exact ⟨stored, isSettled⟩
  | remove removed =>
      simp only [Step.perform, latestReconcile] at stored isSettled
      obtain ⟨different, isSettled⟩ := Option.ite_none_left_eq_some.mp isSettled
      have other : key ≠ removed := fun same =>
        different (same.symm.trans sameKey.symm)
      rw [Cluster.view_remove_services other] at stored
      exact ⟨stored, isSettled⟩
  | environment action =>
      simp only [Step.perform, latestReconcile, Cluster.view_react] at stored isSettled
      exact ⟨stored, isSettled⟩
  | invoke operation inHand ticks =>
      exact (notInvoke operation inHand ticks rfl).elim

/-- A reconcile settles the service in hand exactly when it succeeds. -/
theorem settled_reconcile
    {operation : Operation}
    (isReconcile : operation ≠ .ensureLoadBalancerDeleted)
    (system : System)
    (service : Service)
    (ticks : List Tick)
    (id : ServiceId) :
    let step := Step.invoke operation service ticks
    (system.advance l clusterName step).settled id =
      if service.id = id then
        (step.perform l clusterName system.cluster).succeeded
      else
        system.settled id := by
  cases operation with
  | ensureLoadBalancerDeleted =>
      exact (isReconcile rfl).elim
  | _ =>
      dsimp only
      unfold System.settled
      simp only [System.advance, latestReconcile, perform_step]
      split
      · simp
      · rfl

/-- The condition on a reconcile, seen on the view. -/
theorem PrimaryPortsFree.disjoint
    {operation : Operation}
    (isReconcile : operation ≠ .ensureLoadBalancerDeleted)
    {system : System}
    {service : Service}
    {ticks : List Tick}
    (stored : service ∈ system.cluster.services)
    (free : PrimaryPortsFree system (.invoke operation service ticks))
    (unset : service.annotations.lookup keyPrimaryService = none)
    {key : String}
    {other : Service}
    (found : system.cluster.view.services key = some other)
    (label :
      other.labels.lookup keyPrimaryService = some (primaryServiceLabelValue service))
    (isSettled : system.settled other.id = true)
    (different : key ≠ service.key) :
    List.Disjoint other.ports service.ports := by
  obtain ⟨present, isPresent, rfl⟩ := Option.map_eq_some_iff.mp found
  have isLabelled :
      present ∈ system.cluster.services.labelled (primaryServiceLabelValue service) :=
    ServiceStore.mem_labelled.mpr ⟨(ServiceStore.get?_eq_some.mp isPresent).1, label⟩
  have otherUid : present.uid ≠ service.uid := fun sameUid =>
    different (system.cluster.services.uidsDistinct isPresent stored sameUid)
  cases operation with
  | ensureLoadBalancerDeleted =>
      exact (isReconcile rfl).elim
  | _ =>
      exact free unset present isLabelled isSettled otherUid

/-- A reconcile that meets the condition keeps the settled ports apart. -/
theorem portsSettled_reconcile
    {operation : Operation}
    (isReconcile : operation ≠ .ensureLoadBalancerDeleted)
    {system : System}
    {service : Service}
    {ticks : List Tick}
    (stored : service ∈ system.cluster.services)
    (free : PrimaryPortsFree system (.invoke operation service ticks))
    (ports : system.cluster.view.PortsSettled system.settled) :
    let next := system.advance l clusterName (.invoke operation service ticks)
    next.cluster.view.PortsSettled next.settled := by
  intro next
  have inHand := Cluster.view_services_of_mem stored
  have settledAfter :=
    @settled_reconcile l clusterName operation isReconcile system service ticks
  have view : next.cluster.view = _ :=
    invoke_view l clusterName operation service ticks system.cluster
  obtain ⟨_, outcome⟩ :=
    invoke_outcome l clusterName operation service ticks system.cluster
  dsimp only at settledAfter
  cases succeeded :
    ((Step.invoke operation service ticks).perform l clusterName
      system.cluster).succeeded with
  | false =>
      rw [succeeded] at outcome
      simp only [succeeded] at settledAfter
      have ensured := outcome.ensured isReconcile
      refine ports.mono fun key found foundAfter isSettled => ⟨?_, ?_⟩
      · rw [view, ensured.services_of_failed] at foundAfter
        exact foundAfter
      · rw [settledAfter] at isSettled
        split at isSettled
        · cases isSettled
        · exact isSettled
  | true =>
      rw [succeeded] at outcome
      simp only [succeeded] at settledAfter
      have ensured := outcome.ensured isReconcile
      obtain ⟨updated, reconciled⟩ := ensured.reconciled inHand
      rw [← view] at reconciled
      have kept :=
        reconciled.portsSettled inHand
          (fun unset key other found label isSettled different =>
            free.disjoint isReconcile stored unset found label isSettled different)
          ports
      refine kept.mono fun key found foundAfter isSettled => ⟨foundAfter, ?_⟩
      rw [settledAfter] at isSettled
      split at isSettled
      · rename_i sameId
        simp [sameId]
      · simp [isSettled]

/-- Every step that meets the condition keeps the settled ports apart. -/
theorem portsSettled_advance
    {system : System}
    {step : Step}
    (inHandStored : InHandIsStored system step)
    (free : PrimaryPortsFree system step)
    (ports : system.cluster.view.PortsSettled system.settled) :
    (system.advance l clusterName step).cluster.view.PortsSettled
      (system.advance l clusterName step).settled := by
  cases step with
  | invoke operation service ticks =>
      cases operation with
      | ensureLoadBalancerDeleted =>
          obtain ⟨_, outcome⟩ :=
            invoke_outcome l clusterName .ensureLoadBalancerDeleted service ticks
              system.cluster
          have view :
              (system.advance l clusterName
                (.invoke .ensureLoadBalancerDeleted service ticks)).cluster.view = _ :=
            invoke_view l clusterName .ensureLoadBalancerDeleted service ticks
              system.cluster
          refine ports.mono fun key found stored isSettled => ⟨?_, isSettled⟩
          rw [view, EnsureDeletedOutcome.services_eq outcome] at stored
          exact stored
      | _ =>
          exact portsSettled_reconcile (by decide) (inHandStored service rfl) free ports
  | _ =>
      exact ports.mono fun key found =>
        settled_of_not_invoke (fun _ _ _ same => by cases same)

end Steps

section Sharing

variable {l : LoadBalancerManager}
variable {clusterName : String}

/-- A primary and the services that carry its label. -/
def System.sharing (system : System) (primary : Service) : List Service :=
  primary :: system.cluster.services.labelled (primaryServiceLabelValue primary)

/-- A stored primary, every service behind it reconciled successfully. -/
structure System.SharingSettled
    (system : System)
    (primary : Service) :
    Prop where
  stored : primary ∈ system.cluster.services
  unannotated : primary.annotations.read keyPrimaryService = ""
  succeeded :
    ∀ service ∈ system.sharing primary,
      latestReconcile service.id system.log = some true

/-- No two services behind a primary have a port in common. -/
def System.PortsDisjoint (system : System) (primary : Service) : Prop :=
  ∀ first ∈ system.sharing primary,
    ∀ second ∈ system.sharing primary,
      first ≠ second →
      List.Disjoint first.ports second.ports

/--
In every run in which no primary is reconciled on a port of a settled service
behind its load balancer, the services behind a load balancer have disjoint
ports whenever the last reconcile of each of them succeeded.
-/
theorem sharedPorts_disjoint
    {start : Cluster}
    {steps : List Step}
    {system : System}
    {primary : Service}
    (execution :
      Execution
        (StepsOf (System.advance l clusterName) fun reached step =>
          InHandIsStored reached step ∧ PrimaryPortsFree reached step)
        { cluster := start } steps system)
    (settled : system.SharingSettled primary) :
    system.PortsDisjoint primary := by
  have ports : system.cluster.view.PortsSettled system.settled := by
    refine execution.invariant
      (fun reached => reached.cluster.view.PortsSettled reached.settled) ?_ ?_
    · constructor <;> intros <;> contradiction
    · rintro reached next step earlier ⟨⟨inHandStored, free⟩, rfl⟩
      exact portsSettled_advance inHandStored free earlier
  have isSettled
      {service : Service}
      (member : service ∈ system.sharing primary) :
      system.settled service.id = true :=
    System.settled_iff.mpr (settled.succeeded service member)
  have withPrimary
      {service : Service}
      (member :
        service ∈
          system.cluster.services.labelled (primaryServiceLabelValue primary)) :
      List.Disjoint service.ports primary.ports := by
    obtain ⟨serviceStored, label⟩ := ServiceStore.mem_labelled.mp member
    have primarySettled := isSettled (List.mem_cons_self : primary ∈ system.sharing primary)
    have serviceSettled :=
      isSettled (List.mem_cons_of_mem _ member : service ∈ system.sharing primary)
    have disjoint :=
      ports.withPrimary (Cluster.view_services_of_mem settled.stored)
        (Cluster.view_services_of_mem serviceStored) primarySettled serviceSettled
        settled.unannotated label
    exact disjoint
  intro first firstMember second secondMember different
  rcases List.mem_cons.mp firstMember with rfl | firstLabelled
  · rcases List.mem_cons.mp secondMember with rfl | secondLabelled
    · exact (different rfl).elim
    · exact (withPrimary secondLabelled).symm
  · rcases List.mem_cons.mp secondMember with rfl | secondLabelled
    · exact withPrimary firstLabelled
    · obtain ⟨firstStored, firstLabel⟩ := ServiceStore.mem_labelled.mp firstLabelled
      obtain ⟨secondStored, secondLabel⟩ := ServiceStore.mem_labelled.mp secondLabelled
      have firstSettled := isSettled firstMember
      have secondSettled := isSettled secondMember
      have disjoint :=
        ports.siblings (Cluster.view_services_of_mem firstStored)
          (Cluster.view_services_of_mem secondStored) firstSettled secondSettled firstLabel
          secondLabel (primaryServiceLabelValue_ne_empty primary)
          fun sameKey => different
            (ServiceStore.eq_of_key firstStored secondStored sameKey)
      exact disjoint

/-- A primary on port 80 and a secondary on port 81, both reconciled. -/
def portMoves : List Move :=
  [.create webService,
    .call .ensureLoadBalancer "default/web" (allocatingAfter 3 webService "10.0.0.1"),
    .environment (.assignIngress "default/web" [⟨"10.0.0.1"⟩]),
    .create apiService,
    .call .ensureLoadBalancer "default/api" []]

/-- The primary moves to the port of its secondary and is reconciled again. -/
def collidingMoves : List Move :=
  portMoves ++
    [.edit "default/web"
      { annotations := NilableMap.write none keyKubevipLoadBalancerIP "10.0.0.1"
        labels := none
        serviceType := .loadBalancer
        ports := [⟨81⟩] },
      .call .ensureLoadBalancer "default/web" []]

/-- What there is to see of a primary on some port and one secondary on 81. -/
def System.ShowsSharing (system : System) (port : ServicePort) : Prop :=
  ((system.cluster.services.get? "default/web").map fun web =>
      (web.annotations.read keyPrimaryService, web.id, web.ports)) =
      some ("", webService.id, [port]) ∧
    ((system.cluster.services.labelled "default.web").map fun service =>
      (service.id, service.ports)) =
      [(apiService.id, [⟨81⟩])] ∧
    latestReconcile webService.id system.log = some true ∧
    latestReconcile apiService.id system.log = some true

instance (system : System) (port : ServicePort) : Decidable (system.ShowsSharing port) :=
  inferInstanceAs (Decidable (_ ∧ _ ∧ _ ∧ _))

theorem System.ShowsSharing.settled
    {system : System}
    {port : ServicePort}
    (shows : system.ShowsSharing port) :
    ∃ web api,
      system.SharingSettled web ∧
        system.sharing web = [web, api] ∧
        web ≠ api ∧
        web.ports = [port] ∧
        api.ports = [⟨81⟩] := by
  obtain ⟨primary, labelled, webSucceeded, apiSucceeded⟩ := shows
  obtain ⟨web, found, seen⟩ := Option.map_eq_some_iff.mp primary
  simp only [Prod.mk.injEq] at seen
  obtain ⟨unannotated, webId, webPorts⟩ := seen
  obtain ⟨api, only, seen⟩ := List.map_eq_singleton_iff.mp labelled
  simp only [Prod.mk.injEq] at seen
  obtain ⟨apiId, apiPorts⟩ := seen
  have value : primaryServiceLabelValue web = "default.web" := by
    have sameNs : web.ns = "default" := congrArg ServiceId.ns webId
    have sameName : web.name = "web" := congrArg ServiceId.name webId
    rw [primaryServiceLabelValue, sameNs, sameName]
    rfl
  have members : system.sharing web = [web, api] := by
    rw [System.sharing, value, only]
  refine ⟨web, api, ?_, members, ?_, webPorts, apiPorts⟩
  · refine ⟨(ServiceStore.get?_eq_some.mp found).1, unannotated, ?_⟩
    intro service member
    rw [members] at member
    rcases List.mem_pair.mp member with rfl | rfl
    · rw [webId]
      exact webSucceeded
    · rw [apiId]
      exact apiSucceeded
  · rintro rfl
    exact absurd (webId.symm.trans apiId) (by decide)

/-- The ports of the two services stay apart as long as nobody moves them. -/
theorem portMoves_disjoint :
    ∃ web api,
      (System.play sampleManager "prod" { cluster := {} } portMoves).sharing web =
          [web, api] ∧
        (System.play sampleManager "prod" { cluster := {} } portMoves).PortsDisjoint
          web := by
  have shows :
      allAllowed (System.moved sampleManager "prod") (Move.Meets PrimaryPortsFree)
          { cluster := {} } portMoves = true ∧
        (System.play sampleManager "prod" { cluster := {} } portMoves).ShowsSharing
          ⟨80⟩ := by
    decide +kernel
  obtain ⟨web, api, settled, members, _⟩ := shows.2.settled
  obtain ⟨steps, execution⟩ :=
    @play_execution sampleManager "prod"
      (fun reached step => InHandIsStored reached step ∧ PrimaryPortsFree reached step)
      { cluster := {} } portMoves
      (execution_foldl fun before move after split =>
        ⟨move.inHandIsStored _, condition_of_allAllowed (split ▸ shows.1)⟩)
  exact ⟨web, api, members, sharedPorts_disjoint execution settled⟩

/-- An edit is followed by the reconcile of the edited service. -/
def EditsReconciled (system : System) (step : Step) : Prop :=
  match system.log.head?.map Entry.step, step with
  | some (.edit key _), .invoke .ensureLoadBalancer service _ => service.key = key
  | some (.edit _ _), _ => False
  | _, _ => True

instance (system : System) (step : Step) : Decidable (EditsReconciled system step) := by
  unfold EditsReconciled
  split <;> infer_instance

/-- A primary can move to a port of its secondary, and its reconcile succeeds. -/
theorem sharedPorts_not_always_disjoint :
    ¬ ∀ (steps : List Step) (system : System) (primary : Service),
        Execution
          (StepsOf (System.advance sampleManager "prod") fun reached step =>
            InHandIsStored reached step ∧ EditsReconciled reached step)
          { cluster := {} } steps system →
        system.SharingSettled primary →
        system.PortsDisjoint primary := by
  intro always
  have shows :
      allAllowed (System.moved sampleManager "prod") (Move.Meets EditsReconciled)
          { cluster := {} } collidingMoves = true ∧
        (System.play sampleManager "prod" { cluster := {} }
          collidingMoves).ShowsSharing ⟨81⟩ := by
    decide +kernel
  obtain ⟨web, api, settled, members, different, webPorts, apiPorts⟩ := shows.2.settled
  obtain ⟨steps, execution⟩ :=
    @play_execution sampleManager "prod"
      (fun reached step => InHandIsStored reached step ∧ EditsReconciled reached step)
      { cluster := {} } collidingMoves
      (execution_foldl fun before move after split =>
        ⟨move.inHandIsStored _, condition_of_allAllowed (split ▸ shows.1)⟩)
  have disjoint :=
    always steps _ web execution settled web (by simp [members]) api
      (by simp [members]) different
  rw [webPorts, apiPorts] at disjoint
  exact disjoint List.mem_cons_self List.mem_cons_self

end Sharing

end HarvesterCloudProvider
