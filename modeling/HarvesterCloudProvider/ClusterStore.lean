import HarvesterCloudProvider.Objects

namespace HarvesterCloudProvider

/-!
# What the API servers store

The guest cluster stores services and the ConfigMap with the network mapping;
the Harvester cluster stores load balancers.  The store types carry what the
API servers guarantee of their contents: a service sits under its own cache
key, has an admissible namespace and name, and shares its UID with no other
stored service; a load balancer sits under its own name.
-/

/-- The services of the guest cluster, as admitted by its API server. -/
structure ServiceStore where
  items : Std.ExtTreeMap String Service
  keyed :
    ∀ {key : String} {service : Service},
      items[key]? = some service →
      service.key = key
  admitted :
    ∀ {key : String} {service : Service},
      items[key]? = some service →
      service.Admissible
  uidsDistinct :
    ∀ {firstKey secondKey : String} {first second : Service},
      items[firstKey]? = some first →
      items[secondKey]? = some second →
      first.uid = second.uid →
      firstKey = secondKey

namespace ServiceStore

instance : Membership Service ServiceStore where
  mem store service := store.items[service.key]? = some service

/-- The service stored under a cache key. -/
def get? (store : ServiceStore) (key : String) : Option Service :=
  store.items[key]?

theorem get?_eq_some
    {store : ServiceStore}
    {key : String}
    {service : Service} :
    store.get? key = some service ↔
      service ∈ store ∧ service.key = key := by
  constructor
  · intro found
    have sameKey := store.keyed found
    exact ⟨by rw [← sameKey] at found; exact found, sameKey⟩
  · rintro ⟨member, rfl⟩
    exact member

/-- Two stored services under one key are the same service. -/
theorem eq_of_key
    {store : ServiceStore}
    {first second : Service}
    (firstMember : first ∈ store)
    (secondMember : second ∈ store)
    (sameKey : first.key = second.key) :
    first = second := by
  have found : store.items[first.key]? = some second := by
    rw [sameKey]
    exact secondMember
  exact Option.some.inj (firstMember.symm.trans found)

/-- A store without services. -/
def empty : ServiceStore where
  items := ∅
  keyed := by
    intro key service found
    simp at found
  admitted := by
    intro key service found
    simp at found
  uidsDistinct := by
    intro firstKey secondKey first second found
    simp at found

/-- What is found after a service was put under its key is the service or was there. -/
theorem getElem?_insert_cases
    {items : Std.ExtTreeMap String Service}
    {service other : Service}
    {key : String}
    (found : (items.insert service.key service)[key]? = some other) :
    (key = service.key ∧ other = service) ∨ items[key]? = some other := by
  rw [Std.ExtTreeMap.getElem?_insert] at found
  split at found
  · rename_i sameKey
    cases found
    exact .inl ⟨(Std.LawfulEqOrd.eq_of_compare sameKey).symm, rfl⟩
  · exact .inr found

/-- A new service enters the store under a fresh key with a fresh UID. -/
def insert (store : ServiceStore) (service : Service) : ServiceStore :=
  if fresh :
      store.items[service.key]? = none ∧
        service.Admissible ∧
        (store.items.toList.all fun entry =>
          decide (entry.2.uid ≠ service.uid)) = true then
    {
      items := store.items.insert service.key service
      keyed := by
        intro key stored found
        obtain ⟨rfl, rfl⟩ | old := getElem?_insert_cases found
        · rfl
        · exact store.keyed old
      admitted := by
        intro key stored found
        obtain ⟨_, rfl⟩ | old := getElem?_insert_cases found
        · exact fresh.2.1
        · exact store.admitted old
      uidsDistinct := by
        intro firstKey secondKey first second firstFound secondFound sameUid
        have others :
            ∀ {key : String} {other : Service},
              store.items[key]? = some other →
              other.uid ≠ service.uid := by
          intro key other found
          have allFresh := List.all_eq_true.mp fresh.2.2
          simpa using
            allFresh (key, other)
              (Std.ExtTreeMap.mem_toList_iff_getElem?_eq_some.mpr found)
        obtain ⟨rfl, rfl⟩ | firstOld := getElem?_insert_cases firstFound
        · obtain ⟨rfl, rfl⟩ | secondOld := getElem?_insert_cases secondFound
          · rfl
          · exact (others secondOld sameUid.symm).elim
        · obtain ⟨rfl, rfl⟩ | secondOld := getElem?_insert_cases secondFound
          · exact (others firstOld sameUid).elim
          · exact store.uidsDistinct firstOld secondOld sameUid
    }
  else
    store

/--
Replace a stored service by an object with the same identity.  Objects of
another identity leave the store unchanged.
-/
def replace (store : ServiceStore) (service : Service) : ServiceStore :=
  if stored :
      (store.items[service.key]?.map Service.id) = some service.id then
    {
      items := store.items.insert service.key service
      keyed := by
        intro key other found
        obtain ⟨rfl, rfl⟩ | unchanged := getElem?_insert_cases found
        · rfl
        · exact store.keyed unchanged
      admitted := by
        intro key other found
        obtain ⟨_, rfl⟩ | unchanged := getElem?_insert_cases found
        · obtain ⟨old, oldFound, sameId⟩ := Option.map_eq_some_iff.mp stored
          have oldAdmitted := store.admitted oldFound
          simp only [Service.id, ServiceId.mk.injEq] at sameId
          simpa only [Service.Admissible, sameId.1, sameId.2.1]
            using oldAdmitted
        · exact store.admitted unchanged
      uidsDistinct := by
        intro firstKey secondKey first second firstFound secondFound sameUid
        obtain ⟨old, oldFound, sameId⟩ := Option.map_eq_some_iff.mp stored
        have oldUid : old.uid = service.uid :=
          congrArg ServiceId.uid sameId
        obtain ⟨rfl, rfl⟩ | firstOld := getElem?_insert_cases firstFound
        · obtain ⟨rfl, rfl⟩ | secondOld := getElem?_insert_cases secondFound
          · rfl
          · exact store.uidsDistinct oldFound secondOld (oldUid.trans sameUid)
        · obtain ⟨rfl, rfl⟩ | secondOld := getElem?_insert_cases secondFound
          · exact store.uidsDistinct firstOld oldFound (sameUid.trans oldUid.symm)
          · exact store.uidsDistinct firstOld secondOld sameUid
    }
  else
    store

/-- Take the service under a key out of the store. -/
def erase (store : ServiceStore) (key : String) : ServiceStore where
  items := store.items.erase key
  keyed := by
    intro other service found
    rw [Std.ExtTreeMap.getElem?_erase] at found
    split at found
    · cases found
    · exact store.keyed found
  admitted := by
    intro other service found
    rw [Std.ExtTreeMap.getElem?_erase] at found
    split at found
    · cases found
    · exact store.admitted found
  uidsDistinct := by
    intro firstKey secondKey first second firstFound secondFound sameUid
    rw [Std.ExtTreeMap.getElem?_erase] at firstFound secondFound
    split at firstFound
    · cases firstFound
    · split at secondFound
      · cases secondFound
      · exact store.uidsDistinct firstFound secondFound sameUid

/-- The services that carry the primary-service label with a value. -/
def labelled (store : ServiceStore) (value : String) : List Service :=
  (store.items.toList.map Prod.snd).filter fun service =>
    decide (service.labels.lookup keyPrimaryService = some value)

theorem mem_labelled
    {store : ServiceStore}
    {value : String}
    {service : Service} :
    service ∈ store.labelled value ↔
      service ∈ store ∧
        service.labels.lookup keyPrimaryService = some value := by
  simp only [labelled, List.mem_filter, List.mem_map, decide_eq_true_eq]
  refine and_congr_left fun _ => ?_
  constructor
  · rintro ⟨⟨key, stored⟩, member, rfl⟩
    exact (get?_eq_some.mp
      (Std.ExtTreeMap.mem_toList_iff_getElem?_eq_some.mp member)).1
  · intro member
    exact ⟨(service.key, service),
      Std.ExtTreeMap.mem_toList_iff_getElem?_eq_some.mpr member, rfl⟩

/-- Replacing a stored service changes the entry under its key only. -/
theorem get?_replace
    {store : ServiceStore}
    {service old : Service}
    (stored : store.get? service.key = some old)
    (sameId : old.id = service.id)
    (key : String) :
    (store.replace service).get? key =
      if key = service.key then some service else store.get? key := by
  have applies :
      (store.items[service.key]?.map Service.id) = some service.id := by
    have found : store.items[service.key]? = some old := stored
    rw [found, Option.map_some, sameId]
  simp only [replace, applies, ↓reduceDIte, get?,
    Std.ExtTreeMap.getElem?_insert, Std.LawfulEqOrd.compare_eq_iff_eq]
  by_cases sameKey : service.key = key
  · simp [sameKey]
  · simp [sameKey, Ne.symm sameKey]

/-- A stored key is not overwritten by a new service. -/
theorem insert_of_stored
    {store : ServiceStore}
    {service old : Service}
    (stored : store.get? service.key = some old) :
    store.insert service = store := by
  have found : store.items[service.key]? = some old := stored
  unfold insert
  rw [dif_neg]
  simp [found]

/-- Under a free key the new service is all that can appear. -/
theorem eq_of_get?_insert
    {store : ServiceStore}
    {service other : Service}
    (free : store.get? service.key = none)
    (appeared : (store.insert service).get? service.key = some other) :
    other = service := by
  unfold insert at appeared
  split at appeared
  · simp only [get?, Std.ExtTreeMap.getElem?_insert_self, Option.some.injEq]
      at appeared
    exact appeared.symm
  · rw [free] at appeared
    cases appeared

/-- A new entry shows up under its own key only. -/
theorem get?_insert_of_ne
    (store : ServiceStore)
    {service : Service}
    {key : String}
    (different : key ≠ service.key) :
    (store.insert service).get? key = store.get? key := by
  unfold insert
  split
  · simp only [get?, Std.ExtTreeMap.getElem?_insert,
      Std.LawfulEqOrd.compare_eq_iff_eq, Ne.symm different, ↓reduceIte]
  · rfl

theorem get?_erase
    (store : ServiceStore)
    (key other : String) :
    (store.erase key).get? other =
      if key = other then none else store.get? other := by
  simp only [erase, get?, Std.ExtTreeMap.getElem?_erase,
    Std.LawfulEqOrd.compare_eq_iff_eq]

end ServiceStore

/-- The load balancers of the provider's namespace in the Harvester cluster. -/
structure LoadBalancerStore where
  get? : LBName → Option LoadBalancer
  named :
    ∀ {name : LBName} {lb : LoadBalancer},
      get? name = some lb →
      lb.name = name

namespace LoadBalancerStore

/-- A store without load balancers. -/
def empty : LoadBalancerStore where
  get? := fun _ => none
  named := by
    intro name lb found
    cases found

/-- Write one load balancer under its name. -/
def put (store : LoadBalancerStore) (lb : LoadBalancer) : LoadBalancerStore where
  get? := Function.update store.get? lb.name (some lb)
  named := by
    intro name other found
    by_cases sameName : name = lb.name
    · subst sameName
      simp only [Function.update_self, Option.some.injEq] at found
      rw [← found]
    · rw [Function.update_of_ne sameName] at found
      exact store.named found

theorem get?_put_self (store : LoadBalancerStore) (lb : LoadBalancer) :
    (store.put lb).get? lb.name = some lb :=
  Function.update_self ..

/-- Delete one load balancer. -/
def erase (store : LoadBalancerStore) (name : LBName) : LoadBalancerStore where
  get? := Function.update store.get? name none
  named := by
    intro other lb found
    by_cases sameName : other = name
    · subst sameName
      simp at found
    · rw [Function.update_of_ne sameName] at found
      exact store.named found

end LoadBalancerStore

/-- Everything the API servers store for the provider. -/
structure Cluster where
  services : ServiceStore := .empty
  loadBalancers : LoadBalancerStore := .empty
  configMap : Option ConfigMap := none
  version : Nat := 0

end HarvesterCloudProvider
