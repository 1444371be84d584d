import HarvesterCloudProvider.PortSharing

namespace HarvesterCloudProvider

open Program

/-!
# The value of the sharing label

The label value of a primary joins its namespace and its name with a dot.
Both are bounded by 63 bytes on their own, and so is every label value, but
nothing bounds the join.  The value is written by `updateSecondaryServiceObject`
after the own load balancer of the secondary is gone.
-/

/-- Every label value of a service passes `validation.IsValidLabelValue`. -/
def Service.LabelsAdmissible (service : Service) : Prop :=
  ∀ key value,
    service.labels.lookup key = some value →
    isValidLabelValue (bytesOf value) = true

/-- Every stored service has admissible labels. -/
def View.LabelsAdmissible (view : View) : Prop :=
  ∀ key service,
    view.services key = some service →
    service.LabelsAdmissible

/-- An event does not send a service with an inadmissible label. -/
def Event.SendsAdmissible (event : Event) : Prop :=
  ∀ service,
    event.request = .updateService service →
    service.LabelsAdmissible

section Values

/-- A DNS-1035 label is a DNS-1123 label. -/
theorem isDNS1123Label_of_isDNS1035Label
    {value : Bytes}
    (isLabel : isDNS1035Label value = true) :
    isDNS1123Label value = true := by
  simp only [isDNS1035Label, Bool.and_eq_true] at isLabel
  obtain ⟨⟨⟨short, first⟩, inner⟩, last⟩ := isLabel
  obtain ⟨byte, found, lower⟩ := (Option.any_eq_true _ _).mp first
  have alphanumeric : isAlphanumericByte byte = true := by
    simp [isAlphanumericByte, lower]
  simp only [isDNS1123Label, Bool.and_eq_true]
  exact ⟨⟨⟨short, by rw [found]; exact alphanumeric⟩, inner⟩, last⟩

/-- Two DNS-1123 labels joined by a dot are a label value unless they are too long. -/
theorem isValidLabelValue_join_iff
    {first second : Bytes}
    (firstLabel : isDNS1123Label first = true)
    (secondLabel : isDNS1123Label second = true) :
    isValidLabelValue (first ++ 46 :: second) = true ↔
      first.length + second.length ≤ 62 := by
  have nonempty
      {value : Bytes}
      (isLabel : isDNS1123Label value = true) :
      value ≠ [] := by
    rintro rfl
    exact Bool.noConfusion isLabel
  have firstValue := isValidLabelValue_of_isDNS1123Label firstLabel
  have secondValue := isValidLabelValue_of_isDNS1123Label secondLabel
  simp only [isValidLabelValue, List.isEmpty_eq_false_iff.mpr (nonempty firstLabel),
    List.isEmpty_eq_false_iff.mpr (nonempty secondLabel), Bool.false_or,
    Bool.and_eq_true, decide_eq_true_eq] at firstValue secondValue
  obtain ⟨-, ⟨firstHead, firstInner⟩, -⟩ := firstValue
  obtain ⟨-, ⟨-, secondInner⟩, secondLast⟩ := secondValue
  have headAny : (first ++ 46 :: second).head?.any isLabelValueEndByte = true := by
    rw [List.head?_append_of_ne_nil _ (nonempty firstLabel)]
    exact firstHead
  have lastAny : (first ++ 46 :: second).getLast?.any isLabelValueEndByte = true := by
    rw [List.getLast?_append_of_ne_nil _ (by simp), List.getLast?_cons_of_ne_nil
      (nonempty secondLabel)]
    exact secondLast
  have innerAll : (first ++ 46 :: second).all isLabelValueByte = true := by
    have dot : isLabelValueByte 46 = true := by
      decide
    rw [List.all_append, List.all_cons, firstInner, secondInner, dot]
    rfl
  have lengths : (first ++ 46 :: second).length ≤ 63 ↔
      first.length + second.length ≤ 62 := by
    rw [List.length_append, List.length_cons]
    omega
  simp only [isValidLabelValue, headAny, lastAny, innerAll, Bool.and_self, Bool.or_true,
    Bool.and_true, decide_eq_true_eq, lengths]

end Values

section Sending

/--
From admissible stored labels, one state of a session is continued to another
by requests that send admissible labels, and the stored labels stay admissible.
-/
def KeepsLabelsAdmissible (session final : Session) : Prop :=
  session.cluster.view.LabelsAdmissible →
    final.cluster.view.LabelsAdmissible ∧
      ∃ events,
        final.events = session.events ++ events ∧
          ∀ event ∈ events, event.SendsAdmissible

instance : Std.Refl KeepsLabelsAdmissible where
  refl _ := fun admissible => ⟨admissible, [], by simp, by simp⟩

instance : IsTrans Session KeepsLabelsAdmissible where
  trans first middle final := by
    intro firstKeeps secondKeeps admissible
    obtain ⟨middleAdmissible, early, earlyRecorded, earlySends⟩ := firstKeeps admissible
    obtain ⟨finalAdmissible, late, lateRecorded, lateSends⟩ :=
      secondKeeps middleAdmissible
    refine ⟨finalAdmissible, early ++ late, ?_, fun event member => ?_⟩
    · rw [lateRecorded, earlyRecorded, List.append_assoc]
    · rcases List.mem_append.mp member with inEarly | inLate
      · exact earlySends event inEarly
      · exact lateSends event inLate

/-- A committed request stores a service only if it sends one. -/
theorem Request.apply_labelsAdmissible
    {request : Request}
    {view : View}
    (admissible : view.LabelsAdmissible)
    (sends : ∀ service, request = .updateService service → service.LabelsAdmissible) :
    (request.apply view).LabelsAdmissible := by
  cases request with
  | updateService service =>
      intro key stored found
      by_cases sameKey : key = service.key
      · subst sameKey
        simp only [Request.apply, Function.update_self, Option.some.injEq] at found
        subst found
        exact sends service rfl
      · simp only [Request.apply, Function.update_of_ne sameKey] at found
        exact admissible key stored found
  | _ =>
      exact admissible

/-- One request that sends nothing inadmissible. -/
theorem Answered.keepsLabelsAdmissible
    {α : Type}
    {request : Request}
    {session final : Session}
    {answer : Except Err α}
    {event : Event}
    (answered : Answered request session answer final event)
    (sends : ∀ service, request = .updateService service → service.LabelsAdmissible) :
    KeepsLabelsAdmissible session final := by
  intro admissible
  have eventSends : event.SendsAdmissible := by
    intro service requested
    exact sends service (answered.requested.symm.trans requested)
  refine ⟨?_, [event], answered.ran.recorded, by simpa using eventSends⟩
  have replays := answered.ran.replayed
  generalize final.cluster.view = after at replays ⊢
  cases replays with
  | cons met later =>
      cases later with
      | nil =>
          unfold Event.apply
          split
          · exact Request.apply_labelsAdmissible admissible eventSends
          · exact admissible

variable {service : Service}
variable {serviceType ip primaryLabel : String}
variable {updateServiceObject : Service → String → String → Service}

/-- A change that keeps labels admissible is only sent in admissible objects. -/
theorem retryFunc_keepsLabelsAdmissible
    (keeps :
      ∀ current : Service,
        current.LabelsAdmissible →
        (updateServiceObject current ip primaryLabel).LabelsAdmissible) :
    Respects KeepsLabelsAdmissible
      (retryFunc service serviceType ip primaryLabel updateServiceObject) := by
  intro session admissible
  generalize ran : retryFunc service serviceType ip primaryLabel updateServiceObject
    session = result
  obtain ⟨answer, final⟩ := result
  rcases bind_cases ran with ⟨error, got, rfl⟩ | ⟨current, middle, got, rest⟩
  · obtain ⟨cause, got, -⟩ := mapError_error got
    obtain ⟨event, sent, _⟩ := localSvcCacheGet_answered got
    exact sent.keepsLabelsAdmissible (by simp) admissible
  · obtain ⟨event, sent, facts⟩ := localSvcCacheGet_answered (mapError_ok.mp got)
    obtain ⟨stored, -⟩ := facts current rfl
    have currentAdmissible : current.LabelsAdmissible :=
      admissible _ current.content stored
    have read := sent.keepsLabelsAdmissible (by simp)
    split at rest
    · simp only [fail_run, Prod.mk.injEq] at rest
      obtain ⟨-, rfl⟩ := rest
      exact read admissible
    · obtain ⟨last, change, _⟩ := call_answered (localSvcClientUpdate_serves _) rest
      refine trans_of KeepsLabelsAdmissible read (change.keepsLabelsAdmissible ?_) admissible
      rintro _ ⟨⟩
      exact keeps current currentAdmissible

/-- A secondary gets one label; its others are those it had. -/
theorem updateSecondaryServiceObject_labelsAdmissible
    {primary current : Service}
    (storable : isValidLabelValue (bytesOf primaryLabel) = true)
    (admissible : current.LabelsAdmissible) :
    (updateSecondaryServiceObject primary current ip primaryLabel).LabelsAdmissible := by
  intro key value found
  by_cases sameKey : key = keyPrimaryService
  · subst sameKey
    rw [updateSecondaryServiceObject_label, Option.some.injEq] at found
    rwa [← found]
  · refine admissible key value (Eq.trans ?_ found)
    exact (NilableMap.lookup_write_of_ne _ sameKey _).symm

/-- A storable label value is only sent in admissible objects. -/
theorem updateSecondaryServiceLoadBalancerIP_keepsLabelsAdmissible
    {primary secondary : Service}
    (storable : isValidLabelValue (bytesOf (primaryServiceLabelValue primary)) = true) :
    Respects KeepsLabelsAdmissible
      (updateSecondaryServiceLoadBalancerIP ip primary secondary) := by
  unfold updateSecondaryServiceLoadBalancerIP
  dsimp only
  split
  · exact .pure ()
  · refine Respects.mapError (Respects.retryWhile (retryFunc_keepsLabelsAdmissible ?_) _)
    exact fun _ => updateSecondaryServiceObject_labelsAdmissible storable

end Sending

section Soundness

/-- The sharing label of a primary can be stored and identifies the primary. -/
structure SharingLabelSound (primary : Service) : Prop where
  storable : isValidLabelValue (bytesOf (primaryServiceLabelValue primary)) = true
  sent :
    ∀ (ip : String) (secondary : Service) (session : Session),
      session.cluster.view.LabelsAdmissible →
      ∃ events,
        (updateSecondaryServiceLoadBalancerIP ip primary secondary session).2.events =
            session.events ++ events ∧
          ∀ event ∈ events, event.SendsAdmissible
  identifies :
    ∀ other : Service,
      isDNS1123Label (bytesOf other.ns) = true →
      isDNS1035Label (bytesOf other.name) = true →
      primaryServiceLabelValue other = primaryServiceLabelValue primary →
        other.ns = primary.ns ∧ other.name = primary.name

/--
The sharing label of an admissible primary works exactly as long as namespace
and name have at most 62 bytes together.
-/
theorem sharingLabel_sound_iff
    (primary : Service)
    (namespaceLabel : isDNS1123Label (bytesOf primary.ns) = true)
    (nameLabel : isDNS1035Label (bytesOf primary.name) = true) :
    SharingLabelSound primary ↔
      (bytesOf primary.ns).length + (bytesOf primary.name).length ≤ 62 := by
  have valueIff :=
    isValidLabelValue_join_iff namespaceLabel (isDNS1123Label_of_isDNS1035Label nameLabel)
  rw [← bytesOf_primaryServiceLabelValue] at valueIff
  constructor
  · intro sound
    exact valueIff.mp sound.storable
  · intro short
    have storable := valueIff.mpr short
    refine { storable := storable, sent := ?_, identifies := ?_ }
    · intro ip secondary session admissible
      exact (updateSecondaryServiceLoadBalancerIP_keepsLabelsAdmissible storable session
        admissible).2
    · intro other otherNamespace otherName same
      exact primaryServiceLabelValue_injective
        ⟨otherNamespace, isDNS1123Label_of_isDNS1035Label otherName⟩ same

/-- A primary whose namespace and name have the given lengths. -/
def primaryOfLengths (namespaceLength nameLength : Nat) : Service where
  ns := String.ofList (List.replicate namespaceLength 'n')
  name := String.ofList (List.replicate nameLength 's')
  uid := "u1"

/-- The longest join that fits. -/
theorem sharingLabel_sound_at_limit : SharingLabelSound (primaryOfLengths 32 30) :=
  (sharingLabel_sound_iff (primaryOfLengths 32 30) (by decide +kernel)
    (by decide +kernel)).mpr (by decide +kernel)

/-- One byte more: namespace and name are valid and the label value is not. -/
theorem sharingLabel_not_always_sound :
    ¬ ∀ primary : Service,
      isDNS1123Label (bytesOf primary.ns) = true →
      isDNS1035Label (bytesOf primary.name) = true →
        SharingLabelSound primary := by
  intro always
  have sound := always (primaryOfLengths 32 31) (by decide +kernel) (by decide +kernel)
  have invalid :
      isValidLabelValue
        (bytesOf (primaryServiceLabelValue (primaryOfLengths 32 31))) = false := by
    decide +kernel
  rw [sound.storable] at invalid
  exact Bool.noConfusion invalid

end Soundness

end HarvesterCloudProvider
