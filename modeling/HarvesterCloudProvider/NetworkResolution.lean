import HarvesterCloudProvider.ApiEffects
import HarvesterCloudProvider.LoadBalancerObject

namespace HarvesterCloudProvider

open Program

/-!
# Resolving the network of a service

`resolveNetworkInterface` tells a missing ConfigMap from an empty mapping by the
nilness of a decoded Go map.  The stored text is editable by others, so every
JSON text has to be considered: the text `null` decodes to a nil map without an
error, and an entry may map a network to the empty string.
-/

namespace JsonText

section Null

/-- The text of the JSON value `null`, with any white space around it. -/
def IsNullText (input : String) : Prop :=
  ∃ before after,
    input.toList = before ++ 'n' :: 'u' :: 'l' :: 'l' :: after ∧
      before.all isSpace = true ∧
      after.all isSpace = true

/-- Skipping white space leaves nothing exactly when there is nothing else. -/
theorem skipSpace_eq_nil_iff {input : List Char} :
    skipSpace input = [] ↔ input.all isSpace = true := by
  rw [skipSpace, List.dropWhile_eq_nil_iff, List.all_eq_true]

/-- White space in front of another character is skipped. -/
theorem skipSpace_append_cons
    {before rest : List Char}
    {character : Char}
    (spaces : before.all isSpace = true)
    (visible : isSpace character = false) :
    skipSpace (before ++ character :: rest) = character :: rest := by
  rw [skipSpace, List.dropWhile_append_of_pos (List.all_eq_true.mp spaces),
    List.dropWhile_cons_of_neg (by simp [visible])]

/-- Only the word `null` is read as the null value. -/
theorem skipSpace_of_readValue_null
    {fuel : Nat}
    {input rest : List Char}
    (read : readValue fuel input = some (.null, rest)) :
    skipSpace input = 'n' :: 'u' :: 'l' :: 'l' :: rest := by
  cases fuel with
  | zero =>
      simp [readValue] at read
  | succ fuel =>
      unfold readValue at read
      split at read
      · rename_i later shape
        simp only [Option.some.injEq, Prod.mk.injEq, true_and] at read
        rw [shape, read]
      all_goals
        first
        | (split at read <;> simp at read)
        | simp at read

/-- A text is read as the null value exactly when it is the word `null`. -/
theorem parse_eq_null_iff {input : String} :
    parse input = some .null ↔ IsNullText input := by
  constructor
  · intro parsed
    unfold parse at parsed
    cases read : readValue (input.toList.length + 1) input.toList with
    | none =>
        simp [read] at parsed
    | some result =>
        obtain ⟨value, rest⟩ := result
        simp only [read, Option.bind_eq_bind, Option.bind_some] at parsed
        split at parsed
        · rename_i finished
          cases parsed
          refine ⟨input.toList.takeWhile isSpace, rest, ?_, ?_, ?_⟩
          · rw [← skipSpace_of_readValue_null read]
            exact (List.takeWhile_append_dropWhile).symm
          · exact List.all_takeWhile
          · exact skipSpace_eq_nil_iff.mp finished
        · cases parsed
  · rintro ⟨before, after, shape, spaces, trailing⟩
    unfold parse
    have skipped : skipSpace input.toList = 'n' :: 'u' :: 'l' :: 'l' :: after := by
      rw [shape]
      exact skipSpace_append_cons spaces (by decide)
    have read : readValue (input.toList.length + 1) input.toList =
        some (.null, after) := by
      simp only [readValue, skipped]
    simp only [read, Option.bind_eq_bind, Option.bind_some,
      skipSpace_eq_nil_iff.mpr trailing]
    rfl

/-- Unmarshalling gives a nil map exactly for the text `null`. -/
theorem unmarshalStringMap_eq_nil_iff {input : String} :
    unmarshalStringMap input = some none ↔ IsNullText input := by
  rw [← parse_eq_null_iff, unmarshalStringMap]
  cases parse input with
  | none =>
      simp
  | some value =>
      cases value with
      | object members =>
          cases decoded : decodeMembers members <;> simp [decoded]
      | _ =>
          simp

end Null

section Members

/-- The value of the last member with a name, the one that counts. -/
def member (name : String) : List (List Char × JsonValue) → Option JsonValue
  | [] => none
  | (key, value) :: rest =>
      match member name rest with
      | some later => some later
      | none => if String.ofList key = name then some value else none

/-- All members of a decoded object are decodable. -/
theorem decodeString_member
    {members : List (List Char × JsonValue)}
    {entries : List (String × String)}
    (decoded : decodeMembers members = some entries)
    {name : String}
    {value : JsonValue}
    (found : member name members = some value) :
    ∃ element, decodeString value = some element := by
  induction members generalizing entries with
  | nil =>
      cases found
  | cons first rest inductionHypothesis =>
      obtain ⟨key, firstValue⟩ := first
      simp only [decodeMembers, Option.bind_eq_bind, Option.bind_eq_some_iff] at decoded
      obtain ⟨element, valueDecoded, later, restDecoded, -⟩ := decoded
      unfold member at found
      split at found
      · rename_i last lastFound
        cases found
        exact inductionHypothesis restDecoded lastFound
      · split at found
        · cases found
          exact ⟨element, valueDecoded⟩
        · cases found

/-- The decoded entry of a name is the decoded last member of that name. -/
theorem findSomeRev?_decodeMembers
    {members : List (List Char × JsonValue)}
    {entries : List (String × String)}
    (decoded : decodeMembers members = some entries)
    (name : String) :
    (entries.findSomeRev? fun entry =>
      if compare entry.1 name = .eq then some entry.2 else none) =
      (member name members).bind decodeString := by
  induction members generalizing entries with
  | nil =>
      cases decoded
      rfl
  | cons first rest inductionHypothesis =>
      obtain ⟨key, value⟩ := first
      simp only [decodeMembers, Option.bind_eq_bind, Option.bind_eq_some_iff] at decoded
      obtain ⟨element, valueDecoded, later, restDecoded, same⟩ := decoded
      cases same
      rw [List.findSomeRev?, inductionHypothesis restDecoded, member]
      cases found : member name rest with
      | some last =>
          -- A later member of the same name hides this one.
          obtain ⟨lastElement, lastDecoded⟩ := decodeString_member restDecoded found
          simp only [Option.bind_some, lastDecoded]
      | none =>
          by_cases named : String.ofList key = name
          · simp [named, valueDecoded]
          · simp [named]

/-- An entry of an unmarshalled map is a member of the object that was read. -/
theorem unmarshalStringMap_getElem?
    {input : String}
    {entries : Std.ExtTreeMap String String}
    (unmarshalled : unmarshalStringMap input = some (some entries))
    (name : String) :
    ∃ members,
      parse input = some (.object members) ∧
        entries[name]? = (member name members).bind decodeString := by
  unfold unmarshalStringMap at unmarshalled
  cases parsed : parse input with
  | none =>
      simp [parsed] at unmarshalled
  | some value =>
      cases value with
      | object members =>
          cases decoded : decodeMembers members with
          | none =>
              simp [parsed, decoded] at unmarshalled
          | some list =>
              simp only [parsed, decoded, Option.bind_eq_bind, Option.bind_some,
                Option.pure_def, Option.some.injEq] at unmarshalled
              subst unmarshalled
              refine ⟨members, rfl, ?_⟩
              rw [← findSomeRev?_decodeMembers decoded, Std.ExtTreeMap.ofList_eq_insertMany_empty,
                Std.ExtTreeMap.getElem?_insertMany_list]
              simp
      | _ =>
          simp [parsed] at unmarshalled

end Members

end JsonText

section Answers

/-- What the cache answers about the mapping ConfigMap: a failure, or what is stored. -/
def Session.cachedMapping (session : Session) : Except Failure (Option ConfigMap) :=
  match (session.ticks.headD {}).failure with
  | some failure => .error failure
  | none =>
      .ok ((session.ticks.headD {}).environment.foldl Cluster.react
        session.cluster).configMap

/-- The stored text of the mapping. -/
def ConfigMap.mappingText (configMap : ConfigMap) : String :=
  configMap.data.read configMapKeyNADMapping

variable {session : Session}

/-- A missing ConfigMap is reported as not found, and nothing else is. -/
theorem configMapGet_answer :
    (configMapGet session).1 =
      match session.cachedMapping with
      | .error failure => .error failure.toErr
      | .ok none => .error (notFound "configmaps" configMapNADMapping)
      | .ok (some configMap) => .ok configMap := by
  unfold configMapGet call Session.cachedMapping
  obtain ⟨environment, failure⟩ := session.ticks.headD {}
  dsimp only
  generalize environment.foldl Cluster.react session.cluster = met
  cases failure with
  | some failure =>
      rfl
  | none =>
      cases met.configMap <;> rfl

/-- The mapping is nil without a ConfigMap, empty without a text, and decoded otherwise. -/
theorem getNADInterfaceMapping_ok_iff {mapping : StringMap} :
    (getNADInterfaceMapping session).1 = .ok mapping ↔
      (session.cachedMapping = .ok none ∧ mapping = none) ∨
        ∃ configMap,
          session.cachedMapping = .ok (some configMap) ∧
            (configMap.mappingText = "" ∧ mapping = some ∅ ∨
              JsonText.unmarshalStringMap configMap.mappingText = some mapping) := by
  unfold getNADInterfaceMapping
  rw [attempt_bind_run, configMapGet_answer]
  cases session.cachedMapping with
  | error failure =>
      simp [Failure.isNotFound_toErr]
  | ok stored =>
      cases stored with
      | none =>
          have missing : (notFound "configmaps" configMapNADMapping).isNotFound = true := rfl
          simp only [missing, ↓reduceIte, pure_run, Except.ok.injEq, true_and, reduceCtorEq,
            false_and, exists_false, or_false]
          exact eq_comm
      | some configMap =>
          simp only [Except.ok.injEq, reduceCtorEq, false_and, Option.some.injEq, false_or,
            exists_eq_left']
          unfold ConfigMap.mappingText
          generalize configMap.data.read configMapKeyNADMapping = text
          split
          · rename_i empty
            simp [empty, JsonText.unmarshalStringMap_empty, eq_comm]
          · rename_i present
            cases decoded : JsonText.unmarshalStringMap text <;> simp [present]

/-- A resolved interface is empty without a request or a mapping, and an entry otherwise. -/
theorem resolveNetworkInterface_ok_iff {service : Service} {iface : String} :
    (resolveNetworkInterface service session).1 = .ok iface ↔
      ((service.network = "" ∨
          (getNADInterfaceMapping session).1 = .ok none) ∧ iface = "") ∨
        (service.network ≠ "" ∧
          ∃ entries,
            (getNADInterfaceMapping session).1 = .ok (some entries) ∧
              entries[service.network]? = some iface) := by
  unfold resolveNetworkInterface Service.network
  generalize service.annotations.read keyNetwork = network
  split
  · rename_i unset
    simp [unset, eq_comm]
  · rename_i wanted
    rw [bind_run]
    rcases getNADInterfaceMapping session with ⟨answer, final⟩
    rcases answer with error | mapping
    · simp [wanted]
    · cases mapping with
      | none =>
          simp [wanted, eq_comm]
      | some entries =>
          simp only [wanted, Except.ok.injEq, reduceCtorEq, or_self, false_and, ne_eq,
            not_false_eq_true, true_and, false_or, Option.some.injEq, exists_eq_left']
          split
          · rename_i empty
            have noEntry : entries[network]? = none := by
              rw [Std.ExtTreeMap.isEmpty_iff.mp empty]
              exact Std.ExtTreeMap.getElem?_empty
            simp [noEntry]
          · cases entries[network]? <;> simp

end Answers

section FailClosed

/--
What the comments of the two functions promise: the mapping is nil only without
a ConfigMap, nothing is passed through but a service without network or a
missing ConfigMap, and everything else is an error or a non-empty interface
that the stored JSON object maps the network to.
-/
structure ResolutionFailsClosed (service : Service) (session : Session) : Prop where
  mappingNil :
    (getNADInterfaceMapping session).1 = .ok none ↔ session.cachedMapping = .ok none
  passedThrough :
    (resolveNetworkInterface service session).1 = .ok "" ↔
      service.network = "" ∨ session.cachedMapping = .ok none
  resolved :
    ∀ iface,
      (resolveNetworkInterface service session).1 = .ok iface →
      service.network ≠ "" →
      session.cachedMapping ≠ .ok none →
        iface ≠ "" ∧
          ∃ configMap members,
            session.cachedMapping = .ok (some configMap) ∧
              JsonText.parse configMap.mappingText = some (.object members) ∧
              JsonText.member service.network members = some (.text iface.toList)

/--
A stored text is not the word `null`, and no string map in it has the empty
string (or `null`) under the requested network.
-/
def MappingResolvable (network : String) (session : Session) : Prop :=
  ∀ configMap,
    session.cachedMapping = .ok (some configMap) →
      ¬ JsonText.IsNullText configMap.mappingText ∧
        (network ≠ "" →
          ∀ entries,
            JsonText.unmarshalStringMap configMap.mappingText = some (some entries) →
            entries[network]? ≠ some "")

variable {service : Service}
variable {session : Session}

/-- A resolvable mapping is nil only if there is no ConfigMap. -/
theorem MappingResolvable.mappingNil
    {network : String}
    (resolvable : MappingResolvable network session) :
    (getNADInterfaceMapping session).1 = .ok none ↔
      session.cachedMapping = .ok none := by
  rw [getNADInterfaceMapping_ok_iff]
  constructor
  · rintro (⟨absent, -⟩ | ⟨configMap, stored, ⟨-, nil⟩ | decoded⟩)
    · exact absent
    · cases nil
    · have notNull := (resolvable configMap stored).1
      exact (notNull (JsonText.unmarshalStringMap_eq_nil_iff.mp decoded)).elim
  · intro absent
    exact .inl ⟨absent, rfl⟩

/-- An interface found in a non-nil mapping is a member of the stored object. -/
theorem member_of_mapping
    {entries : Std.ExtTreeMap String String}
    (mapped : (getNADInterfaceMapping session).1 = .ok (some entries))
    {network iface : String}
    (found : entries[network]? = some iface)
    (nonempty : iface ≠ "") :
    ∃ configMap members,
      session.cachedMapping = .ok (some configMap) ∧
        JsonText.parse configMap.mappingText = some (.object members) ∧
        JsonText.member network members = some (.text iface.toList) := by
  rcases getNADInterfaceMapping_ok_iff.mp mapped with
    ⟨-, nil⟩ | ⟨configMap, stored, ⟨-, empty⟩ | decoded⟩
  · cases nil
  · cases empty
    simp at found
  · obtain ⟨members, parsed, lookup⟩ := JsonText.unmarshalStringMap_getElem? decoded network
    rw [found] at lookup
    obtain ⟨value, member, text⟩ := Option.bind_eq_some_iff.mp lookup.symm
    refine ⟨configMap, members, stored, parsed, ?_⟩
    cases value with
    | text characters =>
        cases text
        rw [member, String.toList_ofList]
    | null =>
        cases text
        exact (nonempty rfl).elim
    | _ =>
        cases text

/--
Network resolution fails closed exactly when the stored text is not the word
`null` and does not map the requested network to the empty string.
-/
theorem networkResolution_failsClosed_iff
    (service : Service)
    (session : Session) :
    ResolutionFailsClosed service session ↔
      MappingResolvable service.network session := by
  constructor
  · intro closed configMap stored
    have present : session.cachedMapping ≠ .ok none := by
      rw [stored]
      simp
    constructor
    · intro isNull
      have decoded := JsonText.unmarshalStringMap_eq_nil_iff.mpr isNull
      exact present (closed.mappingNil.mp
        (getNADInterfaceMapping_ok_iff.mpr (.inr ⟨configMap, stored, .inr decoded⟩)))
    · intro wanted entries decoded found
      have mapped :=
        getNADInterfaceMapping_ok_iff.mpr (.inr ⟨configMap, stored, .inr decoded⟩)
      have passed := closed.passedThrough.mp
        (resolveNetworkInterface_ok_iff.mpr (.inr ⟨wanted, entries, mapped, found⟩))
      exact passed.elim wanted present
  · intro resolvable
    have notEmpty
        (wanted : service.network ≠ "")
        {entries : Std.ExtTreeMap String String}
        (mapped : (getNADInterfaceMapping session).1 = .ok (some entries)) :
        entries[service.network]? ≠ some "" := by
      rcases getNADInterfaceMapping_ok_iff.mp mapped with
        ⟨-, nil⟩ | ⟨configMap, stored, ⟨-, empty⟩ | decoded⟩
      · cases nil
      · cases empty
        simp
      · exact (resolvable configMap stored).2 wanted entries decoded
    refine { mappingNil := resolvable.mappingNil, passedThrough := ?_, resolved := ?_ }
    · rw [resolveNetworkInterface_ok_iff, resolvable.mappingNil]
      constructor
      · rintro (⟨passed, -⟩ | ⟨wanted, entries, mapped, found⟩)
        · exact passed
        · exact (notEmpty wanted mapped found).elim
      · intro passed
        exact .inl ⟨passed, rfl⟩
    · intro iface answered wanted present
      rw [resolveNetworkInterface_ok_iff, resolvable.mappingNil] at answered
      rcases answered with ⟨passed, -⟩ | ⟨-, entries, mapped, found⟩
      · exact (passed.elim wanted present).elim
      · have nonempty : iface ≠ "" := by
          rintro rfl
          exact notEmpty wanted mapped found
        exact ⟨nonempty, member_of_mapping mapped found nonempty⟩

/-- A session whose ConfigMap holds a text. -/
def sessionWithMapping (text : String) : Session where
  cluster :=
    { configMap :=
        some
          { ns := namespaceSystem
            name := configMapNADMapping
            data := NilableMap.write none configMapKeyNADMapping text } }
  ticks := []

/-- A service that asks for the network `default/vlan1`. -/
def vlanService : Service where
  ns := "default"
  name := "web"
  uid := "u1"
  annotations := NilableMap.write none keyNetwork "default/vlan1"

/-- The text `null` lets a requested network through unchecked. -/
theorem networkResolution_passes_null :
    ¬ ResolutionFailsClosed vlanService (sessionWithMapping "null") := by
  intro closed
  have nilMapping : (getNADInterfaceMapping (sessionWithMapping "null")).1 = .ok none := by
    rw [getNADInterfaceMapping_ok_iff]
    exact .inr ⟨_, rfl, .inr rfl⟩
  have absent := closed.mappingNil.mp nilMapping
  simp [Session.cachedMapping, sessionWithMapping] at absent

end FailClosed

end HarvesterCloudProvider
