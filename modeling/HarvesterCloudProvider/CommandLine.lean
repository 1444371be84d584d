import HarvesterCloudProvider.ConfigSync
import HarvesterCloudProvider.CsvRecord

namespace HarvesterCloudProvider

open Program

/-!
# From arguments to the configuration and back

The provider is started with long flags.  The framework parses them, the provider
reads the values of eight flags and synchronises its configuration with them.
The effective configuration is logged as a text of such flags, to be copied into
a terminal.  What the logged text says is what a provider started with it gets.
-/

section Values

/-- `strconv.ParseBool`. -/
def parseBool (str : String) : Except Err Bool :=
  if str ∈ ["1", "t", "T", "TRUE", "true", "True"] then
    .ok true
  else if str ∈ ["0", "f", "F", "FALSE", "false", "False"] then
    .ok false
  else
    .error (.errorf s!"strconv.ParseBool: parsing {quote str}: invalid syntax")

/-- The texts of the errors of the record reader. -/
def Csv.QuoteError.message : Csv.QuoteError → String
  | .bareQuote => "bare \" in non-quoted-field"
  | .quote => "extraneous or missing \" in quoted-field"

def Csv.ReadError.message : Csv.ReadError → String
  | .endOfFile => "EOF"
  | .parseError startLine position error =>
      (if startLine ≠ position.line then s!"record on line {startLine}; " else "") ++
        s!"parse error on line {position.line}, column {position.column}: " ++ error.message

/-- `readAsCSV`. -/
def readAsCSV (val : String) : Except Err (List String) :=
  if val = "" then
    .ok []
  else
    match Csv.readRecord val.toList with
    | .error error => .error (.errorf error.message)
    | .ok fields => .ok (fields.map String.ofList)

/-- `writeAsCSV`. -/
def writeAsCSV (vals : List String) : String :=
  String.ofList (Csv.writeRecord (vals.map String.toList))

/-- `GetStringSlice`: the value is written and read again. -/
def getStringSlice (value : List String) : Except Err (List String) :=
  readAsCSV (writeAsCSV value)

end Values

section Parsing

def flagClusterName : String :=
  "cluster-name"

def flagCloudProviderControllers : String :=
  "controllers"

def flagDisableVmiController : String :=
  "disable-vmi-controller"

def flagDisableAnnotationAlphaProvidedIPAddr : String :=
  "disable-annotation-alpha-provided-ip-addr"

def flagShowFullHelpOnError : String :=
  "show-full-help-on-error"

/-- A flag of the framework that the provider does not read. -/
structure FrameworkFlag where
  name : String
  shorthand : Option Char := none
  /-- The value without an argument, when one is optional. -/
  noOptDefVal : String := ""
  /-- The errors of the values that are refused. -/
  set : String → Except Err Unit

/-- A flag by the type of its value. -/
inductive FlagTarget where
  | string (put : String → Flags → Flags)
  | bool (put : Bool → Flags → Flags)
  | stringSlice (get : Flags → List String) (put : List String → Flags → Flags)
  | framework (flag : FrameworkFlag)

/-- A registered flag. -/
structure FormalFlag where
  name : String
  target : FlagTarget

def FormalFlag.shorthand (flag : FormalFlag) : Option Char :=
  match flag.target with
  | .framework own => own.shorthand
  | _ => none

def FormalFlag.noOptDefVal (flag : FormalFlag) : String :=
  match flag.target with
  | .framework own => own.noOptDefVal
  | .bool _ => "true"
  | _ => ""

/-- The flags that the provider reads, in the order in which it logs them. -/
def providerFlags : List FormalFlag :=
  [⟨flagClusterName, .string fun value flags => { flags with clusterName := value }⟩,
    ⟨flagCloudProviderControllers,
      .stringSlice Flags.cloudProviderControllers fun value flags =>
        { flags with cloudProviderControllers := value }⟩,
    ⟨flagManagementNetwork,
      .string fun value flags => { flags with managementNetwork := value }⟩,
    ⟨flagNodeIPCIDR, .string fun value flags => { flags with nodeIPCIDR := value }⟩,
    ⟨flagNodeExcludeIPRanges,
      .stringSlice Flags.nodeExcludeIPRanges fun value flags =>
        { flags with nodeExcludeIPRanges := value }⟩,
    ⟨flagDisableAnnotationAlphaProvidedIPAddr,
      .bool fun value flags => { flags with disableAnnotationAlphaProvidedIPAddr := value }⟩,
    ⟨flagDisableVmiController,
      .bool fun value flags => { flags with disableVMIController := value }⟩,
    ⟨flagShowFullHelpOnError,
      .bool fun value flags => { flags with showFullHelpOnError := value }⟩]

/-- All registered flags. -/
def formalFlags (framework : List FrameworkFlag) : List FormalFlag :=
  providerFlags ++ framework.map fun flag => ⟨flag.name, .framework flag⟩

/-- The values of the flags while arguments are parsed. -/
structure FlagSet where
  flags : Flags :=
    { clusterName := defaultGuestClusterName, cloudProviderControllers := ["*"] }
  /-- The values that were set, the last one first. -/
  given : List (String × String) := []
  /-- The arguments that are no flags. -/
  args : List String := []

/-- `Set` of a value: a slice that was set before is extended. -/
def FlagTarget.set
    (target : FlagTarget)
    (changed : Bool)
    (value : String)
    (flags : Flags) :
    Except Err Flags :=
  match target with
  | .string put => .ok (put value flags)
  | .bool put => do
      let parsed ← parseBool value
      return put parsed flags
  | .stringSlice get put => do
      let parsed ← readAsCSV value
      return put (if changed then get flags ++ parsed else parsed) flags
  | .framework own => do
      own.set value
      return flags

/-- The flag as the errors name it. -/
def FormalFlag.display (flag : FormalFlag) : String :=
  match flag.shorthand with
  | some character => "-" ++ String.singleton character ++ ", --" ++ flag.name
  | none => "--" ++ flag.name

/-- `Set` of a flag. -/
def FlagSet.set (f : FlagSet) (flag : FormalFlag) (value : String) : Except Err FlagSet :=
  match flag.target.set (f.given.lookup flag.name).isSome value f.flags with
  | .error error =>
      .error (.wrap
        s!"invalid argument {quote value} for {quote flag.display} flag: " error)
  | .ok flags => .ok { f with flags := flags, given := (flag.name, value) :: f.given }

/-- A long flag in its two parts. -/
structure LongArg where
  name : String
  value : Option String

/-- Cut the text behind the dashes at the first equals sign. -/
def splitLongArg (text : List Char) : LongArg where
  name := String.ofList (text.takeWhile (· ≠ '='))
  value :=
    match text.dropWhile (· ≠ '=') with
    | [] => none
    | _ :: value => some (String.ofList value)

/-- A flag that takes the next argument as its value. -/
structure PendingFlag where
  flag : FormalFlag
  /-- The error when there is no next argument. -/
  valueRequired : Err

/-- `parseLongArg` of the text behind the dashes. -/
def parseLongArg
    (framework : List FrameworkFlag)
    (f : FlagSet)
    (text : List Char) :
    Except Err (FlagSet × Option PendingFlag) :=
  match text with
  | [] => .error (.errorf "bad flag syntax: --")
  | first :: _ =>
      if first = '-' ∨ first = '=' then
        .error (.errorf ("bad flag syntax: --" ++ String.ofList text))
      else
        let arg := splitLongArg text
        match (formalFlags framework).find? (·.name = arg.name) with
        | none =>
            if arg.name = "help" then
              .error (.errorf "pflag: help requested")
            else
              .error (.errorf ("unknown flag: --" ++ arg.name))
        | some flag =>
            match arg.value with
            | some value => do
                let set ← f.set flag value
                return (set, none)
            | none =>
                if flag.noOptDefVal ≠ "" then do
                  let set ← f.set flag flag.noOptDefVal
                  return (set, none)
                else
                  return (f,
                    some
                      { flag := flag
                        valueRequired := .errorf ("flag needs an argument: --" ++ arg.name) })

/-- The first byte of a character, which the errors name. -/
def leadingByte (character : Char) : Char :=
  Char.ofNat ((String.utf8EncodeChar character).headD 0).toNat

/-- `parseShortArg`: the letters behind the dash, one by one. -/
def parseShortArg (framework : List FrameworkFlag) :
    FlagSet → List Char → Except Err (FlagSet × Option PendingFlag)
  | f, [] => .ok (f, none)
  | f, character :: rest =>
      let quoted :=
        quoteRune (leadingByte character) ++ " in -" ++ String.ofList (character :: rest)
      if "test.".toList <+: character :: rest then
        .ok (f, none)
      else
        match (formalFlags framework).find? (·.shorthand = some character) with
        | none =>
            if character = 'h' then
              .error (.errorf "pflag: help requested")
            else
              .error (.errorf ("unknown shorthand flag: " ++ quoted))
        | some flag =>
            if 1 < rest.length ∧ rest.head? = some '=' then do
              let set ← f.set flag (String.ofList rest.tail)
              return (set, none)
            else if flag.noOptDefVal ≠ "" then do
              let set ← f.set flag flag.noOptDefVal
              parseShortArg framework set rest
            else if rest ≠ [] then do
              let set ← f.set flag (String.ofList rest)
              return (set, none)
            else
              return (f,
                some
                  { flag := flag
                    valueRequired := .errorf ("flag needs an argument: " ++ quoted) })

/--
`parseArgs`.  A flag that takes the next argument as its value is kept until that
argument comes.
-/
def parseArgs (framework : List FrameworkFlag) :
    FlagSet → Option PendingFlag → List String → Except Err FlagSet
  | f, none, [] => .ok f
  | _, some pending, [] => .error pending.valueRequired
  | f, some pending, value :: rest => do
      let set ← f.set pending.flag value
      parseArgs framework set none rest
  | f, none, s :: rest =>
      match s.toList with
      | dash :: second :: text =>
          if dash ≠ '-' then
            parseArgs framework { f with args := f.args ++ [s] } none rest
          else if second ≠ '-' then do
            let (set, pending) ← parseShortArg framework f (second :: text)
            parseArgs framework set pending rest
          else if text = [] then
            .ok { f with args := f.args ++ rest }
          else do
            let (set, pending) ← parseLongArg framework f text
            parseArgs framework set pending rest
      | _ => parseArgs framework { f with args := f.args ++ [s] } none rest

/-- `getStrSlice` of `SyncAndValidateHarvesterConfig`. -/
def getStrSlice (name : String) (value : List String) : Except Err (List String) :=
  match getStringSlice value with
  | .error error =>
      .error
        (.wrap s!"internal error: flag {quote name} not registered as stringSlice: " error)
  | .ok read => .ok read

/-- The values as the provider reads them. -/
def FlagSet.read (f : FlagSet) : Except Err Flags := do
  let nodeExcludeIPRanges ← getStrSlice flagNodeExcludeIPRanges f.flags.nodeExcludeIPRanges
  let cloudProviderControllers ←
    getStrSlice flagCloudProviderControllers f.flags.cloudProviderControllers
  return { f.flags with
    nodeExcludeIPRanges := nodeExcludeIPRanges
    cloudProviderControllers := cloudProviderControllers }

/-- Whether the help text is asked for. -/
def FlagSet.helpVal (f : FlagSet) : Bool :=
  match f.given.lookup "help" with
  | none => false
  | some value => (parseBool value).toOption = some true

/-- The command up to the point where the provider synchronises its configuration. -/
def readCommandLine
    (framework : List FrameworkFlag)
    (arguments : List String) :
    Except Err Flags := do
  let f ← parseArgs framework {} none arguments
  if f.helpVal then
    .error (.errorf "pflag: help requested")
  else if f.args.any (· ≠ "") then
    .error (.errorf
      (quote "cloud-controller-manager" ++ " does not take any arguments, got [" ++
        " ".intercalate (f.args.map quote) ++ "]"))
  else
    f.read

end Parsing

section Logging

/-- `GetNodeExcludeIPRangesCmdString`. -/
def Config.getNodeExcludeIPRangesCmdString (c : Config) : String :=
  if c.nodeExcludeIPRanges = [] then "" else ",".intercalate c.nodeExcludeIPRanges

/-- One flag with its value. -/
def flagText (name value : String) : String :=
  "--" ++ name ++ "=" ++ value

/-- The flags of `GetCurrentConfigString`. -/
def Config.currentFlags (cfg : Config) : List String :=
  [flagText flagClusterName cfg.clusterName,
    flagText flagCloudProviderControllers cfg.cloudProviderControllers,
    flagText flagManagementNetwork cfg.managementNetwork,
    flagText flagNodeIPCIDR cfg.nodeIPCIDR,
    flagText flagNodeExcludeIPRanges cfg.getNodeExcludeIPRangesCmdString,
    flagText flagDisableAnnotationAlphaProvidedIPAddr
      (toString cfg.disableAnnotationAlphaProvidedIPAddr),
    flagText flagDisableVmiController (toString cfg.disableVMIController),
    flagText flagShowFullHelpOnError (toString cfg.showFullHelpOnError)]

/-- `GetCurrentConfigString`. -/
def getCurrentConfigString (cfg : Config) : String :=
  " ".intercalate cfg.currentFlags

/-- A text cut at its blanks. -/
def words (text : String) : List String :=
  (text.toList.splitOn ' ').map String.ofList

end Logging

section Joins

variable {separator character : Char}
variable {fields : List (List Char)}

/-- A character of a field is one of the join. -/
theorem mem_intercalate_of_mem
    {field : List Char}
    (member : field ∈ fields)
    (inField : character ∈ field) :
    character ∈ [separator].intercalate fields := by
  induction fields with
  | nil =>
      cases member
  | cons first rest inductionHypothesis =>
      cases rest with
      | nil =>
          rw [List.mem_singleton] at member
          rwa [List.intercalate_singleton, ← member]
      | cons next later =>
          rw [List.intercalate_cons_cons]
          rcases List.mem_cons.mp member with rfl | member
          · exact List.mem_append_left _ (List.mem_append_left _ inField)
          · exact List.mem_append_right _ (inductionHypothesis member)

/-- A character of a join is the separator or one of a field. -/
theorem mem_of_mem_intercalate (member : character ∈ [separator].intercalate fields) :
    character = separator ∨ ∃ field ∈ fields, character ∈ field := by
  induction fields with
  | nil =>
      cases member
  | cons first rest inductionHypothesis =>
      cases rest with
      | nil =>
          rw [List.intercalate_singleton] at member
          exact .inr ⟨first, List.mem_cons_self, member⟩
      | cons next later =>
          rw [List.intercalate_cons_cons, List.mem_append, List.mem_append,
            List.mem_singleton] at member
          rcases member with (inFirst | same) | inRest
          · exact .inr ⟨first, List.mem_cons_self, inFirst⟩
          · exact .inl same
          · rcases inductionHypothesis inRest with same | ⟨field, inFields, inField⟩
            · exact .inl same
            · exact .inr ⟨field, List.mem_cons_of_mem _ inFields, inField⟩

end Joins

section Slices

/-- A text without quotes and line breaks is read as the parts between its commas. -/
theorem readAsCSV_unquoted
    {text : String}
    (nonempty : text ≠ "")
    (plain : ∀ character ∈ text.toList, character ∉ ['"', '\r', '\n']) :
    readAsCSV text = .ok (commaFields text) := by
  have absent : ∀ character ∈ ['"', '\r', '\n'], character ∉ text.toList :=
    fun character special member => plain character member special
  unfold readAsCSV
  rw [if_neg nonempty,
    Csv.readRecord_unquoted (fun empty => nonempty (String.toList_eq_nil_iff.mp empty))
      (absent _ (by decide)) (absent _ (by decide)) (absent _ (by decide))]
  rfl

/-- The value of a slice flag, as the provider reads it. -/
theorem getStringSlice_eq (value : List String) :
    getStringSlice value =
      .ok
        (if value = [""] then
          []
        else
          value.map fun part => String.ofList (Csv.unreturned part.toList)) := by
  have asFields :
      (value.map String.toList = [] ∨ value.map String.toList = [[]]) ↔
        (value = [] ∨ value = [""]) := by
    simp [List.map_eq_cons_iff]
  have written := Csv.writeRecord_eq_nil_iff (value.map String.toList)
  have read := Csv.readRecord_writeRecord (value.map String.toList)
  rw [asFields] at written
  simp only [asFields] at read
  unfold getStringSlice readAsCSV writeAsCSV
  rw [String.toList_ofList, read]
  by_cases nothing : value = [] ∨ value = [""]
  · rw [if_pos (by rw [written.mpr nothing])]
    rcases nothing with rfl | rfl <;> rfl
  · have something : String.ofList (Csv.writeRecord (value.map String.toList)) ≠ "" := by
      intro empty
      have texts := congrArg String.toList empty
      rw [String.toList_ofList] at texts
      exact nothing (written.mp texts)
    rw [if_neg something, if_neg nothing, if_neg (not_or.mp nothing).2]
    dsimp only
    rw [List.map_map, List.map_map]
    rfl

/-- A slice without line breaks that is not a single empty text is read as it was set. -/
theorem getStringSlice_plain
    {value : List String}
    (notBlank : value ≠ [""])
    (plain : ∀ part ∈ value, '\r' ∉ part.toList) :
    getStringSlice value = .ok value := by
  rw [getStringSlice_eq, if_neg notBlank]
  have same :
      ∀ part ∈ value, String.ofList (Csv.unreturned part.toList) = part := by
    intro part member
    rw [Csv.unreturned_eq_self (plain part member), String.ofList_toList]
  rw [List.map_congr_left same, List.map_id']

end Slices

section Restart

variable {framework : List FrameworkFlag}

/-- A registered name that ends at the equals sign. -/
structure IsFlagName (framework : List FrameworkFlag) (flag : FormalFlag) : Prop where
  formal : (formalFlags framework).find? (·.name = flag.name) = some flag
  noEquals : '=' ∉ flag.name.toList
  starts : ∃ first text, flag.name.toList = first :: text ∧ first ≠ '-' ∧ first ≠ '='

/-- A flag with a value sets the flag. -/
theorem parseArgs_flagText
    {flag : FormalFlag}
    (isName : IsFlagName framework flag)
    (value : String)
    (f : FlagSet)
    (rest : List String) :
    parseArgs framework f none (flagText flag.name value :: rest) =
      (f.set flag value >>= fun later => parseArgs framework later none rest) := by
  obtain ⟨first, text, nameText, noDash, noEquals⟩ := isName.starts
  have characters :
      (flagText flag.name value).toList =
        '-' :: '-' :: first :: (text ++ '=' :: value.toList) := by
    simp [flagText, nameText]
  have arg :
      splitLongArg (first :: (text ++ '=' :: value.toList)) =
        { name := flag.name, value := some value } := by
    have whole :
        first :: (text ++ '=' :: value.toList) = flag.name.toList ++ '=' :: value.toList := by
      rw [nameText]
      rfl
    have other : ∀ character ∈ flag.name.toList, (character ≠ '=') = true := by
      intro character member
      simp only [ne_eq, eq_iff_iff, iff_true]
      rintro rfl
      exact isName.noEquals member
    rw [splitLongArg, whole]
    rw [List.takeWhile_append_of_pos (by simpa using other),
      List.dropWhile_append_of_pos (by simpa using other)]
    simp
  have goesOn : first :: (text ++ '=' :: value.toList) ≠ [] := List.cons_ne_nil _ _
  rw [parseArgs, characters]
  dsimp only
  rw [if_neg (not_not.mpr rfl), if_neg (not_not.mpr rfl), if_neg goesOn, parseLongArg]
  dsimp only
  rw [if_neg (not_or.mpr ⟨noDash, noEquals⟩), arg]
  dsimp only
  rw [isName.formal]
  dsimp only
  cases f.set flag value <;> rfl

/-- The flags of the provider are registered. -/
theorem isFlagName_of_mem
    {flag : FormalFlag}
    (member : flag ∈ providerFlags) :
    IsFlagName framework flag := by
  simp only [providerFlags, List.mem_cons, List.not_mem_nil, or_false] at member
  rcases member with rfl | rfl | rfl | rfl | rfl | rfl | rfl | rfl
  all_goals
    exact
      { formal := rfl
        noEquals := by decide +kernel
        starts := ⟨_, _, rfl, by decide, by decide⟩ }

/-- Flags of the provider with values are set one after the other. -/
theorem parseArgs_settings
    {settings : List (FormalFlag × String)}
    (registered : ∀ setting ∈ settings, setting.1 ∈ providerFlags)
    (f : FlagSet) :
    parseArgs framework f none
        (settings.map fun setting => flagText setting.1.name setting.2) =
      settings.foldlM (fun f setting => f.set setting.1 setting.2) f := by
  induction settings generalizing f with
  | nil =>
      rfl
  | cons setting rest inductionHypothesis =>
      rw [List.forall_mem_cons] at registered
      rw [List.map_cons, parseArgs_flagText (isFlagName_of_mem registered.1), List.foldlM_cons]
      congr 1
      funext later
      exact inductionHypothesis registered.2 later

theorem parseBool_toString (value : Bool) : parseBool (toString value) = .ok value := by
  cases value <;> rfl

/-- The values of `GetCurrentConfigString`. -/
def Config.currentValues (cfg : Config) : List String :=
  [cfg.clusterName, cfg.cloudProviderControllers, cfg.managementNetwork, cfg.nodeIPCIDR,
    cfg.getNodeExcludeIPRangesCmdString, toString cfg.disableAnnotationAlphaProvidedIPAddr,
    toString cfg.disableVMIController, toString cfg.showFullHelpOnError]

theorem currentFlags_eq (cfg : Config) :
    cfg.currentFlags =
      (providerFlags.zip cfg.currentValues).map fun setting =>
        flagText setting.1.name setting.2 :=
  rfl

/-- The flags of a configuration set its values. -/
theorem parseArgs_currentFlags
    {cfg : Config}
    {controllers ranges : List String}
    (readControllers : readAsCSV cfg.cloudProviderControllers = .ok controllers)
    (readRanges : readAsCSV cfg.getNodeExcludeIPRangesCmdString = .ok ranges) :
    parseArgs framework {} none cfg.currentFlags =
      .ok
        { flags := { cfg.effectiveFlags controllers with nodeExcludeIPRanges := ranges }
          given := ((providerFlags.map FormalFlag.name).zip cfg.currentValues).reverse } := by
  have registered :
      ∀ setting ∈ providerFlags.zip cfg.currentValues, setting.1 ∈ providerFlags :=
    fun setting member => (List.of_mem_zip member).1
  rw [currentFlags_eq, parseArgs_settings registered]
  simp only [providerFlags, Config.currentValues, List.zip_cons_cons, List.zip_nil_right,
    List.foldlM_cons, List.foldlM_nil]
  simp only [FlagSet.set, FlagTarget.set, readControllers, readRanges, parseBool_toString]
  rfl

/-- A text of a slice without quotes and line breaks. -/
def IsPlainSlice (text : String) : Prop :=
  ∀ character ∈ text.toList, character ∉ ['"', '\r', '\n']

/-- The parts of a plain text are read, and read again as they are. -/
theorem readAsCSV_plain
    {text : String}
    (plain : IsPlainSlice text) :
    ∃ parts,
      readAsCSV text = .ok parts ∧
        getStringSlice parts = .ok parts ∧
        ",".intercalate parts = text := by
  by_cases empty : text = ""
  · subst empty
    exact ⟨[], rfl, by decide +kernel, rfl⟩
  · have joined : ",".intercalate (commaFields text) = text := by
      rw [← String.toList_inj, String.toList_intercalate, commaFields, List.map_map]
      have same : String.toList ∘ String.ofList = id := by
        funext characters
        exact String.toList_ofList
      rw [same, List.map_id]
      exact List.intercalate_splitOn ','
    refine ⟨commaFields text, readAsCSV_unquoted empty plain, ?_, joined⟩
    refine getStringSlice_plain ?_ ?_
    · intro blank
      rw [blank] at joined
      exact empty joined.symm
    · intro part member returned
      obtain ⟨characters, split, rfl⟩ := List.mem_map.mp member
      rw [String.toList_ofList] at returned
      have inText : '\r' ∈ text.toList := by
        rw [← @List.intercalate_splitOn _ text.toList _ _ ',']
        exact mem_intercalate_of_mem split returned
      exact plain '\r' inText (by decide)

/-- A range that is read as it is written. -/
def IsPlainRange (range : String) : Prop :=
  ∀ character ∈ range.toList, character ∉ [' ', ',', '"', '\r', '\n']

/-- The joined ranges are read as the ranges. -/
theorem readAsCSV_ranges
    {cfg : Config}
    (plain : ∀ range ∈ cfg.nodeExcludeIPRanges, IsPlainRange range)
    (nonempty : cfg.nodeExcludeIPRanges ≠ [""]) :
    readAsCSV cfg.getNodeExcludeIPRangesCmdString = .ok cfg.nodeExcludeIPRanges ∧
      getStringSlice cfg.nodeExcludeIPRanges = .ok cfg.nodeExcludeIPRanges := by
  have kept : getStringSlice cfg.nodeExcludeIPRanges = .ok cfg.nodeExcludeIPRanges :=
    getStringSlice_plain nonempty fun range member returned =>
      plain range member '\r' returned (by decide)
  refine ⟨?_, kept⟩
  unfold Config.getNodeExcludeIPRangesCmdString
  by_cases noRanges : cfg.nodeExcludeIPRanges = []
  · rw [if_pos noRanges, noRanges]
    rfl
  · have apart : ∀ range ∈ cfg.nodeExcludeIPRanges, ',' ∉ range.toList :=
      fun range member comma => plain range member ',' comma (by decide)
    have fields := commaFields_intercalate apart noRanges
    have present : ",".intercalate cfg.nodeExcludeIPRanges ≠ "" := by
      intro empty
      rw [empty] at fields
      exact nonempty fields.symm
    rw [if_neg noRanges, readAsCSV_unquoted present, fields]
    intro character member special
    rw [String.toList_intercalate] at member
    rcases mem_of_mem_intercalate member with rfl | ⟨field, inFields, inField⟩
    · exact absurd special (by decide)
    · obtain ⟨range, inRanges, rfl⟩ := List.mem_map.mp inFields
      exact plain range inRanges character inField
        (List.mem_cons_of_mem _ (List.mem_cons_of_mem _ special))

/-- A configuration whose texts stay whole when its flags are written and read. -/
structure Config.IsPlain (cfg : Config) : Prop where
  unbroken :
    ∀ text ∈ [cfg.clusterName, cfg.cloudProviderControllers, cfg.managementNetwork,
      cfg.nodeIPCIDR], ' ' ∉ text.toList
  controllers : IsPlainSlice cfg.cloudProviderControllers
  ranges : ∀ range ∈ cfg.nodeExcludeIPRanges, IsPlainRange range

theorem blank_notMem_toString (value : Bool) : ' ' ∉ (toString value).toList := by
  cases value <;> decide +kernel

/-- No value of a plain configuration holds a blank. -/
theorem blank_notMem_currentValues
    {cfg : Config}
    (plain : cfg.IsPlain) :
    ∀ value ∈ cfg.currentValues, ' ' ∉ value.toList := by
  have ranges : ' ' ∉ cfg.getNodeExcludeIPRangesCmdString.toList := by
    unfold Config.getNodeExcludeIPRangesCmdString
    split
    · exact List.not_mem_nil
    · intro member
      rw [String.toList_intercalate] at member
      rcases mem_of_mem_intercalate member with same | ⟨field, inFields, inField⟩
      · exact absurd same (by decide)
      · obtain ⟨range, inRanges, rfl⟩ := List.mem_map.mp inFields
        exact plain.ranges range inRanges ' ' inField (by decide)
  have texts := plain.unbroken
  simp only [List.forall_mem_cons, List.not_mem_nil, false_implies, implies_true,
    and_true] at texts
  obtain ⟨clusterName, controllers, network, cidr⟩ := texts
  simp only [Config.currentValues, List.forall_mem_cons, List.not_mem_nil, false_implies,
    implies_true, and_true]
  exact ⟨clusterName, controllers, network, cidr, ranges, blank_notMem_toString _,
    blank_notMem_toString _, blank_notMem_toString _⟩

/-- The logged text is cut into its flags. -/
theorem words_getCurrentConfigString
    {cfg : Config}
    (plain : cfg.IsPlain) :
    words (getCurrentConfigString cfg) = cfg.currentFlags := by
  have names : ∀ flag ∈ providerFlags, ' ' ∉ flag.name.toList := by
    decide +kernel
  have values := blank_notMem_currentValues plain
  have apart : ∀ text ∈ cfg.currentFlags, ' ' ∉ text.toList := by
    intro text member
    rw [currentFlags_eq] at member
    obtain ⟨setting, inSettings, rfl⟩ := List.mem_map.mp member
    obtain ⟨inFlags, inValues⟩ := List.of_mem_zip inSettings
    simp [flagText, names _ inFlags, values _ inValues]
  rw [words, getCurrentConfigString, String.toList_intercalate]
  have split :=
    @List.splitOn_intercalate _ (cfg.currentFlags.map String.toList) _ _ ' '
      (by simpa using apart) (List.cons_ne_nil _ _)
  change List.map String.ofList (([' '].intercalate _).splitOn ' ') = _
  rw [split, List.map_map]
  simp [Function.comp_def]

/-- Only the joined names of the controllers matter. -/
theorem syncAndValidateHarvesterConfig_controllers
    {controllers others : List String}
    (joined : ",".intercalate controllers = ",".intercalate others)
    (cfg : Config) :
    syncAndValidateHarvesterConfig (cfg.effectiveFlags controllers) =
      syncAndValidateHarvesterConfig (cfg.effectiveFlags others) := by
  have copied :
      copyFlags (cfg.effectiveFlags controllers) = copyFlags (cfg.effectiveFlags others) := by
    funext before
    simp only [copyFlags, Config.effectiveFlags, joined]
  rw [syncAndValidateHarvesterConfig, copied]
  rfl

/--
A provider that is started with the flags that another one has logged gets the
configuration of that one.
-/
theorem loggedConfig_restarts
    (framework : List FrameworkFlag)
    (flags : Flags)
    (start cfg : Config)
    (accepted : syncAndValidateHarvesterConfig flags start = (.ok (), cfg))
    (plain : cfg.IsPlain) :
    ∃ read,
      readCommandLine framework (words (getCurrentConfigString cfg)) = .ok read ∧
        ∀ other, syncAndValidateHarvesterConfig read other = (.ok (), cfg) := by
  obtain ⟨network, cleanRanges, excludePrefixes, -, -, scanned, final⟩ :=
    syncAndValidateHarvesterConfig_ok_iff.mp accepted
  have nonempty : cfg.nodeExcludeIPRanges ≠ [""] := by
    intro blank
    rw [final] at blank
    have fixed := scanNodeExcludeIPRanges_fixed scanned
    rw [show cleanRanges = [""] from blank] at fixed
    cases fixed
  obtain ⟨readRanges, keptRanges⟩ := readAsCSV_ranges plain.ranges nonempty
  obtain ⟨controllers, readControllers, keptControllers, joined⟩ :=
    readAsCSV_plain plain.controllers
  refine ⟨cfg.effectiveFlags controllers, ?_, ?_⟩
  · rw [words_getCurrentConfigString plain, readCommandLine,
      parseArgs_currentFlags readControllers readRanges]
    simp only [bind, Except.bind]
    have noHelp :
        (((providerFlags.map FormalFlag.name).zip cfg.currentValues).reverse).lookup "help" =
          none := rfl
    rw [if_neg (by rw [FlagSet.helpVal, noHelp]; exact Bool.false_ne_true),
      if_neg (by simp)]
    simp only [FlagSet.read, getStrSlice, Config.effectiveFlags, keptRanges, keptControllers]
    rfl
  · intro other
    have sameJoin :
        ",".intercalate controllers = ",".intercalate flags.cloudProviderControllers := by
      rw [joined, final]
      rfl
    rw [syncAndValidateHarvesterConfig_controllers sameJoin]
    exact syncAndValidateHarvesterConfig_fixed accepted other

/-- The flag for the help text. -/
def helpFlag : FrameworkFlag where
  name := "help"
  shorthand := some 'h'
  noOptDefVal := "true"
  set value := do
    let _ ← parseBool value

theorem quotedFlags_restart :
    ∃ read,
      readCommandLine [helpFlag] (words (getCurrentConfigString syncedConfig)) = .ok read ∧
        ∀ other, syncAndValidateHarvesterConfig read other = (.ok (), syncedConfig) := by
  have accepted : syncAndValidateHarvesterConfig quotedFlags {} = (.ok (), syncedConfig) := by
    rfl
  have plain : syncedConfig.IsPlain :=
    { unbroken := by decide +kernel
      controllers := by simp [IsPlainSlice, syncedConfig]
      ranges := by simp [IsPlainRange, syncedConfig] }
  exact loggedConfig_restarts [helpFlag] quotedFlags {} syncedConfig accepted plain

end Restart

end HarvesterCloudProvider
