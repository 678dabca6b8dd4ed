/-
This file proves what a connection string makes of the options of a client. It is read exactly if all of
its hosts are addresses and all parameters that stand for an option have a value that the option can
have. Then the hosts are these addresses, and every option has the last value that is given for it, or
else its default. So nothing that stands in front of an at sign or behind a slash counts, nor does a
parameter that stands for no option, nor the order of parameters with different names.

What is given is said apart from how it is read: the hosts and the parameters of a text, the values that
numbers and truths can have, and the options that a list of parameters settles. Reading is shown to take
the parameters over one by one, and each step to settle what the parameters up to it settle.
-/

import DocumentDriver.Options.ConnectionString
import DocumentDriver.Proofs.Document.Written
import DocumentDriver.Proofs.Text.Split
import Mathlib.Data.List.Forall2
import Mathlib.Data.List.Nodup

namespace DocumentDriver

namespace ConnectionString

/-! ### What a connection string gives -/

/-- A connection string: the scheme, an authority, and perhaps a query. -/
def written (authority : String) : Option String → String
  | none => "mongodb://" ++ authority
  | some query => "mongodb://" ++ authority ++ "?" ++ query

/-- The texts between the commas of the hosts that are not empty. The hosts stand in front of the first
slash, and there behind the last at sign. -/
def hostsOf (authority : String) : List String :=
  let hosts := (authority.toList.takeWhile (· != '/')).rtakeWhile (· != '@')
  ((hosts.splitOn ',').filter (!·.isEmpty)).map String.ofList

/-- What stands before and behind the first equals sign, if there is one. -/
def parameter? (piece : List Char) : Option (String × String) :=
  if '=' ∈ piece then
    some (String.ofList (piece.takeWhile (· != '=')),
      String.ofList (piece.dropWhile (· != '=')).tail)
  else none

/-- The parameters of a query, with their names and values. -/
def parametersOf (query : Option String) : List (String × String) :=
  (((query.getD "").toList).splitOn '&').filterMap parameter?

/-- The number that a text stands for: decimal digits, perhaps behind a plus sign, for a number of 64
bits. -/
def decimal? (text : String) : Option Nat :=
  let digits := if text.toList.head? = some '+' then text.toList.tail else text.toList
  let number := Nat.ofDigitChars 10 digits 0
  if digits ≠ [] ∧ digits.all Char.isDigit ∧ number < 2 ^ 64 then some number else none

/-- The truth that a text stands for. -/
def truth? (text : String) : Option Bool :=
  if text = "true" then some true else if text = "false" then some false else none

/-- The names in a list of names. -/
def listed (text : String) : List String :=
  ((text.toList.splitOn ',').filter (!·.isEmpty)).map String.ofList

/-- The names of the parameters whose value is a number. -/
def numberNames : List String :=
  ["heartbeatfrequencyms", "serverselectiontimeoutms", "localthresholdms", "connecttimeoutms",
    "maxmessagesizebytes"]

/-- Capitals do not count in the name of a parameter. -/
def isNamed (name : String) (parameter : String × String) : Bool :=
  parameter.1.toLower = name

/-- The parameter stands for an option. -/
def isRecognized (parameter : String × String) : Bool :=
  parameter.1.toLower ∈
    numberNames ++ ["replicaset", "directconnection", "appname", "compressors"]

/-- The option that the parameter stands for, if any, can have its value. -/
structure IsWellFormed (parameter : String × String) : Prop where
  number : parameter.1.toLower ∈ numberNames → (decimal? parameter.2).isSome
  truth : isNamed "directconnection" parameter → (truth? parameter.2).isSome

/-- The value of the last parameter with a name. -/
def last? (name : String) (parameters : List (String × String)) : Option String :=
  (parameters.filter (isNamed name)).getLast?.map Prod.snd

/-- The options with some hosts that parameters settle: every option has the last value that is given
for it, or else its default. -/
def settled (hosts : List ServerAddress) (parameters : List (String × String)) : ClientOptions where
  hosts := hosts
  replicaSet := last? "replicaset" parameters
  directConnection := (last? "directconnection" parameters).bind truth?
  heartbeatFrequency := ((last? "heartbeatfrequencyms" parameters).bind decimal?).getD 10000
  minHeartbeatFrequency := 500
  serverSelectionTimeout := ((last? "serverselectiontimeoutms" parameters).bind decimal?).getD 30000
  localThreshold := ((last? "localthresholdms" parameters).bind decimal?).getD 15
  connectTimeout := ((last? "connecttimeoutms" parameters).bind decimal?).getD 10000
  appName := last? "appname" parameters
  maxMessageSize := ((last? "maxmessagesizebytes" parameters).bind decimal?).getD 48000000
  compressors := ((last? "compressors" parameters).map listed).getD []

/-! ### Reading values -/

theorem number?_eq_decimal? (value : List Char) :
    Split.number? maxNumber value = decimal? (String.ofList value) := by
  have read (digits : List Char) : (if digits.isEmpty then none
      else (Split.digits? 0 digits).filter (· ≤ maxNumber)) =
      if digits ≠ [] ∧ digits.all Char.isDigit ∧ Nat.ofDigitChars 10 digits 0 < 2 ^ 64 then
        some (Nat.ofDigitChars 10 digits 0)
      else none := by
    have bound (number : Nat) : number ≤ maxNumber ↔ number < 2 ^ 64 := by
      rw [maxNumber]
      omega
    rw [Split.digits?_eq_if]
    by_cases empty : digits = []
    · rw [if_pos (List.isEmpty_iff.2 empty), if_neg fun right => right.1 empty]
    rw [if_neg (mt List.isEmpty_iff.1 empty)]
    by_cases valid : digits.all Char.isDigit = true
    · rw [if_pos valid, Option.filter_some]
      refine if_congr ?_ rfl rfl
      rw [decide_eq_true_iff, bound, and_iff_right empty, and_iff_right valid]
    · rw [if_neg valid, Option.filter_none, if_neg fun right => valid right.2.1]
  unfold decimal?
  rw [String.toList_ofList]
  by_cases signed : value.head? = some '+'
  · obtain ⟨rest, rfl⟩ := List.head?_eq_some_iff.1 signed
    rw [if_pos signed]
    exact read rest
  · rw [if_neg signed, Split.number?_of_unsigned maxNumber signed]
    exact read value

theorem number_eq_ok_iff {key value : List Char} {number : Nat} :
    ConnectionString.number key value = .ok number ↔
      decimal? (String.ofList value) = some number := by
  rw [ConnectionString.number, number?_eq_decimal?]
  cases decimal? (String.ofList value) <;> simp

theorem truth_eq_ok_iff {key value : List Char} {truth : Bool} :
    ConnectionString.truth key value = .ok truth ↔ truth? (String.ofList value) = some truth := by
  unfold ConnectionString.truth truth?
  split
  · next yes => simp [yes]
  · next no => simp [no]
  · next yes no =>
    rw [if_neg yes, if_neg no]
    exact iff_of_false (by simp) (by simp)

theorem names_eq_listed (value : List Char) : names value = listed (String.ofList value) := by
  rw [names, listed, String.toList_ofList, Split.all_eq_splitOn]

theorem ofList_lower (text : String) : String.ofList (Split.lower text.toList) = text.toLower := by
  rw [← String.toList_inj, Split.toList_toLower, String.toList_ofList]

/-! ### Parameter by parameter -/

/-- A parameter is taken into the options. -/
def take (options : ClientOptions) (parameter : String × String) : Except Error ClientOptions :=
  apply options (parameter.1.toList, parameter.2.toList)

theorem last?_concat (name : String) (parameters : List (String × String))
    (parameter : String × String) :
    last? name (parameters ++ [parameter]) =
      if parameter.1.toLower = name then some parameter.2 else last? name parameters := by
  unfold last?
  rw [List.filter_append]
  by_cases named : parameter.1.toLower = name
  · simp [isNamed, named]
  · simp [isNamed, named]

theorem isWellFormed_iff_of_number {parameter : String × String}
    (named : parameter.1.toLower ∈ numberNames) :
    IsWellFormed parameter ↔ (decimal? parameter.2).isSome := by
  refine ⟨fun wellFormed => wellFormed.number named, fun read => ⟨fun _ => read, fun truth => ?_⟩⟩
  rw [isNamed, decide_eq_true_iff] at truth
  exact absurd (truth ▸ named) (by decide)

theorem isWellFormed_iff_of_truth {parameter : String × String}
    (named : parameter.1.toLower = "directconnection") :
    IsWellFormed parameter ↔ (truth? parameter.2).isSome := by
  refine ⟨fun wellFormed => wellFormed.truth (decide_eq_true named), fun read => ⟨?_, fun _ => read⟩⟩
  exact fun number => absurd (named ▸ number) (by decide)

theorem isWellFormed_of_other {parameter : String × String}
    (number : parameter.1.toLower ∉ numberNames)
    (truth : parameter.1.toLower ≠ "directconnection") : IsWellFormed parameter :=
  ⟨fun named => absurd named number, fun named => absurd (of_decide_eq_true named) truth⟩

/-- A number that can be read is taken over, and nothing else can go wrong. -/
theorem bind_number_eq_ok_iff {key value : String} (named : key.toLower ∈ numberNames)
    (default : Nat) {change : Nat → ClientOptions} {options : ClientOptions} :
    (ConnectionString.number key.toList value.toList >>= fun number => .ok (change number)) =
        .ok options ↔
      IsWellFormed (key, value) ∧ change ((decimal? value).getD default) = options := by
  rw [isWellFormed_iff_of_number named]
  simp only [bind_eq_ok_iff, number_eq_ok_iff, String.ofList_toList]
  cases decimal? value <;> simp

theorem bind_truth_eq_ok_iff {key value : String} (named : key.toLower = "directconnection")
    (change : Option Bool → ClientOptions) {options : ClientOptions} :
    (ConnectionString.truth key.toList value.toList >>= fun truth => .ok (change (some truth))) =
        .ok options ↔
      IsWellFormed (key, value) ∧ change (truth? value) = options := by
  rw [isWellFormed_iff_of_truth named]
  simp only [bind_eq_ok_iff, truth_eq_ok_iff, String.ofList_toList]
  cases truth? value <;> simp

/-- A parameter with any other value cannot fail. -/
theorem ok_eq_ok_iff_of_other {key value : String} {changed options : ClientOptions}
    (number : key.toLower ∉ numberNames) (truth : key.toLower ≠ "directconnection") :
    (Except.ok changed : Except Error ClientOptions) = .ok options ↔
      IsWellFormed (key, value) ∧ changed = options := by
  rw [Except.ok.injEq, and_iff_right (isWellFormed_of_other number truth)]

/-- One more parameter settles what all parameters up to it settle. -/
theorem take_settled_eq_ok_iff {hosts : List ServerAddress} {before : List (String × String)}
    {parameter : String × String} {options : ClientOptions} :
    take (settled hosts before) parameter = .ok options ↔
      IsWellFormed parameter ∧ settled hosts (before ++ [parameter]) = options := by
  obtain ⟨key, value⟩ := parameter
  unfold take apply
  dsimp only
  rw [ofList_lower]
  -- Each name changes one option. A number that cannot be read would settle the default of its
  -- option, but then the parameter is not well formed, and nothing is taken over.
  split
  · next named =>
    have after : settled hosts (before ++ [(key, value)]) =
        { settled hosts before with replicaSet := some value } := by
      simp [settled, last?_concat, named]
    rw [after, String.ofList_toList]
    exact ok_eq_ok_iff_of_other (named ▸ by decide) (named ▸ by decide)
  · next named =>
    have after : settled hosts (before ++ [(key, value)]) =
        { settled hosts before with directConnection := truth? value } := by
      simp [settled, last?_concat, named]
    rw [after]
    exact bind_truth_eq_ok_iff named fun truth =>
      { settled hosts before with directConnection := truth }
  · next named =>
    have after : settled hosts (before ++ [(key, value)]) =
        { settled hosts before with heartbeatFrequency := (decimal? value).getD 10000 } := by
      simp [settled, last?_concat, named]
    rw [after]
    exact bind_number_eq_ok_iff (named ▸ by decide) 10000
  · next named =>
    have after : settled hosts (before ++ [(key, value)]) =
        { settled hosts before with serverSelectionTimeout := (decimal? value).getD 30000 } := by
      simp [settled, last?_concat, named]
    rw [after]
    exact bind_number_eq_ok_iff (named ▸ by decide) 30000
  · next named =>
    have after : settled hosts (before ++ [(key, value)]) =
        { settled hosts before with localThreshold := (decimal? value).getD 15 } := by
      simp [settled, last?_concat, named]
    rw [after]
    exact bind_number_eq_ok_iff (named ▸ by decide) 15
  · next named =>
    have after : settled hosts (before ++ [(key, value)]) =
        { settled hosts before with connectTimeout := (decimal? value).getD 10000 } := by
      simp [settled, last?_concat, named]
    rw [after]
    exact bind_number_eq_ok_iff (named ▸ by decide) 10000
  · next named =>
    have after : settled hosts (before ++ [(key, value)]) =
        { settled hosts before with appName := some value } := by
      simp [settled, last?_concat, named]
    rw [after, String.ofList_toList]
    exact ok_eq_ok_iff_of_other (named ▸ by decide) (named ▸ by decide)
  · next named =>
    have after : settled hosts (before ++ [(key, value)]) =
        { settled hosts before with maxMessageSize := (decimal? value).getD 48000000 } := by
      simp [settled, last?_concat, named]
    rw [after]
    exact bind_number_eq_ok_iff (named ▸ by decide) 48000000
  · next named =>
    have after : settled hosts (before ++ [(key, value)]) =
        { settled hosts before with compressors := listed value } := by
      simp [settled, last?_concat, named]
    rw [after, names_eq_listed, String.ofList_toList]
    exact ok_eq_ok_iff_of_other (named ▸ by decide) (named ▸ by decide)
  · have after : settled hosts (before ++ [(key, value)]) = settled hosts before := by
      simp_all [settled, last?_concat]
    rw [after]
    exact ok_eq_ok_iff_of_other (by simp_all [numberNames]) ‹_›

/-- Parameters that are taken over one by one settle what all of them settle. -/
theorem foldlM_take_eq_ok_iff {hosts : List ServerAddress} {parameters : List (String × String)}
    {options : ClientOptions} :
    parameters.foldlM take (settled hosts []) = .ok options ↔
      (∀ parameter ∈ parameters, IsWellFormed parameter) ∧ settled hosts parameters = options := by
  induction parameters using List.reverseRecOn generalizing options with
  | nil =>
    rw [and_iff_right (List.forall_mem_nil _)]
    exact ⟨Except.ok.inj, congrArg Except.ok⟩
  | append_singleton before parameter inductionHypothesis =>
    rw [List.foldlM_append, bind_eq_ok_iff]
    simp only [inductionHypothesis, List.foldlM_cons, List.foldlM_nil, bind_pure,
      List.forall_mem_append, List.forall_mem_singleton]
    constructor
    · rintro ⟨_, ⟨wellFormed, rfl⟩, taken⟩
      obtain ⟨last, same⟩ := take_settled_eq_ok_iff.1 taken
      exact ⟨⟨wellFormed, last⟩, same⟩
    · rintro ⟨⟨wellFormed, last⟩, same⟩
      exact ⟨_, ⟨wellFormed, rfl⟩, take_settled_eq_ok_iff.2 ⟨last, same⟩⟩

/-- A parameter that stands for no option is passed over. -/
theorem take_of_unrecognized {parameter : String × String}
    (unrecognized : isRecognized parameter = false) (options : ClientOptions) :
    take options parameter = .ok options := by
  obtain ⟨key, value⟩ := parameter
  rw [isRecognized, decide_eq_false_iff_not] at unrecognized
  unfold take apply
  dsimp only
  rw [ofList_lower]
  split <;> simp_all [numberNames]

theorem foldlM_take_filter (parameters : List (String × String)) (options : ClientOptions) :
    (parameters.filter isRecognized).foldlM take options = parameters.foldlM take options := by
  induction parameters generalizing options with
  | nil => rfl
  | cons parameter rest inductionHypothesis =>
    by_cases recognized : isRecognized parameter = true
    · rw [List.filter_cons_of_pos recognized, List.foldlM_cons, List.foldlM_cons]
      exact bind_congr inductionHypothesis
    · rw [List.filter_cons_of_neg recognized, List.foldlM_cons,
        take_of_unrecognized (Bool.eq_false_iff.2 recognized), inductionHypothesis]
      rfl

/-! ### The parts of a connection string -/

theorem strip?_append (front text : List Char) : strip? front (front ++ text) = some text := by
  induction front with
  | nil => cases text <;> rfl
  | cons first rest inductionHypothesis =>
    rw [List.cons_append, strip?, if_pos (beq_self_eq_true first), inductionHypothesis]

theorem toList_written (authority : String) (query : Option String) :
    (written authority query).toList =
      scheme ++ (authority.toList ++ (query.map fun text => '?' :: text.toList).getD []) := by
  cases query with
  | none =>
    rw [written, String.toList_append, Option.map_none, Option.getD_none, List.append_nil]
    rfl
  | some query =>
    rw [written, String.toList_append, String.toList_append, String.toList_append,
      List.append_assoc, List.append_assoc]
    rfl

theorem splitQuery_written {authority : String} (inFront : '?' ∉ authority.toList)
    (query : Option String) :
    splitQuery (authority.toList ++ (query.map fun text => '?' :: text.toList).getD []) =
      (authority.toList, (query.getD "").toList) := by
  rw [splitQuery]
  cases query with
  | none =>
    rw [Option.map_none, Option.getD_none, List.append_nil, Split.first?_eq_none_iff.2 inFront]
    rfl
  | some query =>
    rw [Option.map_some, Option.getD_some, Split.first?_append inFront]
    rfl

theorem match_last?_eq_rtakeWhile (text : List Char) :
    (match Split.last? '@' text with
      | some (_, hosts) => hosts
      | none => text) = text.rtakeWhile (· != '@') := by
  split
  · next found =>
    obtain ⟨rfl, absent⟩ := Split.last?_eq_some_iff.1 found
    rw [Split.rtakeWhile_append_separator, Split.rtakeWhile_of_notMem absent]
  · next absent => rw [Split.rtakeWhile_of_notMem (Split.last?_eq_none_iff.1 absent)]

theorem hostPart_eq (text : List Char) :
    hostPart text = (text.takeWhile (· != '/')).rtakeWhile (· != '@') := by
  unfold hostPart
  cases slash : Split.first? '/' text with
  | none =>
    rw [Split.takeWhile_of_notMem (Split.first?_eq_none_iff.1 slash)]
    exact match_last?_eq_rtakeWhile text
  | some parts =>
    obtain ⟨before, after⟩ := parts
    obtain ⟨rfl, absent⟩ := Split.first?_eq_some_iff.1 slash
    rw [Split.takeWhile_append_separator, Split.takeWhile_of_notMem absent]
    exact match_last?_eq_rtakeWhile before

theorem map_hostTexts (authority : String) :
    (hostTexts authority.toList).map String.ofList = hostsOf authority := by
  rw [hostTexts, hostsOf, hostPart_eq, Split.all_eq_splitOn]

theorem map_first? (piece : List Char) :
    (Split.first? '=' piece).map (Prod.map String.ofList String.ofList) = parameter? piece := by
  rw [parameter?]
  cases cut : Split.first? '=' piece with
  | none => rw [if_neg (Split.first?_eq_none_iff.1 cut), Option.map_none]
  | some parts =>
    obtain ⟨key, value⟩ := parts
    obtain ⟨rfl, absent⟩ := Split.first?_eq_some_iff.1 cut
    have front : ∀ one ∈ key, (one != '=') = true :=
      fun one member => bne_iff_ne.2 fun same => absent (same ▸ member)
    rw [if_pos (by simp), Split.takeWhile_append_separator, Split.takeWhile_of_notMem absent,
      List.dropWhile_append_of_pos front, List.dropWhile_cons_of_neg (by simp), List.tail_cons]
    rfl

theorem map_parameters (query : Option String) :
    (parameters (query.getD "").toList).map (Prod.map String.ofList String.ofList) =
      parametersOf query := by
  rw [parameters, parametersOf, Split.all_eq_splitOn, List.map_filterMap]
  exact List.filterMap_congr fun piece _ => map_first? piece

theorem addresses_eq_mapM (texts : List (List Char)) :
    addresses texts = (texts.map String.ofList).mapM ServerAddress.parse := by
  rw [List.mapM_map, addresses]
  refine congrArg (List.mapM · texts) (funext fun text => ?_)
  rw [Function.comp_apply, ServerAddress.parse, String.toList_ofList]

/-- A connection string is read host by host and parameter by parameter. -/
theorem parse_written {authority : String} (inFront : '?' ∉ authority.toList)
    (query : Option String) :
    parse (written authority query) =
      (hostsOf authority).mapM ServerAddress.parse >>= fun hosts =>
        (parametersOf query).foldlM take (settled hosts []) := by
  rw [parse, parseChars, toList_written, strip?_append]
  dsimp only
  rw [splitQuery_written inFront, addresses_eq_mapM, map_hostTexts]
  refine bind_congr fun hosts => ?_
  have step (options : ClientOptions) (parameter : List Char × List Char) :
      take options (parameter.map String.ofList String.ofList) = apply options parameter := by
    simp [take]
  rw [← map_parameters, List.foldlM_map]
  simp only [step]
  rfl

/-! ### What is read -/

/-- Each of some items is read, and these are the results. -/
theorem mapM_eq_ok_iff {Item Result : Type} {read : Item → Except Error Result} {items : List Item}
    {results : List Result} :
    items.mapM read = .ok results ↔
      List.Forall₂ (fun item result => read item = .ok result) items results := by
  induction items generalizing results with
  | nil =>
    rw [List.mapM_nil, List.forall₂_nil_left_iff]
    exact ⟨fun same => (Except.ok.inj same).symm, fun same => same ▸ rfl⟩
  | cons item rest inductionHypothesis =>
    simp only [List.mapM_cons, bind_eq_ok_iff, inductionHypothesis, List.forall₂_cons_left_iff]
    constructor
    · rintro ⟨result, read, others, each, same⟩
      exact ⟨result, others, read, each, (Except.ok.inj same).symm⟩
    · rintro ⟨result, others, read, each, rfl⟩
      exact ⟨result, read, others, each, rfl⟩

theorem exists_mapM_eq_ok_iff {Item Result : Type} {read : Item → Except Error Result}
    {items : List Item} :
    (∃ results, items.mapM read = .ok results) ↔
      ∀ item ∈ items, ∃ result, read item = .ok result := by
  induction items with
  | nil => exact iff_of_true ⟨[], rfl⟩ (List.forall_mem_nil _)
  | cons item rest inductionHypothesis =>
    rw [List.forall_mem_cons, ← inductionHypothesis]
    simp only [mapM_eq_ok_iff, List.forall₂_cons_left_iff]
    constructor
    · rintro ⟨_, result, others, read, each, -⟩
      exact ⟨⟨result, read⟩, others, each⟩
    · rintro ⟨⟨result, read⟩, others, each⟩
      exact ⟨_, result, others, read, each, rfl⟩

section

variable {authority : String} (inFront : '?' ∉ authority.toList)

include inFront

/-- What is read from a connection string: the addresses of its hosts, and what its parameters settle. -/
theorem parse_eq_ok_iff {query : Option String} {options : ClientOptions} :
    parse (written authority query) = .ok options ↔
      (∀ parameter ∈ parametersOf query, IsWellFormed parameter) ∧
        (hostsOf authority).mapM ServerAddress.parse = .ok options.hosts ∧
        settled options.hosts (parametersOf query) = options := by
  rw [parse_written inFront]
  simp only [bind_eq_ok_iff, foldlM_take_eq_ok_iff]
  constructor
  · rintro ⟨hosts, read, wellFormed, rfl⟩
    exact ⟨wellFormed, read, rfl⟩
  · rintro ⟨wellFormed, read, same⟩
    exact ⟨_, read, wellFormed, same⟩

theorem exists_parse_iff {query : Option String} :
    (∃ options, parse (written authority query) = .ok options) ↔
      (∀ host ∈ hostsOf authority, ∃ address, ServerAddress.parse host = .ok address) ∧
        ∀ parameter ∈ parametersOf query, IsWellFormed parameter := by
  simp only [parse_eq_ok_iff inFront, ← exists_mapM_eq_ok_iff]
  constructor
  · rintro ⟨options, wellFormed, read, -⟩
    exact ⟨⟨_, read⟩, wellFormed⟩
  · rintro ⟨⟨hosts, read⟩, wellFormed⟩
    exact ⟨settled hosts (parametersOf query), wellFormed, read, rfl⟩

/-- Only the hosts of an authority count. -/
theorem parse_eq_of_hosts {other : String} (also : '?' ∉ other.toList)
    (same : hostsOf other = hostsOf authority) (query : Option String) :
    parse (written other query) = parse (written authority query) := by
  rw [parse_written also, parse_written inFront, same]

/-- Only the parameters that stand for an option count. -/
theorem parse_eq_of_recognized {query other : Option String}
    (same : (parametersOf other).filter isRecognized = (parametersOf query).filter isRecognized) :
    parse (written authority other) = parse (written authority query) := by
  rw [parse_written inFront, parse_written inFront]
  refine bind_congr fun hosts => ?_
  rw [← foldlM_take_filter, same, foldlM_take_filter]

end

theorem hostsOf_behind_at (user authority : String) (outside : '/' ∉ user.toList) :
    hostsOf (user ++ "@" ++ authority) = hostsOf authority := by
  have shape : (user ++ "@" ++ authority).toList = user.toList ++ '@' :: authority.toList := by
    simp
  have front : ∀ one ∈ user.toList, (one != '/') = true :=
    fun one member => bne_iff_ne.2 fun same => outside (same ▸ member)
  rw [hostsOf, shape, List.takeWhile_append_of_pos front, List.takeWhile_cons_of_pos (by decide),
    Split.rtakeWhile_append_separator, hostsOf]

theorem hostsOf_before_slash (authority database : String) :
    hostsOf (authority ++ "/" ++ database) = hostsOf authority := by
  have shape : (authority ++ "/" ++ database).toList =
      authority.toList ++ '/' :: database.toList := by
    simp
  rw [hostsOf, shape, Split.takeWhile_append_separator, hostsOf]

/-- Of parameters with different names, the order does not matter. -/
theorem last?_eq_of_perm {left right : List (String × String)} (same : left.Perm right)
    (distinct : (left.map (·.1.toLower)).Nodup) (name : String) :
    last? name left = last? name right := by
  have all (parameters : List (String × String)) : parameters.Pairwise fun _ _ => True :=
    List.pairwise_of_forall fun _ _ => trivial
  have one : left.filter (isNamed name) = right.filter (isNamed name) := by
    refine List.Perm.eq_of_pairwise (fun first second here there _ _ => ?_) (all _) (all _)
      (same.filter _)
    obtain ⟨here, named⟩ := List.mem_filter.1 here
    obtain ⟨there, also⟩ := List.mem_filter.1 there
    refine List.inj_on_of_nodup_map distinct here (same.mem_iff.2 there) ?_
    exact (of_decide_eq_true named).trans (of_decide_eq_true also).symm
  rw [last?, one, last?]

theorem settled_eq_of_perm {left right : List (String × String)} (same : left.Perm right)
    (distinct : (left.map (·.1.toLower)).Nodup) (hosts : List ServerAddress) :
    settled hosts left = settled hosts right := by
  simp only [settled, last?_eq_of_perm same distinct]

theorem toOption_eq_of_iff {Result : Type} {left right : Except Error Result}
    (same : ∀ result, left = .ok result ↔ right = .ok result) : left.toOption = right.toOption := by
  cases left with
  | ok result => rw [(same result).1 rfl]
  | error problem =>
    cases right with
    | ok result => exact absurd ((same result).2 rfl) (by simp)
    | error other => rfl

/-- A connection string is read exactly if its hosts are addresses and its parameters are well formed,
and then as these addresses and what the last parameter with each name says. Credentials in front of the
hosts, a database behind them and parameters that stand for no option change nothing, nor does the order
of parameters with different names, except that of several errors another one may be reported. -/
theorem last_parameters_count (authority : String) (query : Option String)
    (inFront : '?' ∉ authority.toList) :
    ((∃ options, parse (written authority query) = .ok options) ↔
      (∀ host ∈ hostsOf authority, ∃ address, ServerAddress.parse host = .ok address) ∧
        ∀ parameter ∈ parametersOf query, IsWellFormed parameter) ∧
    (∀ options, parse (written authority query) = .ok options →
      List.Forall₂ (fun host address => ServerAddress.parse host = .ok address)
        (hostsOf authority) options.hosts ∧
      options = settled options.hosts (parametersOf query)) ∧
    (∀ user : String, '?' ∉ user.toList → '/' ∉ user.toList →
      parse (written (user ++ "@" ++ authority) query) = parse (written authority query)) ∧
    (∀ database : String, '?' ∉ database.toList →
      parse (written (authority ++ "/" ++ database) query) = parse (written authority query)) ∧
    ∀ other : Option String,
      ((parametersOf other).filter isRecognized = (parametersOf query).filter isRecognized →
        parse (written authority other) = parse (written authority query)) ∧
      ((parametersOf query).Perm (parametersOf other) →
        ((parametersOf query).map (·.1.toLower)).Nodup →
        (parse (written authority query)).toOption = (parse (written authority other)).toOption) := by
  refine ⟨exists_parse_iff inFront, fun options read => ?_, fun user noMark noSlash => ?_,
    fun database noMark => ?_, fun other => ⟨parse_eq_of_recognized inFront, fun same distinct => ?_⟩⟩
  · obtain ⟨-, hosts, settles⟩ := (parse_eq_ok_iff inFront).1 read
    exact ⟨mapM_eq_ok_iff.1 hosts, settles.symm⟩
  · exact parse_eq_of_hosts inFront (by simp [noMark, inFront])
      (hostsOf_behind_at user authority noSlash) query
  · exact parse_eq_of_hosts inFront (by simp [noMark, inFront])
      (hostsOf_before_slash authority database) query
  · refine toOption_eq_of_iff fun options => ?_
    rw [parse_eq_ok_iff inFront, parse_eq_ok_iff inFront, settled_eq_of_perm same distinct]
    simp only [same.mem_iff]

theorem last_parameters_count_credentials :
    let query := some "replicaSet=rs0&localThresholdMS=+30"
    let options : ClientOptions :=
      { hosts := [⟨"a", 1⟩, ⟨"b", 27017⟩], replicaSet := some "rs0", localThreshold := 30 }
    '?' ∉ "A:1,b".toList ∧ parse (written "A:1,b" query) = .ok options ∧
      options = settled options.hosts (parametersOf query) ∧
      parse (written ("me:p@w" ++ "@" ++ "A:1,b") query) = .ok options ∧
      parse (written ("A:1,b" ++ "/" ++ "db") query) = .ok options ∧
      parse (written "A:1,b" (some "tls=no&replicaSet=rs0&flag&localThresholdMS=+30")) =
        .ok options ∧
      (parse (written "A:1,b" (some "localThresholdMS=+30&replicaSet=rs0"))).toOption =
        some options := by
  intro query options
  have inFront : '?' ∉ "A:1,b".toList := by decide +kernel
  have read : parse (written "A:1,b" query) = .ok options := by decide +kernel
  obtain ⟨-, settles, credentials, database, parameters⟩ :=
    last_parameters_count "A:1,b" query inFront
  have passed := (parameters (some "tls=no&replicaSet=rs0&flag&localThresholdMS=+30")).1
    (by decide +kernel)
  have permuted := (parameters (some "localThresholdMS=+30&replicaSet=rs0")).2
    (by decide +kernel) (by decide +kernel)
  refine ⟨inFront, read, (settles options read).2, ?_, ?_, passed.trans read, ?_⟩
  · exact (credentials "me:p@w" (by decide +kernel) (by decide +kernel)).trans read
  · exact (database "db" (by decide +kernel)).trans read
  · rw [← permuted, read]
    rfl

end ConnectionString

end DocumentDriver
