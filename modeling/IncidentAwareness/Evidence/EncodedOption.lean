import IncidentAwareness.Evidence.Extractor
import IncidentAwareness.Lib.Shlex

/-!
# The encoded command option

The extractor looks for four spellings of `-EncodedCommand` among the tokens that
`shlex` gives. The tool that writes the scenarios has a rule of its own
(`is_encoded_option`): every prefix of the option, after `-` or `/`.

* `extractEvidence_encodedCommand`: what the extractor finds is an option by the
  rule, a spelling is found whatever follows it, and only a line that `shlex`
  refuses is passed over;
* `extractEvidence_slash`: the rule's `/` forms are not found.
-/

namespace IncidentAwareness.Evidence

open IncidentAwareness.Common IncidentAwareness.Lib

/-- `_ENCODED_OPTION`. -/
def encodedOption : String := "-encodedcommand"

/-- `_ENCODED_ALIAS`. -/
def encodedAlias : String := "-ec"

/-- `is_encoded_option`, where `lower` is `str.lower`. -/
def isEncodedOption (lower : String → String) (token : String) : Bool :=
  if token = "" then false
  else
    let value := dashed (lower token).toList
    if value = encodedAlias.toList then true
    else 2 ≤ value.length ∧ value <+: encodedOption.toList
where
  /-- A leading slash is read as a dash. -/
  dashed : List Char → List Char
    | '/' :: rest => '-' :: rest
    | value => value

/-- The extractor with the tokenizer of the standard library. -/
def ExtractorLibrary.withShlex (library : ExtractorLibrary) : ExtractorLibrary :=
  { library with shlexSplit := Lib.shlexSplit }

/-- The ASCII letters of a text in lower case. -/
def asciiLower (s : String) : String := String.ofList (s.toList.map Char.toLower)

/-- What is used of `str.casefold` and `str.lower`: they agree on ASCII text, and
only such text folds into an option's. -/
structure LowersOptions (casefold lower : String → String) : Prop where
  casefold_ascii : ∀ s : String, (∀ c ∈ s.toList, c.toNat < 128) → casefold s = asciiLower s
  lower_ascii : ∀ s : String, (∀ c ∈ s.toList, c.toNat < 128) → lower s = asciiLower s
  ascii_of_option : ∀ s, casefold s ∈ encodedCommandOptions → ∀ c ∈ s.toList, c.toNat < 128

variable {library : ExtractorLibrary} {tokens : List String} {option : String}

/-- A token that a predicate accepts stands before the script or command boundary. -/
def OptionBefore (library : ExtractorLibrary) (accepts : String → Prop) (tokens : List String) :
    Prop :=
  ∃ before token after, tokens = before ++ token :: after ∧
    (∀ t ∈ before, library.casefold (stripMatchingQuotes t) ∉ powershellCommandBoundaryOptions) ∧
    accepts (stripMatchingQuotes token)

/-- A spelling of the table. -/
def IsSpelling (library : ExtractorLibrary) (token : String) : Prop :=
  library.casefold token ∈ encodedCommandOptions

theorem notMem_boundaryOptions : ∀ option ∈ encodedCommandOptions,
    option ∉ powershellCommandBoundaryOptions := by
  decide

/-- The loop finds a spelling that stands before the boundary. -/
theorem encodedCommandOption_isSome_iff :
    (encodedCommandOption library tokens).isSome ↔
      OptionBefore library (IsSpelling library) tokens := by
  induction tokens with
  | nil =>
    refine ⟨fun h => absurd h Bool.false_ne_true, fun ⟨before, token, after, h, _⟩ => ?_⟩
    simp at h
  | cons token tokens ih =>
    rw [encodedCommandOption]
    by_cases hboundary : library.casefold (stripMatchingQuotes token) ∈
        powershellCommandBoundaryOptions
    · rw [if_pos hboundary]
      refine ⟨fun h => absurd h Bool.false_ne_true, fun ⟨before, option, after, h, hbefore, hoption⟩ => ?_⟩
      cases before with
      | nil =>
        obtain ⟨rfl, -⟩ := List.cons.inj h
        exact absurd hboundary (notMem_boundaryOptions _ hoption)
      | cons first before =>
        obtain ⟨rfl, -⟩ := List.cons.inj h
        exact absurd hboundary (hbefore _ List.mem_cons_self)
    rw [if_neg hboundary]
    by_cases hoption : library.casefold (stripMatchingQuotes token) ∈ encodedCommandOptions
    · rw [if_pos hoption]
      exact ⟨fun _ => ⟨[], token, tokens, rfl, List.forall_mem_nil _, hoption⟩, fun _ => rfl⟩
    rw [if_neg hoption, ih]
    refine ⟨fun ⟨before, option, after, h, hbefore, hspelling⟩ => ?_,
      fun ⟨before, option, after, h, hbefore, hspelling⟩ => ?_⟩
    · exact ⟨token :: before, option, after, congrArg (token :: ·) h,
        List.forall_mem_cons.mpr ⟨hboundary, hbefore⟩, hspelling⟩
    · cases before with
      | nil =>
        obtain ⟨rfl, -⟩ := List.cons.inj h
        exact absurd hspelling hoption
      | cons first before =>
        obtain ⟨rfl, htail⟩ := List.cons.inj h
        exact ⟨before, option, after, htail, (List.forall_mem_cons.mp hbefore).2, hspelling⟩

/-! ## Spellings are options -/

/-- No letter is lowered to a dash. -/
theorem toLower_eq_dash {c : Char} (h : c.toLower = '-') : c = '-' := by
  unfold Char.toLower at h
  split at h
  · rename_i hc
    have hval : c.val.toNat + 32 = 45 := by
      have hsum := congrArg (fun c : Char => c.val.toNat) h
      have hle := UInt32.le_iff_toNat_le.mp hc.2
      have h32 : ('a'.val - 'A'.val).toNat = 32 := by decide
      have h45 : '-'.val.toNat = 45 := by decide
      have h90 : 'Z'.val.toNat = 90 := by decide
      dsimp only at hsum
      rw [UInt32.toNat_add, h32, h45] at hsum
      omega
    have hge := UInt32.le_iff_toNat_le.mp hc.1
    have h65 : 'A'.val.toNat = 65 := by decide
    omega
  · exact h

theorem toNat_lt_of_toLower {c : Char} (h : c.toLower.toNat < 128) : c.toNat < 128 := by
  unfold Char.toLower at h
  split at h
  · rename_i hc
    have hle : c.toNat ≤ 'Z'.val.toNat := UInt32.le_iff_toNat_le.mp hc.2
    have h90 : 'Z'.val.toNat = 90 := by decide
    omega
  · exact h

theorem toList_asciiLower (s : String) : (asciiLower s).toList = s.toList.map Char.toLower :=
  String.toList_ofList

/-- The ASCII letters alone are lowered as `str.casefold` and `str.lower` do. -/
theorem lowersOptions_asciiLower : LowersOptions asciiLower asciiLower where
  casefold_ascii _ _ := rfl
  lower_ascii _ _ := rfl
  ascii_of_option s h c hc := by
    have hoptions : ∀ option ∈ encodedCommandOptions,
        (option.toList.all fun d => d.toNat < 128) = true := by decide
    have hmem : c.toLower ∈ (asciiLower s).toList := by
      rw [toList_asciiLower]
      exact List.mem_map_of_mem hc
    have hlower := List.all_eq_true.mp (hoptions _ h) _ hmem
    exact toNat_lt_of_toLower (of_decide_eq_true hlower)

/-- A spelling is an option by the rule of the tool, and begins with a dash. -/
theorem isEncodedOption_of_spelling {lower : String → String}
    (hcase : LowersOptions library.casefold lower) {token : String}
    (h : IsSpelling library token) :
    isEncodedOption lower token = true ∧ token.toList.head? = some '-' := by
  have hascii := hcase.ascii_of_option token h
  rw [IsSpelling, hcase.casefold_ascii token hascii] at h
  have hoption : ∀ option ∈ encodedCommandOptions, (if isEncodedOption.dashed option.toList =
        encodedAlias.toList then true
      else decide (2 ≤ (isEncodedOption.dashed option.toList).length ∧
        isEncodedOption.dashed option.toList <+: encodedOption.toList)) = true := by
    decide
  have hdash : ∀ option ∈ encodedCommandOptions, option.toList.head? = some '-' := by decide
  have hhead := hdash _ h
  rw [toList_asciiLower, List.head?_map] at hhead
  obtain ⟨c, hc, hlower⟩ := Option.map_eq_some_iff.mp hhead
  obtain rfl := toLower_eq_dash hlower
  refine ⟨?_, hc⟩
  have hne : token ≠ "" := by
    rintro rfl
    cases hc
  rw [isEncodedOption, if_neg hne, hcase.lower_ascii token hascii]
  exact hoption _ h

/-! ## The detection -/

/-- What the extractor looks for in a command line of PowerShell. -/
theorem encodedPowershellFeatures_isSome_iff {event : NormalizedEvent} {process : ProcessInfo}
    {name line : String} (hprocess : event.process = some process) (hname : process.name = some name)
    (hpowershell : library.casefold (String.ofList (strip name)) ∈ powershellProcessNames)
    (hline : process.commandLine = some line) :
    (encodedPowershellFeatures library event).isSome ↔
      ∃ tokens, library.shlexSplit line = some tokens ∧
        OptionBefore library (IsSpelling library) tokens := by
  have hnormalized : normalizedString library process.name =
      some (library.casefold (String.ofList (strip name))) := by
    rw [hname]
    rfl
  have hfeatures : (encodedPowershellFeatures library event).isSome =
      (findEncodedCommandOption library line).isSome := by
    rw [encodedPowershellFeatures, hprocess, Option.bind_eq_bind, Option.bind_some, hnormalized,
      Option.bind_eq_bind, Option.bind_some, guard, if_pos hpowershell, hline]
    change Option.isSome ((findEncodedCommandOption library line).bind _) = _
    cases findEncodedCommandOption library line with
    | none => rfl
    | some option => rfl
  rw [hfeatures, findEncodedCommandOption]
  cases hsplit : library.shlexSplit line with
  | none => simp
  | some tokens => simpa using encodedCommandOption_isSome_iff

/-- The Evidence of a process creation is the one of its encoded command. -/
theorem evidencesOf_processCreate {event : NormalizedEvent}
    (htype : event.eventType = "process_create") :
    (evidencesOf library event ≠ [] ↔ (encodedPowershellFeatures library event).isSome) ∧
      ∀ e ∈ evidencesOf library event, e.evidenceType = "encoded_powershell_command" := by
  have hrule : matchedRule library event =
      (encodedPowershellFeatures library event).map ("encoded_powershell_command", ·) :=
    if_pos htype
  rw [evidencesOf, hrule]
  cases encodedPowershellFeatures library event with
  | none => simp
  | some features =>
    refine ⟨by simp, fun e he => ?_⟩
    obtain rfl := List.mem_singleton.mp he
    rfl

/-- For a process of PowerShell, the extractor yields an Evidence of an encoded
command where a spelling stands before the boundary, whatever follows it, and
only where an option by the rule of the tool does, after a dash. It passes over
a line that `shlex` refuses. The tokens are the words of the line where none of
them begins with a quote. -/
theorem extractEvidence_encodedCommand {lower : String → String}
    (hcase : LowersOptions library.casefold lower) {event : NormalizedEvent}
    (hrun : event.runId ≠ "") (hhost : event.hostId ≠ "")
    (htype : event.eventType = "process_create") {process : ProcessInfo}
    (hprocess : event.process = some process) {name : String} (hname : process.name = some name)
    (hpowershell : library.casefold (String.ofList (strip name)) ∈ powershellProcessNames)
    {line : String} (hline : process.commandLine = some line) :
    ∃ evidences, extractEvidence library.withShlex event = .ok evidences ∧
      (∀ e ∈ evidences, e.evidenceType = "encoded_powershell_command") ∧
      (shlexSplit line = none → evidences = []) ∧
      (∀ tokens, shlexSplit line = some tokens →
        (OptionBefore library (IsSpelling library) tokens → evidences ≠ []) ∧
        (evidences ≠ [] → OptionBefore library
          (fun token => isEncodedOption lower token = true ∧ token.toList.head? = some '-')
          tokens)) ∧
      ((∀ w ∈ whitespaceTokens line.toList, ∀ c ∈ w.head?, c ∉ shlexQuotes) →
        shlexSplit line = some ((whitespaceTokens line.toList).map String.ofList)) := by
  obtain ⟨hne, htypes⟩ := @evidencesOf_processCreate library.withShlex _ htype
  have hfeatures := @encodedPowershellFeatures_isSome_iff library.withShlex _ _ _ _ hprocess hname
    hpowershell hline
  have hiff := hne.trans hfeatures
  refine ⟨_, extractEvidence_eq hrun hhost, htypes, fun hnone => ?_, fun tokens htokens => ⟨?_, ?_⟩,
    shlexSplit_of_plain⟩
  · refine not_not.mp fun h => ?_
    obtain ⟨tokens, htokens, -⟩ := hiff.mp h
    exact absurd (hnone.symm.trans htokens) (Option.some_ne_none tokens).symm
  · exact fun h => hiff.mpr ⟨tokens, htokens, h⟩
  · intro h
    obtain ⟨tokens', htokens', before, token, after, hsplit, hbefore, hspelling⟩ := hiff.mp h
    obtain rfl : tokens = tokens' := Option.some.inj (htokens.symm.trans htokens')
    exact ⟨before, token, after, hsplit, hbefore, isEncodedOption_of_spelling hcase hspelling⟩

namespace Sample

/-- A process of PowerShell with a command line. -/
def pwsh (commandLine : String) : NormalizedEvent where
  eventId := "evt-encoded"
  runId := "run-1"
  timestamp := 1000
  timestampSource := .eventTime
  eventTime := some 1000
  hostId := "WIN-01"
  source := "sysmon"
  sourceLayer := .rawTelemetry
  sourceEventId := "153"
  eventType := "process_create"
  rawRef :=
    { rawLogId := "log-1", segmentNo := 1, recordNo := 1
      segmentNo_pos := Nat.one_pos
      recordNo_pos := Nat.one_pos }
  process := some { name := some "pwsh.exe", commandLine := some commandLine }

/-- `uuid5` on the one identity that the samples have. -/
def sampleLibrary : ExtractorLibrary where
  casefold := asciiLower
  shlexSplit := shlexSplit
  ipAddress _ := none
  uuid5 _ := "c4b53d42-0a2a-59b3-950f-dc4854edb363"

end Sample

open Sample

/-- A spelling behind an apostrophe is found. -/
theorem extractEvidence_encodedCommand_apostrophe :
    ∃ evidences, extractEvidence sampleLibrary.withShlex
      (pwsh "pwsh.exe don't -EncodedCommand SQBFAFgA") = .ok evidences ∧ evidences ≠ [] := by
  have hsplit : shlexSplit "pwsh.exe don't -EncodedCommand SQBFAFgA" =
      some ["pwsh.exe", "don't", "-EncodedCommand", "SQBFAFgA"] := by rfl
  obtain ⟨evidences, hextract, -, -, hfound, -⟩ := extractEvidence_encodedCommand
    (show LowersOptions sampleLibrary.casefold asciiLower from lowersOptions_asciiLower)
    (show (pwsh "pwsh.exe don't -EncodedCommand SQBFAFgA").runId ≠ "" by decide) (by decide) rfl rfl
    rfl (by decide) rfl
  refine ⟨evidences, hextract, (hfound _ hsplit).1 ⟨["pwsh.exe", "don't"], _, _, rfl, ?_, ?_⟩⟩
  · decide
  · show _ ∈ _
    decide

/-- The rule of the tool accepts a slash, and the extractor does not. -/
theorem extractEvidence_slash :
    ¬ ((∃ e, extractEvidence sampleLibrary.withShlex (pwsh "pwsh.exe /enc SQBFAFgA") = .ok [e]) ↔
      OptionBefore sampleLibrary (fun token => isEncodedOption asciiLower token = true)
        ((whitespaceTokens "pwsh.exe /enc SQBFAFgA".toList).map String.ofList)) := by
  have hnone : extractEvidence sampleLibrary.withShlex (pwsh "pwsh.exe /enc SQBFAFgA") = .ok [] := by
    rfl
  have hoption : OptionBefore sampleLibrary (fun token => isEncodedOption asciiLower token = true)
      ((whitespaceTokens "pwsh.exe /enc SQBFAFgA".toList).map String.ofList) :=
    ⟨["pwsh.exe"], "/enc", ["SQBFAFgA"], by rfl, by decide, by decide⟩
  intro h
  obtain ⟨e, he⟩ := h.mpr hoption
  exact absurd (Except.ok.inj (hnone.symm.trans he)) (List.cons_ne_nil e []).symm

end IncidentAwareness.Evidence
