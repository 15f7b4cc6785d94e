import IncidentAwareness.Collection.R1Lineage
import IncidentAwareness.Lib.Decimal

/-!
# The lineage of a raw capture, in every order of its lines

The verdict on a capture does not show the order in which its records stand.
The position of a record (`recordNo`) is the one thing that a permutation of the
lines changes, and the checks never read it: each is first shown to be the same
on records without their positions (`unnumbered`), then on permuted ones.

* `buildProcessTree_perm`: the tree is refused for the same keys, in the same text;
* `resolveFrom_congr`: the walk is the same wherever the lookups agree;
* `selectConnections_perm`: the connections come in one order, as the sort key
  tells apart whatever differs in more than the position;
* `decimalInt_le_of_rank_le`: that order is the one of the numbers, for RecordIds
  of any length;
* `verifyR1Lineage_orderFree`: the report, what it accepts, and the order.
-/

namespace IncidentAwareness.Collection

open IncidentAwareness.Common IncidentAwareness.Lib

variable {pyInt : String → Option Int} {casefold : String → String} {jsonlName : String}

/-! ## Records without their positions -/

/-- A process creation without its position. -/
def ProcessRecord.unnumbered (process : ProcessRecord) : ProcessRecord :=
  { process with recordNo := 0 }

/-- A connection without its position. -/
def ConnectionRecord.unnumbered (connection : ConnectionRecord) : ConnectionRecord :=
  { connection with recordNo := 0 }

/-- A row without its position. -/
def LineageRow.unnumbered : LineageRow → LineageRow
  | .other => .other
  | .process record => .process record.unnumbered
  | .connection record => .connection record.unnumbered

/-- The records of the lines, numbered from 1. -/
def numbered (l : List PyDict) : List SysmonJsonlRecord := (l.zipIdx 1).map fun p => ⟨p.2, p.1⟩

theorem map_data_numbered (l : List PyDict) : (numbered l).map (·.data) = l := by
  rw [numbered, List.map_map]
  exact List.zipIdx_map_fst 1 l

theorem numbered_eq_nil_iff {l : List PyDict} : numbered l = [] ↔ l = [] := by
  rw [numbered, List.map_eq_nil_iff, List.zipIdx_eq_nil_iff]

theorem length_numbered (l : List PyDict) : (numbered l).length = l.length := by
  rw [numbered, List.length_map, List.length_zipIdx]

/-- A row shows the position of its record nowhere else. -/
theorem readLineageRow_unnumbered (recordNo : Nat) (data : PyDict) :
    (readLineageRow pyInt ⟨recordNo, data⟩).map LineageRow.unnumbered =
      readLineageRow pyInt ⟨0, data⟩ := by
  unfold readLineageRow
  dsimp only
  split
  · rfl
  · split
    · rfl
    · split
      · rfl
      · rfl
      · split
        · rfl
        · split
          · rfl
          · rfl

/-- The records of the lines, all in one position. -/
def unplaced (l : List PyDict) : List SysmonJsonlRecord := l.map (SysmonJsonlRecord.mk 0)

theorem map_unplaced_numbered (l : List PyDict) :
    (numbered l).map (fun record => SysmonJsonlRecord.mk 0 record.data) = unplaced l := by
  have hdata := congrArg (List.map (SysmonJsonlRecord.mk 0)) (map_data_numbered l)
  rwa [List.map_map] at hdata

theorem map_unnumbered_processesOf (l : List PyDict) :
    (processesOf pyInt (numbered l)).map ProcessRecord.unnumbered =
      processesOf pyInt (unplaced l) := by
  rw [processesOf, processesOf, List.map_filterMap, ← map_unplaced_numbered, List.filterMap_map]
  refine List.filterMap_congr fun record _ => ?_
  have hrow := @readLineageRow_unnumbered pyInt record.recordNo record.data
  rw [Function.comp_apply, ← hrow]
  cases readLineageRow pyInt record with
  | error fault => rfl
  | ok row =>
    cases row with
    | other => rfl
    | process process => rfl
    | connection connection => rfl

theorem map_unnumbered_connectionsOf (l : List PyDict) :
    (connectionsOf pyInt (numbered l)).map ConnectionRecord.unnumbered =
      connectionsOf pyInt (unplaced l) := by
  rw [connectionsOf, connectionsOf, List.map_filterMap, ← map_unplaced_numbered, List.filterMap_map]
  refine List.filterMap_congr fun record _ => ?_
  have hrow := @readLineageRow_unnumbered pyInt record.recordNo record.data
  rw [Function.comp_apply, ← hrow]
  cases readLineageRow pyInt record with
  | error fault => rfl
  | ok row =>
    cases row with
    | other => rfl
    | process process => rfl
    | connection connection => rfl

/-- A record that is no process creation or connection, or is one of a host and a
process. -/
structure IsIdentifiable (pyInt : String → Option Int) (data : PyDict) : Prop where
  eventId : (rawEventId pyInt data).isSome
  host : ∀ eventId ∈ rawEventId pyInt data,
    eventId = sysmonProcessCreateEventId ∨ eventId = sysmonNetworkConnectionEventId →
      (statedString data "Computer").isSome
  processGuid : ∀ eventId ∈ rawEventId pyInt data,
    eventId = sysmonProcessCreateEventId ∨ eventId = sysmonNetworkConnectionEventId →
      ∃ eventData, (data.get "EventData").dict? = some eventData ∧
        (statedString eventData "ProcessGuid").isSome

/-- The loop finds no fault in an identifiable record. -/
theorem IsIdentifiable.exists_row {record : SysmonJsonlRecord}
    (h : IsIdentifiable pyInt record.data) : ∃ row, readLineageRow pyInt record = .ok row := by
  obtain ⟨heventId, hhost, hguid⟩ := h
  obtain ⟨eventId, heventId⟩ := Option.isSome_iff_exists.mp heventId
  rw [readLineageRow, heventId]
  dsimp only
  by_cases hother : eventId ≠ sysmonProcessCreateEventId ∧ eventId ≠ sysmonNetworkConnectionEventId
  · exact ⟨.other, if_pos hother⟩
  rw [if_neg hother]
  rw [not_and_or, not_not, not_not] at hother
  obtain ⟨host, hhost⟩ := Option.isSome_iff_exists.mp (hhost eventId heventId hother)
  obtain ⟨eventData, heventData, hguid⟩ := hguid eventId heventId hother
  obtain ⟨processGuid, hguid⟩ := Option.isSome_iff_exists.mp hguid
  rw [hhost, heventData]
  dsimp only
  rw [hguid]
  dsimp only
  split
  · exact ⟨_, rfl⟩
  · exact ⟨_, rfl⟩

/-- Whether a record has a row is a matter of its data. -/
theorem exists_row_iff {record : SysmonJsonlRecord} :
    (∃ row, readLineageRow pyInt record = .ok row) ↔
      ∃ row, readLineageRow pyInt ⟨0, record.data⟩ = .ok row := by
  have hrow := @readLineageRow_unnumbered pyInt record.recordNo record.data
  rw [← hrow]
  cases readLineageRow pyInt record with
  | error fault => simp [Except.map]
  | ok row => simp [Except.map]

/-- The loop finds no fault where every record has a row. -/
theorem faultsOf_eq_nil_iff {l : List PyDict} : faultsOf pyInt jsonlName (numbered l) = [] ↔
    ∀ data ∈ l, ∃ row, readLineageRow pyInt ⟨0, data⟩ = .ok row := by
  have hrecords : faultsOf pyInt jsonlName (numbered l) = [] ↔
      ∀ record ∈ numbered l, ∃ row, readLineageRow pyInt record = .ok row := by
    rw [faultsOf, List.filterMap_eq_nil_iff]
    refine forall₂_congr fun record _ => ?_
    cases readLineageRow pyInt record with
    | error fault => simp
    | ok row => simp
  have hdata : ∀ data, data ∈ l ↔ ∃ record ∈ numbered l, record.data = data := fun data => by
    rw [← List.mem_map, map_data_numbered]
  rw [hrecords]
  refine ⟨fun h data hmem => ?_, fun h record hmem => ?_⟩
  · obtain ⟨record, hrecord, rfl⟩ := (hdata data).mp hmem
    exact exists_row_iff.mp (h record hrecord)
  · exact exists_row_iff.mpr (h record.data ((hdata _).mpr ⟨record, hmem, rfl⟩))

/-- Whether there is a fault does not show the order. -/
theorem faultsOf_perm {l l' : List PyDict} (h : l.Perm l') :
    faultsOf pyInt jsonlName (numbered l) = [] ↔ faultsOf pyInt jsonlName (numbered l') = [] := by
  rw [faultsOf_eq_nil_iff, faultsOf_eq_nil_iff]
  exact forall_congr' fun data => imp_congr_left h.mem_iff

/-! ## The tree -/

variable {processes processes' tree tree' : List ProcessRecord} {duplicates : List ProcessKey}

/-- Records of keys of their own are all kept. -/
theorem foldl_addProcess_of_nodup (h : ((tree ++ processes).map (·.key)).Nodup) :
    processes.foldl addProcess (tree, duplicates) = (tree ++ processes, duplicates) := by
  induction processes generalizing tree with
  | nil => rw [List.foldl_nil, List.append_nil]
  | cons process processes ih =>
    have hnew : process.key ∉ tree.map (·.key) := by
      rw [List.map_append, List.nodup_append] at h
      exact fun hmem => h.2.2 _ hmem _ List.mem_cons_self rfl
    rw [List.append_cons] at h
    rw [List.foldl_cons, addProcess, if_neg hnew, ih h, ← List.append_cons]

/-- The duplicates are the keys of several records. -/
theorem mem_foldl_addProcess (htree : (tree.map (·.key)).Nodup) (key : ProcessKey) :
    key ∈ (processes.foldl addProcess (tree, duplicates)).2 ↔
      key ∈ duplicates ∨ 1 < ((tree ++ processes).map (·.key)).count key := by
  induction processes generalizing tree duplicates with
  | nil =>
    have hone : (tree.map (·.key)).count key ≤ 1 := List.nodup_iff_count_le_one.mp htree key
    rw [List.foldl_nil, List.append_nil]
    exact ⟨.inl, fun h => h.resolve_right (Nat.not_lt.mpr hone)⟩
  | cons process processes ih =>
    rw [List.foldl_cons, addProcess]
    split
    · rename_i hmem
      rw [ih htree, List.mem_insert_iff]
      have hpos : 0 < (tree.map (·.key)).count process.key := List.count_pos_iff.mpr hmem
      rw [List.map_append, List.map_append, List.map_cons, List.count_append, List.count_append,
        List.count_cons]
      by_cases hkey : process.key = key
      · rw [hkey] at hpos
        rw [if_pos (beq_iff_eq.mpr hkey)]
        exact ⟨fun _ => .inr (by omega), fun _ => .inl (.inl hkey.symm)⟩
      · rw [if_neg (mt beq_iff_eq.mp hkey), Nat.add_zero, or_assoc]
        exact or_iff_right (Ne.symm hkey)
    · rename_i hnew
      rw [ih, List.append_assoc, List.singleton_append]
      rw [List.map_append, List.map_singleton]
      exact List.nodup_append.mpr ⟨htree, List.nodup_singleton _, fun a ha b hb hab => by
        rw [List.mem_singleton.mp hb] at hab
        exact hnew (hab ▸ ha)⟩

theorem mem_duplicates {key : ProcessKey} : key ∈ (processes.foldl addProcess ([], [])).2 ↔
    1 < (processes.map (·.key)).count key := by
  have hmem := @mem_foldl_addProcess processes [] []
    (show (([] : List ProcessRecord).map (·.key)).Nodup from List.nodup_nil) key
  rw [hmem, List.nil_append]
  exact or_iff_right List.not_mem_nil

theorem foldl_addProcess_nodup (h : duplicates.Nodup) :
    (processes.foldl addProcess (tree, duplicates)).2.Nodup := by
  induction processes generalizing tree duplicates with
  | nil => exact h
  | cons process processes ih =>
    rw [List.foldl_cons, addProcess]
    split
    · exact ih h.insert
    · exact ih h

/-- Keys of their own make the tree, of all records. -/
theorem buildProcessTree_of_nodup (h : (processes.map (·.key)).Nodup) :
    buildProcessTree processes = (some processes,
      [.passed (toString processes.length ++
        " EID 1 record(s) are unique per host and ProcessGuid")]) := by
  rw [buildProcessTree, foldl_addProcess_of_nodup (by rwa [List.nil_append])]
  rfl

/-- A key of several records refuses it. -/
theorem buildProcessTree_of_not_nodup (h : ¬ (processes.map (·.key)).Nodup) :
    buildProcessTree processes = (none,
      (sortedBy ProcessKey.sortKey (processes.foldl addProcess ([], [])).2).map fun key =>
        .fail ("duplicate EID 1 for the same host and ProcessGuid, so the lineage through it " ++
          "is ambiguous: host=" ++ key.host ++ " ProcessGuid=" ++ key.processGuid)) := by
  obtain ⟨key, hkey⟩ := not_forall.mp (mt List.nodup_iff_count_le_one.mpr h)
  have hne : (processes.foldl addProcess ([], [])).2 ≠ [] :=
    List.ne_nil_of_mem (mem_duplicates.mpr (Nat.not_le.mp hkey))
  rw [buildProcessTree]
  exact if_pos hne

theorem ProcessKey.sortKey_injective : Function.Injective ProcessKey.sortKey := by
  intro a b h
  have hpair : (a.host, a.processGuid) = (b.host, b.processGuid) := toLex.injective h
  obtain ⟨hhost, hguid⟩ := Prod.mk.inj hpair
  cases a
  cases b
  rw [ProcessKey.mk.injEq]
  exact ⟨hhost, hguid⟩

/-- Of one set of keys the duplicates are reported in one order. -/
theorem sortedBy_duplicates_eq (h : (processes.map (·.key)).Perm (processes'.map (·.key))) :
    sortedBy ProcessKey.sortKey (processes.foldl addProcess ([], [])).2 =
      sortedBy ProcessKey.sortKey (processes'.foldl addProcess ([], [])).2 := by
  refine sortedBy_eq_of_mem_iff (fun a _ b _ hab => ProcessKey.sortKey_injective hab)
    (foldl_addProcess_nodup List.nodup_nil) (foldl_addProcess_nodup List.nodup_nil) fun key => ?_
  rw [mem_duplicates, mem_duplicates, h.count_eq]

/-! ## The walk -/

/-- A chain without the positions of its records. -/
def LineageChain.unnumbered (chain : LineageChain) : LineageChain :=
  { chain with nodes := chain.nodes.map ProcessRecord.unnumbered }

theorem processOf_unnumbered (key : ProcessKey) :
    (processOf tree key).map ProcessRecord.unnumbered =
      processOf (tree.map ProcessRecord.unnumbered) key := by
  rw [processOf, processOf, List.find?_map]
  rfl

/-- Records of keys of their own are looked up alike in every order. -/
theorem processOf_perm (hkeys : (tree.map (·.key)).Nodup)
    (h : (tree.map ProcessRecord.unnumbered).Perm (tree'.map ProcessRecord.unnumbered))
    (key : ProcessKey) : (processOf tree key).map ProcessRecord.unnumbered =
      (processOf tree' key).map ProcessRecord.unnumbered := by
  have hnodup : ((tree.map ProcessRecord.unnumbered).map (·.key)).Nodup := by
    rw [List.map_map]
    exact hkeys
  rw [processOf_unnumbered, processOf_unnumbered]
  refine find?_eq_of_perm (fun a ha b hb hka hkb => ?_) h
  exact List.inj_on_of_nodup_map hnodup ha hb
    ((of_decide_eq_true hka).trans (of_decide_eq_true hkb).symm)

/-- The walk is the same wherever the lookups agree. -/
theorem resolveFrom_congr
    (hlookup : ∀ key, (processOf tree key).map ProcessRecord.unnumbered =
      (processOf tree' key).map ProcessRecord.unnumbered)
    (current : ProcessRecord) (hcurrent : current ∈ tree) (seen : List ProcessKey)
    (nodes : List ProcessRecord) (current' : ProcessRecord) (hcurrent' : current' ∈ tree')
    (nodes' : List ProcessRecord) (hsame : current.unnumbered = current'.unnumbered)
    (hnodes : nodes.map ProcessRecord.unnumbered = nodes'.map ProcessRecord.unnumbered) :
    (resolveFrom tree current hcurrent seen nodes).unnumbered =
      (resolveFrom tree' current' hcurrent' seen nodes').unnumbered := by
  have hnext : (nodes ++ [current]).map ProcessRecord.unnumbered =
      (nodes' ++ [current']).map ProcessRecord.unnumbered := by
    rw [List.map_append, List.map_append, hnodes, List.map_singleton, List.map_singleton, hsame]
  obtain ⟨key, parentProcessGuid, image, recordId, recordNo, timeCreated, eventUtcTime⟩ := current
  obtain ⟨key', parentProcessGuid', image', recordId', recordNo', timeCreated', eventUtcTime'⟩ :=
    current'
  obtain ⟨rfl, rfl, rfl, rfl, -, rfl, rfl⟩ := ProcessRecord.mk.inj hsame
  rw [resolveFrom, resolveFrom]
  dsimp only
  split
  · rw [LineageChain.unnumbered, LineageChain.unnumbered, hnodes]
  · rename_i hseen
    split
    · rw [LineageChain.unnumbered, LineageChain.unnumbered, hnext]
    · rename_i parentGuid
      split
      · rw [LineageChain.unnumbered, LineageChain.unnumbered, hnext]
      · have hlook := hlookup ⟨key.host, parentGuid.1⟩
        split
        · rename_i hnone
          rw [hnone] at hlook
          split
          · rw [LineageChain.unnumbered, LineageChain.unnumbered, hnext]
          · rename_i parent' hsome
            rw [hsome] at hlook
            cases hlook
        · rename_i parent hsome
          rw [hsome] at hlook
          split
          · rename_i hnone
            rw [hnone] at hlook
            cases hlook
          · rename_i parent' hsome'
            rw [hsome'] at hlook
            exact resolveFrom_congr hlookup parent _ _ _ parent' _ _ (Option.some.inj hlook) hnext
termination_by (tree.filter fun process => process.key ∉ seen).length
decreasing_by exact unseenProcesses_lt hcurrent ‹_›

/-! ## The order of the connections -/

variable {connections connections' linked linked' : List ConnectionRecord} {key : ProcessKey}

theorem orEmpty_injective : Function.Injective orEmpty := by
  intro a b h
  cases a with
  | none =>
    cases b with
    | none => rfl
    | some t => exact absurd h.symm t.2
  | some s =>
    cases b with
    | none => exact absurd h s.2
    | some t => exact congrArg some (Subtype.ext h)

/-- The RecordId that a rank is of. -/
def textOfRank (rank : ℕ ×ₗ ℕ ×ₗ String ×ₗ String) : Option String :=
  if (ofLex rank).1 = 0 then some (ofLex (ofLex (ofLex rank).2).2).2
  else if (ofLex rank).1 = 1 then some (ofLex (ofLex (ofLex rank).2).2).1
  else none

theorem textOfRank_recordIdRank (recordId : Option StatedText) :
    textOfRank (recordIdRank recordId) = recordId.map Subtype.val := by
  cases recordId with
  | none => rfl
  | some recordId =>
    rw [recordIdRank]
    split
    · rfl
    · rfl

theorem recordIdRank_injective : Function.Injective recordIdRank := by
  intro a b h
  have htext := congrArg textOfRank h
  rw [textOfRank_recordIdRank, textOfRank_recordIdRank] at htext
  exact Option.map_injective Subtype.val_injective htext

/-- The sort key shows everything of a connection but its process and position. -/
theorem unnumbered_eq_of_sortKey {a b : ConnectionRecord} (hkey : a.key = b.key)
    (h : connectionSortKey a = connectionSortKey b) : a.unnumbered = b.unnumbered := by
  have hfields := Prod.mk.inj (toLex.injective h)
  obtain ⟨hrecordId, h⟩ := hfields
  obtain ⟨himage, h⟩ := Prod.mk.inj (toLex.injective h)
  obtain ⟨hdestinationIp, h⟩ := Prod.mk.inj (toLex.injective h)
  obtain ⟨hdestinationPort, h⟩ := Prod.mk.inj (toLex.injective h)
  obtain ⟨hprotocol, h⟩ := Prod.mk.inj (toLex.injective h)
  obtain ⟨hsourceIp, h⟩ := Prod.mk.inj (toLex.injective h)
  obtain ⟨hsourcePort, h⟩ := Prod.mk.inj (toLex.injective h)
  obtain ⟨htimeCreated, heventUtcTime⟩ := Prod.mk.inj (toLex.injective h)
  rw [ConnectionRecord.unnumbered, ConnectionRecord.unnumbered, hkey,
    recordIdRank_injective hrecordId, orEmpty_injective himage, orEmpty_injective hdestinationIp,
    orEmpty_injective hdestinationPort, orEmpty_injective hprotocol, orEmpty_injective hsourceIp,
    orEmpty_injective hsourcePort, orEmpty_injective htimeCreated, orEmpty_injective heventUtcTime]

theorem map_unnumbered_selectConnections :
    (selectConnections connections key).map ConnectionRecord.unnumbered =
      selectConnections (connections.map ConnectionRecord.unnumbered) key := by
  rw [selectConnections, selectConnections, List.filter_map, sortedBy, sortedBy]
  exact List.map_insertionSort _ _ _ _ fun _ _ _ _ => Iff.rfl

/-- The connections of a process come in one order, up to their positions. -/
theorem selectConnections_perm
    (h : (connections.map ConnectionRecord.unnumbered).Perm
      (connections'.map ConnectionRecord.unnumbered)) :
    (selectConnections connections key).map ConnectionRecord.unnumbered =
      (selectConnections connections' key).map ConnectionRecord.unnumbered := by
  rw [map_unnumbered_selectConnections, map_unnumbered_selectConnections]
  refine sortedBy_eq_of_perm (fun a ha b hb hab => ?_) (h.filter _)
  obtain ⟨ha, hkeya⟩ := List.mem_filter.mp ha
  obtain ⟨hb, hkeyb⟩ := List.mem_filter.mp hb
  obtain ⟨a, -, rfl⟩ := List.mem_map.mp ha
  obtain ⟨b, -, rfl⟩ := List.mem_map.mp hb
  exact unnumbered_eq_of_sortKey ((of_decide_eq_true hkeya).trans (of_decide_eq_true hkeyb).symm) hab

/-! ## The order of the numbers -/

/-- The number that a RecordId of ASCII digits is. -/
def recordNumber (recordId : Option StatedText) : Option Nat :=
  recordId.bind fun text => if isAsciiDecimal text.1 then some (decimalInt text.1) else none

theorem recordNumber_eq_some {recordId : Option StatedText} {n : Nat}
    (h : recordNumber recordId = some n) : ∃ text, recordId = some text ∧
      (∀ c ∈ text.1.toList, c.isDigit = true) ∧ n = digitsValue text.1.toList ∧
      recordIdRank recordId = toLex (0, toLex ((text.1.toList.dropWhile (· = '0')).length,
        toLex (String.ofList (text.1.toList.dropWhile (· = '0')), text.1))) := by
  obtain ⟨text, rfl, htext⟩ := Option.bind_eq_some_iff.mp h
  obtain ⟨hdecimal, hn⟩ := Option.ite_none_right_eq_some.mp htext
  refine ⟨text, rfl, ?_, (Option.some.inj hn).symm, ?_⟩
  · rw [isAsciiDecimal, Bool.and_eq_true, List.all_eq_true] at hdecimal
    exact hdecimal.2
  · rw [recordIdRank, if_pos hdecimal]

/-- The rank of RecordIds of digits is the order of their numbers. -/
theorem recordNumber_le_of_rank_le {a b : Option StatedText} {m n : Nat}
    (hm : recordNumber a = some m) (hn : recordNumber b = some n)
    (h : recordIdRank a ≤ recordIdRank b) : m ≤ n := by
  obtain ⟨s, rfl, hs, rfl, hranka⟩ := recordNumber_eq_some hm
  obtain ⟨t, rfl, ht, rfl, hrankb⟩ := recordNumber_eq_some hn
  have hs' : ∀ c ∈ s.1.toList.dropWhile (· = '0'), c.isDigit = true := fun c hc =>
    hs c (List.dropWhile_subset _ hc)
  have ht' : ∀ c ∈ t.1.toList.dropWhile (· = '0'), c.isDigit = true := fun c hc =>
    ht c (List.dropWhile_subset _ hc)
  have hzero : ∀ c ∈ (t.1.toList.dropWhile (· = '0')).head?, c ≠ '0' := fun c hc => by
    have hhead := List.head?_dropWhile_not (· = '0') t.1.toList
    rw [hc] at hhead
    simpa using hhead
  rw [hranka, hrankb] at h
  rw [← digitsValue_dropWhile s.1.toList, ← digitsValue_dropWhile t.1.toList]
  obtain h | ⟨-, h⟩ := Prod.Lex.toLex_le_toLex.mp h
  · exact absurd h (Nat.lt_irrefl 0)
  obtain hlength | ⟨hlength, h⟩ := Prod.Lex.toLex_le_toLex.mp h
  · exact le_of_lt (digitsValue_lt_of_length_lt hs' ht' hzero hlength)
  obtain hlt | ⟨heq, -⟩ := Prod.Lex.toLex_le_toLex.mp h
  · have hlist := String.lt_iff_toList_lt.mp hlt
    rw [String.toList_ofList, String.toList_ofList] at hlist
    exact le_of_lt (digitsValue_lt_of_lt hs' ht' hlength hlist)
  · rw [String.ofList_inj.mp heq]

/-- The connections of a process come in the order of their numbers. -/
theorem selectConnections_ordered : (selectConnections connections key).Pairwise fun a b =>
    ∀ m ∈ recordNumber a.recordId, ∀ n ∈ recordNumber b.recordId, m ≤ n := by
  refine (sortedBy_pairwise connectionSortKey _).imp fun {a b} h m hm n hn => ?_
  refine recordNumber_le_of_rank_le hm hn ?_
  obtain hlt | ⟨heq, -⟩ := Prod.Lex.toLex_le_toLex.mp h
  · exact le_of_lt hlt
  · exact le_of_eq heq

/-! ## The checks -/

theorem LineageChain.processGuids_unnumbered (chain : LineageChain) :
    chain.unnumbered.processGuids = chain.processGuids := by
  rw [LineageChain.processGuids, LineageChain.processGuids, LineageChain.unnumbered, List.map_map]
  rfl

theorem checkExpectedParents_unnumbered (chain : LineageChain) (anchor : ProcessKey)
    (expected : Option (List String)) :
    checkExpectedParents chain.unnumbered anchor expected =
      checkExpectedParents chain anchor expected := by
  cases expected with
  | none => rfl
  | some expected =>
    rw [checkExpectedParents, checkExpectedParents, chain.processGuids_unnumbered]
    rfl

theorem notAccepted_unnumbered (expected : LineageExpectations)
    (atDestination : List ConnectionRecord) :
    notAccepted expected (atDestination.map ConnectionRecord.unnumbered) =
      notAccepted expected atDestination := by
  simp only [notAccepted, List.map_map, List.length_map, ne_eq, List.map_eq_nil_iff]
  rfl

theorem checkLinked_unnumbered (anchor : ProcessKey) (expected : LineageExpectations)
    (linked : List ConnectionRecord) :
    checkLinked casefold anchor expected (linked.map ConnectionRecord.unnumbered) =
      checkLinked casefold anchor expected linked := by
  have hdestination : (linked.map ConnectionRecord.unnumbered).filter (fun c =>
        connectionMatchesDestination c expected.destinationIp expected.destinationPort) =
      (linked.filter fun c => connectionMatchesDestination c expected.destinationIp
        expected.destinationPort).map ConnectionRecord.unnumbered := by
    rw [List.filter_map]
    rfl
  have haccepted (l : List ConnectionRecord) :
      (l.map ConnectionRecord.unnumbered).filter (usesExpectedProtocol casefold expected) =
        (l.filter (usesExpectedProtocol casefold expected)).map ConnectionRecord.unnumbered := by
    rw [List.filter_map]
    rfl
  simp only [checkLinked, hdestination, haccepted, notAccepted_unnumbered, List.length_map, ne_eq,
    List.map_eq_nil_iff]

theorem resolveLineage_congr
    (hlookup : ∀ key, (processOf tree key).map ProcessRecord.unnumbered =
      (processOf tree' key).map ProcessRecord.unnumbered) (anchor : ProcessKey) :
    (resolveLineage tree anchor).map LineageChain.unnumbered =
      (resolveLineage tree' anchor).map LineageChain.unnumbered := by
  have hstart := hlookup anchor
  rw [resolveLineage, resolveLineage]
  split
  · rename_i hnone
    rw [hnone] at hstart
    split
    · rfl
    · rename_i start' hsome
      rw [hsome] at hstart
      cases hstart
  · rename_i start hsome
    rw [hsome] at hstart
    split
    · rename_i hnone
      rw [hnone] at hstart
      cases hstart
    · rename_i start' hsome'
      rw [hsome'] at hstart
      exact congrArg some (resolveFrom_congr hlookup start _ [] [] start' _ []
        (Option.some.inj hstart) rfl)

/-- The checks find the same wherever the lookups and the linked connections agree. -/
theorem checkLineage_congr {anchor : ProcessKey} {expected : LineageExpectations}
    (hlookup : ∀ key, (processOf tree key).map ProcessRecord.unnumbered =
      (processOf tree' key).map ProcessRecord.unnumbered)
    (hlinked : (selectConnections connections anchor).map ConnectionRecord.unnumbered =
      (selectConnections connections' anchor).map ConnectionRecord.unnumbered) :
    checkLineage casefold tree connections anchor expected =
      checkLineage casefold tree' connections' anchor expected := by
  have hconnections : checkConnections casefold connections anchor expected =
      checkConnections casefold connections' anchor expected := by
    rw [checkConnections, checkConnections, ← checkLinked_unnumbered, hlinked,
      checkLinked_unnumbered]
  have hresolve := resolveLineage_congr hlookup anchor
  rw [checkLineage, checkLineage, hconnections]
  cases hchain : resolveLineage tree anchor with
  | none =>
    cases hchain' : resolveLineage tree' anchor with
    | none => rfl
    | some chain' =>
      rw [hchain, hchain'] at hresolve
      cases hresolve
  | some chain =>
    cases hchain' : resolveLineage tree' anchor with
    | none =>
      rw [hchain, hchain'] at hresolve
      cases hresolve
    | some chain' =>
      rw [hchain, hchain'] at hresolve
      have hsame : chain.unnumbered = chain'.unnumbered := Option.some.inj hresolve
      have hstatus : chain.status = chain'.status := by
        have hstatus := congrArg LineageChain.status hsame
        exact hstatus
      have hguids : chain.processGuids = chain'.processGuids := by
        have hguids := congrArg LineageChain.processGuids hsame
        rwa [LineageChain.processGuids_unnumbered, LineageChain.processGuids_unnumbered] at hguids
      have hdepth : chain.depth = chain'.depth := by
        have hlength := congrArg List.length hguids
        rwa [LineageChain.processGuids, LineageChain.processGuids, List.length_map,
          List.length_map] at hlength
      dsimp only
      rw [← checkExpectedParents_unnumbered chain, hsame, checkExpectedParents_unnumbered, hstatus,
        hdepth, hguids]

/-! ## The report in every order -/

theorem map_key_unnumbered (processes : List ProcessRecord) :
    (processes.map ProcessRecord.unnumbered).map (·.key) = processes.map (·.key) := by
  rw [List.map_map]
  rfl

/-- What the checks find is the same for records that are the same up to their
positions and order. -/
theorem checkRecords_perm {anchor : ProcessKey} {expected : LineageExpectations}
    (hprocesses : (processes.map ProcessRecord.unnumbered).Perm
      (processes'.map ProcessRecord.unnumbered))
    (hconnections : (connections.map ConnectionRecord.unnumbered).Perm
      (connections'.map ConnectionRecord.unnumbered)) :
    checkRecords casefold processes connections anchor expected =
      checkRecords casefold processes' connections' anchor expected := by
  have hkeys : (processes.map (·.key)).Perm (processes'.map (·.key)) := by
    rw [← map_key_unnumbered processes, ← map_key_unnumbered processes']
    exact hprocesses.map _
  by_cases hnodup : (processes.map (·.key)).Nodup
  · have hnodup' : (processes'.map (·.key)).Nodup := hkeys.nodup_iff.mp hnodup
    have hlength : processes.length = processes'.length := by
      have hlength := hprocesses.length_eq
      rwa [List.length_map, List.length_map] at hlength
    rw [checkRecords, checkRecords, buildProcessTree_of_nodup hnodup,
      buildProcessTree_of_nodup hnodup', hlength]
    dsimp only
    rw [checkLineage_congr (processOf_perm hnodup hprocesses) (selectConnections_perm hconnections)]
  · have hnodup' : ¬ (processes'.map (·.key)).Nodup := mt hkeys.nodup_iff.mpr hnodup
    rw [checkRecords, checkRecords, buildProcessTree_of_not_nodup hnodup,
      buildProcessTree_of_not_nodup hnodup', sortedBy_duplicates_eq hkeys]

variable {l l' : List PyDict} {anchor : ProcessKey} {expected : LineageExpectations}

theorem processesOf_perm (h : l.Perm l') :
    ((processesOf pyInt (numbered l)).map ProcessRecord.unnumbered).Perm
      ((processesOf pyInt (numbered l')).map ProcessRecord.unnumbered) := by
  rw [map_unnumbered_processesOf, map_unnumbered_processesOf]
  exact (h.map _).filterMap _

theorem connectionsOf_perm (h : l.Perm l') :
    ((connectionsOf pyInt (numbered l)).map ConnectionRecord.unnumbered).Perm
      ((connectionsOf pyInt (numbered l')).map ConnectionRecord.unnumbered) := by
  rw [map_unnumbered_connectionsOf, map_unnumbered_connectionsOf]
  exact (h.map _).filterMap _

/-- What is read of records without a fault. -/
theorem lineageFindings_of_faultsOf (hl : l ≠ [])
    (hfaults : faultsOf pyInt jsonlName (numbered l) = []) :
    lineageFindings pyInt casefold jsonlName (.ok (numbered l)) anchor expected =
      .passed (jsonlName ++ " holds " ++ toString l.length ++ " record(s): " ++
        toString (processesOf pyInt (numbered l)).length ++ " EID 1, " ++
        toString (connectionsOf pyInt (numbered l)).length ++ " EID 3") ::
      checkRecords casefold (processesOf pyInt (numbered l)) (connectionsOf pyInt (numbered l)) anchor
        expected := by
  have hne : numbered l ≠ [] := mt numbered_eq_nil_iff.mp hl
  rw [lineageFindings, readR1LineageRecords]
  simp only [if_neg hne, hfaults, ne_eq, not_true_eq_false, if_false, length_numbered,
    List.singleton_append]

/-- Records without a fault are reported on alike in every order. -/
theorem lineageFindings_perm (h : l.Perm l')
    (hfaults : faultsOf pyInt jsonlName (numbered l) = []) :
    lineageFindings pyInt casefold jsonlName (.ok (numbered l)) anchor expected =
      lineageFindings pyInt casefold jsonlName (.ok (numbered l')) anchor expected := by
  by_cases hl : l = []
  · have hl' : l' = [] := (hl ▸ h).nil_eq.symm
    rw [hl, hl']
  have hl' : l' ≠ [] := fun hl' => hl (List.perm_nil.mp (hl' ▸ h))
  have hprocesses := @processesOf_perm pyInt l l' h
  have hconnections := @connectionsOf_perm pyInt l l' h
  have hlength := hprocesses.length_eq
  have hlength' := hconnections.length_eq
  rw [List.length_map, List.length_map] at hlength hlength'
  rw [lineageFindings_of_faultsOf hl hfaults,
    lineageFindings_of_faultsOf hl' ((faultsOf_perm h).mp hfaults),
    checkRecords_perm hprocesses hconnections, h.length_eq, hlength, hlength']

/-! ## What is accepted -/

/-- The key of the parent that a process names, on its host. -/
def ProcessRecord.parentKey (process : ProcessRecord) : Option ProcessKey :=
  process.parentProcessGuid.map fun guid => ⟨process.key.host, guid.1⟩

/-- The parents from a process up, until one names none that was recorded. -/
inductive ParentWalk (processes : List ProcessRecord) : ProcessRecord → List ProcessRecord → Prop
  | stop {process : ProcessRecord} (hmem : process ∈ processes)
      (hlast : ∀ key ∈ process.parentKey, key ∉ processes.map (·.key)) :
      ParentWalk processes process [process]
  | step {process parent : ProcessRecord} {nodes : List ProcessRecord} (hmem : process ∈ processes)
      (hparent : process.parentKey = some parent.key) (hwalk : ParentWalk processes parent nodes) :
      ParentWalk processes process (process :: nodes)

theorem processOf_eq_some {process : ProcessRecord} (h : processOf tree key = some process) :
    process ∈ tree ∧ process.key = key := by
  have hkey := List.find?_some h
  exact ⟨List.mem_of_find?_eq_some h, of_decide_eq_true hkey⟩

theorem notMem_of_processOf_eq_none (h : processOf tree key = none) : key ∉ tree.map (·.key) := by
  intro hmem
  obtain ⟨process, hprocess, hkey⟩ := List.mem_map.mp hmem
  exact List.find?_eq_none.mp h process hprocess (decide_eq_true hkey)

/-- A walk that does not come back is one of parents, each met once. -/
theorem resolveFrom_walk (current : ProcessRecord) (hcurrent : current ∈ tree)
    (seen : List ProcessKey) (nodes : List ProcessRecord)
    (h : (resolveFrom tree current hcurrent seen nodes).status ≠ .cycle) :
    ∃ walk, (resolveFrom tree current hcurrent seen nodes).nodes = nodes ++ walk ∧
      ParentWalk tree current walk ∧ (walk.map (·.key)).Nodup ∧ ∀ p ∈ walk, p.key ∉ seen := by
  induction current, hcurrent, seen, nodes using resolveFrom.induct tree with
  | case1 current hcurrent seen nodes hseen =>
    rw [resolveFrom, dif_pos hseen] at h
    exact absurd rfl h
  | case2 current hcurrent seen nodes hseen hparent =>
    rw [resolveFrom, dif_neg hseen, hparent]
    refine ⟨[current], rfl, .stop hcurrent fun key hkey => ?_, List.nodup_singleton _,
      List.forall_mem_singleton.mpr hseen⟩
    rw [ProcessRecord.parentKey, hparent] at hkey
    cases hkey
  | case3 current hcurrent seen nodes hseen guid hparent parentKey hback =>
    rw [resolveFrom, dif_neg hseen, hparent] at h
    dsimp only at h
    rw [if_pos hback] at h
    exact absurd rfl h
  | case4 current hcurrent seen nodes hseen guid hparent parentKey hback hnone =>
    rw [resolveFrom, dif_neg hseen, hparent]
    dsimp only
    rw [if_neg hback]
    split
    · refine ⟨[current], rfl, .stop hcurrent fun key hkey => ?_, List.nodup_singleton _,
        List.forall_mem_singleton.mpr hseen⟩
      rw [ProcessRecord.parentKey, hparent] at hkey
      obtain rfl : parentKey = key := Option.some.inj hkey
      exact notMem_of_processOf_eq_none hnone
    · rename_i parent hsome
      exact absurd (hnone.symm.trans hsome) (Option.some_ne_none parent).symm
  | case5 current hcurrent seen nodes hseen guid hparent parentKey hback parent hsome ih =>
    rw [resolveFrom, dif_neg hseen, hparent] at h ⊢
    dsimp only at h ⊢
    rw [if_neg hback] at h ⊢
    split at h
    · rename_i hnone
      exact absurd (hnone.symm.trans hsome) (Option.some_ne_none parent).symm
    · rename_i parent' hsome'
      obtain rfl : parent = parent' := Option.some.inj (hsome.symm.trans hsome')
      obtain ⟨walk, hnodes, hwalk, hnodup, hnew⟩ := ih h
      have hkey : current.parentKey = some parent.key := by
        rw [ProcessRecord.parentKey, hparent, (processOf_eq_some hsome).2]
        rfl
      refine ⟨current :: walk, by rw [hnodes, List.append_assoc, List.singleton_append],
        .step hcurrent hkey hwalk, ?_, ?_⟩
      · rw [List.map_cons, List.nodup_cons, List.mem_map]
        refine ⟨?_, hnodup⟩
        rintro ⟨p, hp, hpkey⟩
        exact hnew p hp (hpkey ▸ List.mem_cons_self)
      · exact List.forall_mem_cons.mpr
          ⟨hseen, fun p hp hmem => hnew p hp (List.mem_cons_of_mem _ hmem)⟩

/-- One connection satisfies everything that is expected of one. -/
structure IsExpectedConnection (casefold : String → String) (anchor : ProcessKey)
    (expected : LineageExpectations) (connection : ConnectionRecord) : Prop where
  key : connection.key = anchor
  destinationIp : ∀ ip ∈ expected.destinationIp, connection.destinationIp.map Subtype.val = some ip
  destinationPort : ∀ port ∈ expected.destinationPort,
    connection.destinationPort.map Subtype.val = some port
  protocol : ∀ protocol ∈ expected.protocol, ∃ recorded ∈ connection.protocol,
    casefold recorded.1 = casefold protocol

/-- What an accepted capture shows: keys of their own, the parents of the anchor
without a process twice, the parents that are expected, and one connection as
expected. -/
structure IsLinked (casefold : String → String) (anchor : ProcessKey)
    (expected : LineageExpectations) (processes : List ProcessRecord)
    (connections : List ConnectionRecord) : Prop where
  unique : (processes.map (·.key)).Nodup
  lineage : ∃ start nodes, start.key = anchor ∧ ParentWalk processes start nodes ∧
    (nodes.map (·.key)).Nodup ∧ ∀ guids ∈ expected.parentProcessGuids,
      nodes.tail.map (·.key.processGuid) = guids
  connection : ∃ c ∈ connections, IsExpectedConnection casefold anchor expected c

theorem clean_checkExpectedParents {chain : LineageChain} {guids : Option (List String)}
    (h : Clean (checkExpectedParents chain anchor guids)) :
    ∀ expected ∈ guids, chain.processGuids.tail = expected := by
  intro expected hexpected
  obtain rfl : guids = some expected := hexpected
  rw [checkExpectedParents] at h
  by_cases hsame : chain.processGuids.tail = expected
  · exact hsame
  · rw [if_neg hsame] at h
    split at h
    · exact absurd h not_clean_fail
    · exact absurd h not_clean_fail

theorem not_clean_notAccepted {atDestination : List ConnectionRecord} :
    ¬ Clean (notAccepted expected atDestination) := by
  have hno (protocol : String) : ¬ Clean (notAccepted.noDestination expected protocol) := by
    rw [notAccepted.noDestination]
    split
    · exact not_clean_fail
    · exact not_clean_fail
  rw [notAccepted]
  split
  · split
    · exact not_clean_fail
    · exact hno _
  · exact hno _

theorem isExpectedConnection {c : ConnectionRecord} (hkey : c.key = anchor)
    (hdestination : connectionMatchesDestination c expected.destinationIp expected.destinationPort =
      true) (hprotocol : usesExpectedProtocol casefold expected c = true) :
    IsExpectedConnection casefold anchor expected c := by
  obtain ⟨hip, hport⟩ := of_decide_eq_true hdestination
  refine ⟨hkey, fun ip h => ?_, fun port h => ?_, fun protocol h => ?_⟩
  · rw [h] at hip
    exact hip.resolve_left (Option.some_ne_none ip)
  · rw [h] at hport
    exact hport.resolve_left (Option.some_ne_none port)
  · rw [usesExpectedProtocol, h] at hprotocol
    dsimp only at hprotocol
    rw [connectionUsesProtocol] at hprotocol
    split at hprotocol
    · cases hprotocol
    · rename_i recorded hrecorded
      exact ⟨recorded, hrecorded, of_decide_eq_true hprotocol⟩

/-- A clean report on the linked connections names one as expected. -/
theorem clean_checkConnections (h : Clean (checkConnections casefold connections anchor expected)) :
    ∃ c ∈ connections, IsExpectedConnection casefold anchor expected c := by
  have hmem : ∀ c ∈ selectConnections connections anchor, c ∈ connections ∧ c.key = anchor := by
    intro c hc
    obtain ⟨hmem, hkey⟩ := List.mem_filter.mp (mem_sortedBy.mp hc)
    exact ⟨hmem, of_decide_eq_true hkey⟩
  rw [checkConnections, checkLinked] at h
  obtain ⟨hlinked, hfits⟩ := clean_append.mp h
  by_cases hany : ¬ destinationGiven expected ∧ expected.protocol = none
  · have hne : selectConnections connections anchor ≠ [] := by
      intro hnil
      rw [if_neg (not_not.mpr hnil)] at hlinked
      exact absurd hlinked not_clean_fail
    obtain ⟨c, hc⟩ := List.exists_mem_of_ne_nil _ hne
    obtain ⟨hgiven, hprotocol⟩ := hany
    rw [destinationGiven, decide_eq_true_iff, not_or, not_not, not_not] at hgiven
    have hdestination : connectionMatchesDestination c expected.destinationIp
        expected.destinationPort = true := decide_eq_true ⟨.inl hgiven.1, .inl hgiven.2⟩
    have huses : usesExpectedProtocol casefold expected c = true := by
      rw [usesExpectedProtocol, hprotocol]
    exact ⟨c, (hmem c hc).1, isExpectedConnection (hmem c hc).2 hdestination huses⟩
  · rw [if_neg hany] at hfits
    split at hfits
    · rename_i hne
      obtain ⟨c, hc⟩ := List.exists_mem_of_ne_nil _ hne
      obtain ⟨hc, huses⟩ := List.mem_filter.mp hc
      obtain ⟨hc, hdestination⟩ := List.mem_filter.mp hc
      exact ⟨c, (hmem c hc).1, isExpectedConnection (hmem c hc).2 hdestination huses⟩
    · exact absurd hfits not_clean_notAccepted

/-- The lineage that was walked to a clean report. -/
theorem exists_walk {chain : LineageChain} (hchain : resolveLineage tree anchor = some chain)
    (hcycle : chain.status ≠ .cycle) : ∃ start, start.key = anchor ∧
      ParentWalk tree start chain.nodes ∧ (chain.nodes.map (·.key)).Nodup := by
  rw [resolveLineage] at hchain
  split at hchain
  · cases hchain
  · rename_i start hstart
    obtain rfl := Option.some.inj hchain
    obtain ⟨walk, hnodes, hwalk, hnodup, -⟩ := resolveFrom_walk start _ [] [] hcycle
    rw [List.nil_append] at hnodes
    rw [hnodes]
    exact ⟨start, (processOf_eq_some hstart).2, hwalk, hnodup⟩

/-- A clean report on the records is one on a linked lineage. -/
theorem clean_checkRecords
    (h : Clean (checkRecords casefold processes connections anchor expected)) :
    IsLinked casefold anchor expected processes connections := by
  rw [checkRecords] at h
  by_cases hnodup : (processes.map (·.key)).Nodup
  · rw [buildProcessTree_of_nodup hnodup] at h
    have hlineage : Clean (checkLineage casefold processes connections anchor expected) :=
      (clean_append.mp h).2
    rw [checkLineage] at hlineage
    split at hlineage
    · exact absurd hlineage not_clean_fail
    · rename_i chain hchain
      by_cases hcycle : chain.status = .cycle
      · rw [if_pos hcycle] at hlineage
        exact absurd hlineage not_clean_fail
      · rw [if_neg hcycle, clean_passed, clean_append] at hlineage
        obtain ⟨start, hstart, hwalk, hnodes⟩ := exists_walk hchain hcycle
        refine ⟨hnodup, ⟨start, chain.nodes, hstart, hwalk, hnodes, fun guids hguids => ?_⟩,
          clean_checkConnections hlineage.2⟩
        have hparents := clean_checkExpectedParents hlineage.1 guids hguids
        rwa [LineageChain.processGuids, ← List.map_tail] at hparents
  · obtain ⟨key, hkey⟩ := not_forall.mp (mt List.nodup_iff_count_le_one.mpr hnodup)
    have hmem : key ∈ (processes.foldl addProcess ([], [])).2 :=
      mem_duplicates.mpr (Nat.not_le.mp hkey)
    rw [buildProcessTree_of_not_nodup hnodup] at h
    have hfailure := h _ (List.mem_append_left _ (List.mem_map_of_mem (mem_sortedBy.mpr hmem)))
    cases hfailure

theorem lineageReportOf_ok_iff {findings : List R1Finding} :
    (lineageReportOf findings).ok = true ↔ Clean findings := by
  rw [R1LineageReport.ok, List.isEmpty_iff]
  exact clean_iff.symm

/-- A capture with a fault is refused. -/
theorem faultsOf_eq_nil_of_ok
    (h : (verifyR1Lineage pyInt casefold jsonlName (.ok (numbered l)) anchor expected).ok = true) :
    l ≠ [] ∧ faultsOf pyInt jsonlName (numbered l) = [] := by
  rw [verifyR1Lineage, lineageReportOf_ok_iff, lineageFindings, readR1LineageRecords] at h
  by_cases hl : numbered l = []
  · rw [if_pos hl] at h
    exact absurd h not_clean_fail
  refine ⟨mt numbered_eq_nil_iff.mpr hl, ?_⟩
  by_contra hfaults
  obtain ⟨fault, hfault⟩ := List.exists_mem_of_ne_nil _ hfaults
  rw [if_neg hl, if_pos hfaults] at h
  have hfailure := h _ (List.mem_append_left _ (List.mem_map_of_mem hfault))
  cases hfailure

/-- What an accepted capture shows. -/
theorem verifyR1Lineage_sound
    (h : (verifyR1Lineage pyInt casefold jsonlName (.ok (numbered l)) anchor expected).ok = true) :
    IsLinked casefold anchor expected (processesOf pyInt (numbered l))
      (connectionsOf pyInt (numbered l)) := by
  obtain ⟨hl, hfaults⟩ := faultsOf_eq_nil_of_ok h
  rw [verifyR1Lineage, lineageReportOf_ok_iff, lineageFindings_of_faultsOf hl hfaults,
    clean_passed] at h
  exact clean_checkRecords h

/-- The verdict does not show the order of the lines, on any capture. -/
theorem verifyR1Lineage_ok_perm (h : l.Perm l') :
    (verifyR1Lineage pyInt casefold jsonlName (.ok (numbered l)) anchor expected).ok =
      (verifyR1Lineage pyInt casefold jsonlName (.ok (numbered l')) anchor expected).ok := by
  have hok {l l' : List PyDict} (h : l.Perm l')
      (hok : (verifyR1Lineage pyInt casefold jsonlName (.ok (numbered l)) anchor expected).ok =
        true) :
      (verifyR1Lineage pyInt casefold jsonlName (.ok (numbered l')) anchor expected).ok = true := by
    rw [← hok, verifyR1Lineage, verifyR1Lineage,
      lineageFindings_perm h (faultsOf_eq_nil_of_ok hok).2]
  exact Bool.eq_iff_iff.mpr ⟨hok h, hok h.symm⟩

/-- The verdict on a capture does not show the order of its lines, nor does the
report where the records are identifiable. It accepts a linked lineage only, and
the connections of a process come in the order of their numbers, the same in every
order of the lines. -/
theorem verifyR1Lineage_orderFree (pyInt : String → Option Int) (casefold : String → String)
    (jsonlName : String) (anchor : ProcessKey) (expected : LineageExpectations) {l l' : List PyDict}
    (h : l.Perm l') :
    (verifyR1Lineage pyInt casefold jsonlName (.ok (numbered l)) anchor expected).ok =
        (verifyR1Lineage pyInt casefold jsonlName (.ok (numbered l')) anchor expected).ok ∧
      ((∀ data ∈ l, IsIdentifiable pyInt data) →
        verifyR1Lineage pyInt casefold jsonlName (.ok (numbered l)) anchor expected =
          verifyR1Lineage pyInt casefold jsonlName (.ok (numbered l')) anchor expected) ∧
      ((verifyR1Lineage pyInt casefold jsonlName (.ok (numbered l)) anchor expected).ok = true →
        IsLinked casefold anchor expected (processesOf pyInt (numbered l))
          (connectionsOf pyInt (numbered l))) ∧
      ∀ key,
        ((selectConnections (connectionsOf pyInt (numbered l)) key).Pairwise fun a b =>
          ∀ m ∈ recordNumber a.recordId, ∀ n ∈ recordNumber b.recordId, m ≤ n) ∧
        (selectConnections (connectionsOf pyInt (numbered l)) key).map ConnectionRecord.unnumbered =
          (selectConnections (connectionsOf pyInt (numbered l')) key).map
            ConnectionRecord.unnumbered := by
  refine ⟨verifyR1Lineage_ok_perm h, fun hl => ?_, verifyR1Lineage_sound,
    fun key => ⟨selectConnections_ordered, selectConnections_perm (connectionsOf_perm h)⟩⟩
  have hfaults : faultsOf pyInt jsonlName (numbered l) = [] :=
    faultsOf_eq_nil_iff.mpr fun data hdata => (hl data hdata).exists_row
  rw [verifyR1Lineage, verifyR1Lineage, lineageFindings_perm h hfaults]

namespace Sample

/-- The process creation of a process that names a parent. -/
def rawProcess (guid parentGuid : String) : PyDict :=
  [("EventId", .int 1), ("Computer", .str "TARGET-A"),
    ("EventData", .dict [("ProcessGuid", .str guid), ("ParentProcessGuid", .str parentGuid)])]

/-- A network connection of a process. -/
def rawConnection (guid recordId : String) : PyDict :=
  [("EventId", .int 3), ("Computer", .str "TARGET-A"), ("RecordId", .str recordId),
    ("EventData", .dict [("ProcessGuid", .str guid), ("DestinationIp", .str "10.20.30.40"),
      ("Protocol", .str "tcp")])]

/-- A tool started by a host process that was created before the capture. -/
def capture : List PyDict :=
  [rawProcess "guid-host" "guid-init", rawConnection "guid-tool" "10",
    rawProcess "guid-tool" "guid-host", rawConnection "guid-tool" "9"]

def tool : ProcessKey := ⟨"TARGET-A", "guid-tool"⟩

/-- `str.casefold` of ASCII text. -/
def asciiCasefold (s : String) : String := String.ofList (s.toList.map Char.toLower)

def toolExpectations : LineageExpectations where
  parentProcessGuids := some ["guid-host"]
  destinationIp := some "10.20.30.40"
  protocol := some "TCP"

end Sample

open Sample

theorem isIdentifiable_rawProcess {guid parentGuid : String}
    (h : (stated (String.ofList (strip guid))).isSome) :
    IsIdentifiable (fun _ => none) (rawProcess guid parentGuid) where
  eventId := rfl
  host _ _ _ := rfl
  processGuid _ _ _ := ⟨_, rfl, h⟩

theorem isIdentifiable_rawConnection {guid recordId : String}
    (h : (stated (String.ofList (strip guid))).isSome) :
    IsIdentifiable (fun _ => none) (rawConnection guid recordId) where
  eventId := rfl
  host _ _ _ := rfl
  processGuid _ _ _ := ⟨_, rfl, h⟩

/-- The capture backwards, which is accepted with the same report. -/
theorem verifyR1Lineage_orderFree_capture :
    verifyR1Lineage (fun _ => none) asciiCasefold "sysmon-0001.jsonl" (.ok (numbered capture)) tool
        toolExpectations =
      verifyR1Lineage (fun _ => none) asciiCasefold "sysmon-0001.jsonl"
        (.ok (numbered capture.reverse)) tool toolExpectations ∧
    (verifyR1Lineage (fun _ => none) asciiCasefold "sysmon-0001.jsonl"
      (.ok (numbered capture.reverse)) tool toolExpectations).ok = true := by
  have hok : (verifyR1Lineage (fun _ => none) asciiCasefold "sysmon-0001.jsonl"
      (.ok (numbered capture)) tool toolExpectations).ok = true := by
    decide +kernel
  have hidentifiable : ∀ data ∈ capture, IsIdentifiable (fun _ => none) data := by
    rw [capture, List.forall_mem_cons, List.forall_mem_cons, List.forall_mem_cons,
      List.forall_mem_singleton]
    exact ⟨isIdentifiable_rawProcess (by decide), isIdentifiable_rawConnection (by decide),
      isIdentifiable_rawProcess (by decide), isIdentifiable_rawConnection (by decide)⟩
  obtain ⟨hverdict, hreport, -⟩ := verifyR1Lineage_orderFree (fun _ => none) asciiCasefold
    "sysmon-0001.jsonl" tool toolExpectations (List.reverse_perm capture).symm
  exact ⟨hreport hidentifiable, hverdict ▸ hok⟩

end IncidentAwareness.Collection
