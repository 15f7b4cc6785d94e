import IncidentAwareness.Preservation.Bundle
import Mathlib.Data.List.Sort

/-!
# What a verified run is

* `readRows_render`: the list of hashes is read back, where no path has a line boundary;
* `not_isLineBreak_of_listed`: no path that is read from a list has one;
* `verifyPreservedRun_eq_ok`: what an accepted directory holds (`Verified`);
* `tampered_put`, `tampered_add`, `tampered_remove`, `tampered_rename`: what is changed in an
  accepted directory is found.
-/

namespace IncidentAwareness.Preservation

open IncidentAwareness.Common IncidentAwareness.Lib

/-! ## Texts -/

theorem utf8Bytes_eq (cs : List Char) : utf8Bytes cs = cs.flatMap String.utf8EncodeChar := by
  rw [utf8Bytes, utf8, String.toByteArray_ofList, List.utf8Encode]
  exact List.toList_data_toByteArray

theorem unicode_map (cs : List Char) : unicode? (cs.map .char) = some cs := by
  induction cs with
  | nil => rfl
  | cons c cs ih =>
    rw [unicode?] at ih
    rw [List.map_cons, unicode?, List.mapM_cons, ih]
    rfl

theorem unicode_py (s : String) : unicode? (py s) = some s.toList := unicode_map s.toList

theorem unicode_eq_some {s : PyStr} {cs : List Char} : unicode? s = some cs ↔ s = cs.map .char := by
  constructor
  · intro h
    induction s generalizing cs with
    | nil =>
      obtain rfl := Option.some.inj h
      rfl
    | cons c s ih =>
      rw [unicode?, List.mapM_cons] at h
      obtain ⟨d, hd, h⟩ := Option.bind_eq_some_iff.mp h
      obtain ⟨ds, hds, h⟩ := Option.bind_eq_some_iff.mp h
      obtain rfl := Option.some.inj h
      cases c with
      | char c =>
        obtain rfl := Option.some.inj hd
        rw [ih hds]
        rfl
      | surrogate n => exact absurd hd (by simp)
  · rintro rfl
    exact unicode_map cs

theorem decode_utf8Bytes (cs : List Char) : decodeUtf8 (utf8Bytes cs) = some (cs.map .char) := by
  have hbytes : ByteArray.mk (utf8Bytes cs).toArray = cs.utf8Encode := by
    rw [utf8Bytes, utf8, String.toByteArray_ofList]
  rw [decodeUtf8, hbytes, List.utf8Decode?_utf8Encode]
  rfl

theorem ofNat_ne_cr {n : Nat} (h : n % 256 ≠ 13) : (13 : UInt8) ≠ UInt8.ofNat n := by
  intro heq
  have := congrArg UInt8.toNat heq
  rw [UInt8.toNat_ofNat'] at this
  exact h this.symm

/-- Only a carriage return has its byte. -/
theorem cr_of_mem {c : Char} (h : (13 : UInt8) ∈ String.utf8EncodeChar c) : c = '\r' := by
  rw [String.utf8EncodeChar] at h
  split at h
  · have hbyte : (13 : UInt8) = UInt8.ofNat c.val.toNat := List.mem_singleton.mp h
    have hnat : c.val.toNat % 256 = 13 := by
      by_contra hne
      exact ofNat_ne_cr hne hbyte
    have hval : c.val.toNat = 13 := by omega
    exact Char.ext (UInt32.toNat_inj.mp hval)
  · exfalso
    split at h
    · simp only [List.mem_cons, List.not_mem_nil, or_false] at h
      rcases h with h | h
      · exact ofNat_ne_cr (by omega) h
      · exact ofNat_ne_cr (by omega) h
    · split at h
      · simp only [List.mem_cons, List.not_mem_nil, or_false] at h
        rcases h with h | h | h
        · exact ofNat_ne_cr (by omega) h
        · exact ofNat_ne_cr (by omega) h
        · exact ofNat_ne_cr (by omega) h
      · simp only [List.mem_cons, List.not_mem_nil, or_false] at h
        rcases h with h | h | h | h
        · exact ofNat_ne_cr (by omega) h
        · exact ofNat_ne_cr (by omega) h
        · exact ofNat_ne_cr (by omega) h
        · exact ofNat_ne_cr (by omega) h

theorem code_injective : Function.Injective PyChar.code := by
  intro a b h
  cases a with
  | char c =>
    cases b with
    | char d => exact congrArg PyChar.char (Char.toNat_inj.mp h)
    | surrogate n =>
      have hvalid := c.valid
      have hn := n.isLt
      have h' : c.val.toNat = 0xD800 + n := h
      rcases hvalid with hlow | hhigh
      · omega
      · omega
  | surrogate m =>
    cases b with
    | char d =>
      have hvalid := d.valid
      have hm := m.isLt
      have h' : 0xD800 + (m : Nat) = d.val.toNat := h
      rcases hvalid with hlow | hhigh
      · omega
      · omega
    | surrogate n =>
      have h' : 0xD800 + (m : Nat) = 0xD800 + n := h
      have hmn : m = n := Fin.ext (by omega)
      rw [hmn]

theorem codes_injective : Function.Injective codes := List.map_injective_iff.mpr code_injective

/-- Strings in any order sort alike. -/
theorem sortedBy_codes_of_perm {l l' : List PyStr} (h : l.Perm l') :
    sortedBy codes l = sortedBy codes l' :=
  sortedBy_eq_of_perm (fun _ _ _ _ hcodes => codes_injective hcodes) h

/-! ## The list of hashes -/

/-- Every character of a hash. -/
theorem not_isLineBreak_of_hex {lib : StandardLibrary} {content : List UInt8} {c : PyChar}
    (h : c ∈ sha256Of lib content) : isLineBreak c = false := by
  obtain ⟨d, hd, rfl⟩ := List.mem_map.mp h
  have hhex : ∀ c ∈ py "0123456789abcdef", isLineBreak c = false := by decide
  exact hhex _ (List.mem_map_of_mem (lib.hexdigest_hex content d hd))

theorem mem_writeField {field : PyStr} {c : PyChar} (h : c ∈ csvFormat.writeField field) :
    c ∈ field ∨ c = .char '"' := by
  rw [CsvFormat.writeField] at h
  split at h
  · rcases List.mem_cons.mp h with rfl | h
    · exact .inr rfl
    · rcases List.mem_append.mp h with h | h
      · obtain ⟨d, hd, hc⟩ := List.mem_flatMap.mp h
        split at hc
        · simp only [List.mem_cons, List.not_mem_nil, or_false, or_self] at hc
          exact .inr hc
        · rw [List.mem_singleton.mp hc]
          exact .inl hd
      · exact .inr (List.mem_singleton.mp h)
  · exact .inl h

/-- The characters of a row of two fields. -/
theorem mem_writeRow {path digest : PyStr} {c : PyChar}
    (h : c ∈ csvFormat.writeRow [path, digest]) :
    (c ∈ path ∨ c ∈ digest) ∨ c = .char '"' ∨ c = .char ',' := by
  have hrow : csvFormat.writeRow [path, digest] =
      csvFormat.writeField path ++ csvFormat.writeRest [digest] := by
    cases path <;> rfl
  rw [hrow] at h
  rcases List.mem_append.mp h with h | h
  · rcases mem_writeField h with h | h
    · exact .inl (.inl h)
    · exact .inr (.inl h)
  · rw [CsvFormat.writeRest, List.flatMap_cons, List.flatMap_nil, List.append_nil] at h
    rcases List.mem_cons.mp h with h | h
    · exact .inr (.inr h)
    · rcases mem_writeField h with h | h
      · exact .inl (.inr h)
      · exact .inr (.inl h)

/-- A row of two fields without line boundaries has none. -/
theorem not_isLineBreak_writeRow {path digest : PyStr}
    (hpath : ∀ c ∈ path, isLineBreak c = false) (hdigest : ∀ c ∈ digest, isLineBreak c = false) :
    ∀ c ∈ csvFormat.writeRow [path, digest], isLineBreak c = false := by
  intro c hc
  rcases mem_writeRow hc with (hc | hc) | rfl | rfl
  · exact hpath c hc
  · exact hdigest c hc
  · decide
  · decide

/-- The lines of rows of two fields. -/
theorem splitLines_rows {rows : List (PyStr × PyStr)}
    (h : ∀ e ∈ rows, (∀ c ∈ e.1, isLineBreak c = false) ∧ ∀ c ∈ e.2, isLineBreak c = false) :
    splitLines lineBreaks (rows.flatMap fun e => csvFormat.writeRow [e.1, e.2] ++ [.char '\n']) =
      rows.map fun e => csvFormat.writeRow [e.1, e.2] := by
  induction rows with
  | nil => rfl
  | cons e rows ih =>
    have he := h e List.mem_cons_self
    rw [List.map_cons, List.flatMap_cons, List.append_assoc, List.singleton_append,
      show (PyChar.char '\n') = lineBreaks.lf from rfl,
      splitLines_line (not_isLineBreak_writeRow he.1 he.2)]
    exact congrArg _ (ih fun e' he' => h e' (List.mem_cons_of_mem e he'))

theorem readRows_rows (rows : List (PyStr × PyStr)) :
    csvFormat.readRows (rows.map fun e => csvFormat.writeRow [e.1, e.2]) =
      rows.map fun e => [e.1, e.2] := by
  induction rows with
  | nil => rfl
  | cons e rows ih => rw [List.map_cons, readRows_writeRow (List.cons_ne_nil _ _), ih, List.map_cons]

theorem listRows_rows {listed rows : List (PyStr × PyStr)}
    (h : ((listed ++ rows).map Prod.fst).Nodup) :
    listRows listed (rows.map fun e => [e.1, e.2]) = .ok (listed ++ rows) := by
  induction rows generalizing listed with
  | nil => rw [List.append_nil]; rfl
  | cons e rows ih =>
    have hnew : e.1 ∉ listed.map Prod.fst := by
      rw [List.map_append, List.map_cons] at h
      intro hmem
      exact (List.nodup_append.mp h).2.2 e.1 hmem e.1 List.mem_cons_self rfl
    rw [List.map_cons, listRows, if_neg hnew, ih (by simpa using h), List.append_assoc]
    rfl

/-- Sorting pairs by their paths sorts the paths. -/
theorem map_sortedBy_fst (hashes : List (PyStr × PyStr)) :
    (sortedBy (fun e => codes e.1) hashes).map Prod.fst = sortedBy codes (hashes.map Prod.fst) :=
  List.map_insertionSort _ _ _ _ fun _ _ _ _ => Iff.rfl

theorem mem_listRows {listed listed' : List (PyStr × PyStr)} {rows : List (List PyStr)}
    (h : listRows listed rows = .ok listed') {e : PyStr × PyStr} (he : e ∈ listed') :
    e ∈ listed ∨ [e.1, e.2] ∈ rows := by
  induction rows generalizing listed with
  | nil =>
    obtain rfl := Except.ok.inj h
    exact .inl he
  | cons row rows ih =>
    rw [listRows.eq_def] at h
    split at h
    · exact absurd ‹row :: rows = []› (List.cons_ne_nil row rows)
    · rename_i path digest rows' heq
      obtain ⟨rfl, rfl⟩ := List.cons.inj heq
      split at h
      · exact absurd h (by simp)
      · rcases ih h with hmem | hmem
        · rcases List.mem_append.mp hmem with hmem | hmem
          · exact .inl hmem
          · rw [List.mem_singleton.mp hmem]
            exact .inr List.mem_cons_self
        · exact .inr (List.mem_cons_of_mem _ hmem)
    · exact absurd h (by simp)

theorem nodup_listRows {listed listed' : List (PyStr × PyStr)} {rows : List (List PyStr)}
    (h : listRows listed rows = .ok listed') (hnd : (listed.map Prod.fst).Nodup) :
    (listed'.map Prod.fst).Nodup := by
  induction rows generalizing listed with
  | nil =>
    obtain rfl := Except.ok.inj h
    exact hnd
  | cons row rows ih =>
    rw [listRows.eq_def] at h
    split at h
    · exact absurd ‹row :: rows = []› (List.cons_ne_nil row rows)
    · rename_i path digest rows' heq
      obtain ⟨rfl, rfl⟩ := List.cons.inj heq
      split at h
      · exact absurd h (by simp)
      · rename_i hnew
        refine ih h ?_
        rw [List.map_append, List.nodup_append]
        refine ⟨hnd, List.nodup_singleton _, ?_⟩
        intro p hp q hq hpq
        rw [hpq, List.mem_singleton.mp hq] at hp
        exact hnew hp
    · exact absurd h (by simp)

/-- The list of hashes is read back. -/
theorem readRows_render {hashes : List (PyStr × PyStr)} (hnd : (hashes.map Prod.fst).Nodup)
    (h : ∀ e ∈ hashes, (∀ c ∈ e.1, isLineBreak c = false) ∧ ∀ c ∈ e.2, isLineBreak c = false) :
    readRows (renderSha256sums hashes) = .ok (sortedBy (fun e => codes e.1) hashes) := by
  have hheader : (∀ c ∈ sha256sumsHeader.1, isLineBreak c = false) ∧
      ∀ c ∈ sha256sumsHeader.2, isLineBreak c = false := by decide
  have hrows : ∀ e ∈ sha256sumsHeader :: sortedBy (fun e => codes e.1) hashes,
      (∀ c ∈ e.1, isLineBreak c = false) ∧ ∀ c ∈ e.2, isLineBreak c = false := by
    intro e he
    rcases List.mem_cons.mp he with rfl | he
    · exact hheader
    · exact h e (mem_sortedBy.mp he)
  have hsorted : ((sortedBy (fun e => codes e.1) hashes).map Prod.fst).Nodup := by
    rw [map_sortedBy_fst]
    exact (sortedBy_perm codes _).nodup_iff.mpr hnd
  rw [readRows, renderSha256sums, splitLines_rows hrows, readRows_rows, List.map_cons]
  dsimp only
  rw [if_neg (not_not.mpr rfl), listRows_rows (by simpa using hsorted), List.nil_append]
  show (raiseIf _ _ >>= fun _ => _) = _
  rw [raiseIf_of_not]
  · rfl
  · rw [not_not, map_sortedBy_fst]
    exact (sortedBy_codes_of_perm (sortedBy_perm codes _)).symm

/-- No path that is read from a list of hashes has a line boundary. -/
theorem not_isLineBreak_of_listed {text : PyStr} {listed : List (PyStr × PyStr)}
    (h : readRows text = .ok listed) {e : PyStr × PyStr} (he : e ∈ listed) :
    ∀ c ∈ e.1, isLineBreak c = false := by
  have hlines : ∀ line ∈ splitLines lineBreaks text, ∀ c ∈ line, isLineBreak c = false :=
    fun line hline => mem_splitLines hline
  rw [readRows] at h
  split at h
  · exact absurd h (by simp)
  · rename_i header rows hread
    split at h
    · exact absurd h (by simp)
    · obtain ⟨listed', hlist, h⟩ := Except.bind_eq_ok.mp h
      obtain ⟨-, h⟩ := raiseIf_bind_eq_ok.mp h
      obtain rfl := Except.ok.inj h
      rcases mem_listRows hlist he with hmem | hmem
      · exact absurd hmem List.not_mem_nil
      · have hrow : [e.1, e.2] ∈ csvFormat.readRows (splitLines lineBreaks text) := by
          rw [hread]
          exact List.mem_cons_of_mem header hmem
        exact mem_readRows hlines hrow e.1 List.mem_cons_self

/-- A list of hashes has every path once. -/
theorem nodup_of_readRows {text : PyStr} {listed : List (PyStr × PyStr)}
    (h : readRows text = .ok listed) : (listed.map Prod.fst).Nodup := by
  rw [readRows] at h
  split at h
  · exact absurd h (by simp)
  · split at h
    · exact absurd h (by simp)
    · obtain ⟨listed', hlist, h⟩ := Except.bind_eq_ok.mp h
      obtain ⟨-, h⟩ := raiseIf_bind_eq_ok.mp h
      obtain rfl := Except.ok.inj h
      exact nodup_listRows hlist List.nodup_nil

/-! ## The files of a directory -/

section Directory

variable {t : FileTree} {p : PyStr}

theorem requireRegularFile_eq_ok {label : String} {content : List UInt8} :
    requireRegularFile t p label false = .ok content ↔ t.node p = some (.file content) := by
  rw [requireRegularFile, entryAt]
  cases hnode : t.node p with
  | none =>
    dsimp only
    split <;> simp_all
  | some entry =>
    cases entry <;> simp

theorem collectEntries_eq_ok {label : String} {paths : List PyStr} :
    collectEntries t label = .ok paths ↔
      (∀ r ∈ t.rows, checkEntry label r.1 r.2 = .ok ()) ∧
        paths = sortedBy pathOrder ((t.rows.filter fun r => r.2.content?.isSome).map Prod.fst) := by
  rw [collectEntries, Except.bind_eq_ok]
  constructor
  · rintro ⟨u, hcheck, h⟩
    exact ⟨forM_eq_ok.mp hcheck, (Except.ok.inj h).symm⟩
  · rintro ⟨hcheck, rfl⟩
    exact ⟨(), forM_eq_ok.mpr hcheck, rfl⟩

theorem content_isSome {entry : Entry} :
    entry.content?.isSome ↔ ∃ content, entry = .file content := by
  cases entry <;> simp [Entry.content?]

theorem mem_files : p ∈ (t.rows.filter fun r => r.2.content?.isSome).map Prod.fst ↔
    ∃ content, t.node p = some (.file content) := by
  rw [List.mem_map]
  constructor
  · rintro ⟨r, hr, rfl⟩
    obtain ⟨hmem, hfile⟩ := List.mem_filter.mp hr
    obtain ⟨content, hcontent⟩ := content_isSome.mp hfile
    exact ⟨content, Tree.node_eq_some.mpr (hcontent ▸ hmem)⟩
  · rintro ⟨content, hnode⟩
    exact ⟨(p, .file content), List.mem_filter.mpr ⟨Tree.node_eq_some.mp hnode, rfl⟩, rfl⟩

theorem mem_collectEntries {label : String} {paths : List PyStr}
    (h : collectEntries t label = .ok paths) :
    p ∈ paths ↔ ∃ content, t.node p = some (.file content) := by
  rw [(collectEntries_eq_ok.mp h).2, mem_sortedBy]
  exact mem_files

theorem nodup_collectEntries {label : String} {paths : List PyStr}
    (h : collectEntries t label = .ok paths) : paths.Nodup := by
  rw [(collectEntries_eq_ok.mp h).2, (sortedBy_perm pathOrder _).nodup_iff]
  exact (Table.key_nodup t).sublist (List.filter_sublist.map _)

variable {lib : StandardLibrary}

theorem mem_hashTree {hashes : List (PyStr × PyStr)} (h : hashTree lib t = .ok hashes)
    {e : PyStr × PyStr} :
    e ∈ hashes ↔ e.1 ≠ sha256sumsFilename ∧
      ∃ content, t.node e.1 = some (.file content) ∧ e.2 = sha256Of lib content := by
  obtain ⟨paths, hpaths, h⟩ := Except.bind_eq_ok.mp h
  obtain rfl := Except.ok.inj h
  rw [List.mem_map]
  constructor
  · rintro ⟨path, hpath, rfl⟩
    obtain ⟨hmem, hne⟩ := List.mem_filter.mp hpath
    obtain ⟨content, hnode⟩ := (mem_collectEntries hpaths).mp hmem
    refine ⟨of_decide_eq_true hne, content, hnode, ?_⟩
    show sha256Of lib (((t.node path).bind Entry.content?).getD []) = _
    rw [hnode]
    rfl
  · rintro ⟨hne, content, hnode, hdigest⟩
    refine ⟨e.1, List.mem_filter.mpr ⟨?_, decide_eq_true hne⟩, ?_⟩
    · exact (mem_collectEntries hpaths).mpr ⟨content, hnode⟩
    · rw [hnode]
      exact Prod.ext rfl hdigest.symm

theorem mem_map_hashTree {hashes : List (PyStr × PyStr)} (h : hashTree lib t = .ok hashes) :
    p ∈ hashes.map Prod.fst ↔
      p ≠ sha256sumsFilename ∧ ∃ content, t.node p = some (.file content) := by
  rw [List.mem_map]
  constructor
  · rintro ⟨e, he, rfl⟩
    obtain ⟨hne, content, hnode, -⟩ := (mem_hashTree h).mp he
    exact ⟨hne, content, hnode⟩
  · rintro ⟨hne, content, hnode⟩
    exact ⟨(p, sha256Of lib content), (mem_hashTree h).mpr ⟨hne, content, hnode, rfl⟩, rfl⟩

theorem nodup_hashTree {hashes : List (PyStr × PyStr)} (h : hashTree lib t = .ok hashes) :
    (hashes.map Prod.fst).Nodup := by
  obtain ⟨paths, hpaths, h⟩ := Except.bind_eq_ok.mp h
  obtain rfl := Except.ok.inj h
  rw [List.map_map]
  refine List.Nodup.map (fun _ _ heq => heq) ?_
  exact (nodup_collectEntries hpaths).sublist List.filter_sublist

end Directory

/-! ## Accepted directories -/

theorem sameElements_eq {l l' : List PyStr} : sameElements l l' = true ↔ ∀ p, p ∈ l ↔ p ∈ l' := by
  rw [sameElements, Bool.and_eq_true, List.all_eq_true, List.all_eq_true]
  constructor
  · intro h p
    exact ⟨fun hp => of_decide_eq_true (h.1 p hp), fun hp => of_decide_eq_true (h.2 p hp)⟩
  · intro h
    exact ⟨fun p hp => decide_eq_true ((h p).mp hp), fun p hp => decide_eq_true ((h p).mpr hp)⟩

theorem mismatched_eq_nil {listed actual : List (PyStr × PyStr)} :
    mismatched listed actual = [] ↔ ∀ e ∈ listed, e ∈ actual := by
  rw [mismatched, List.map_eq_nil_iff, List.filter_eq_nil_iff]
  refine forall₂_congr fun e _ => ?_
  rw [decide_eq_true_eq, not_not]

variable {lib : StandardLibrary} {t : FileTree} {directoryRunId : PyStr} {n : Nat}

/-- What `verify_preserved_run` has found in a directory that it accepts. -/
structure Verified (lib : StandardLibrary) (t : FileTree) (directoryRunId : PyStr)
    (listed : List (PyStr × PyStr)) : Prop where
  sums : ∃ raw text, t.node sha256sumsFilename = some (.file raw) ∧
    decodeSha256sumsBytes raw = .ok text ∧ readRows text = .ok listed
  recordListed : recordFilename ∈ listed.map Prod.fst
  /-- The list is that of the files, with their hashes. -/
  exactly : ∀ e, e ∈ listed ↔ e.1 ≠ sha256sumsFilename ∧
    ∃ content, t.node e.1 = some (.file content) ∧ e.2 = sha256Of lib content
  entries : ∀ r ∈ t.rows, checkEntry "preserved run" r.1 r.2 = .ok ()
  record : ∃ content record, t.node recordFilename = some (.file content) ∧
    readRecord lib content = .ok record ∧
      checkRecord record (listed.map Prod.fst) directoryRunId = .ok ()

theorem exactly_iff {listed actual : List (PyStr × PyStr)} (hactual : hashTree lib t = .ok actual) :
    (sameElements (actual.map Prod.fst) (listed.map Prod.fst) = true ∧
        mismatched listed actual = []) ↔
      ∀ e, e ∈ listed ↔ e ∈ actual := by
  rw [sameElements_eq, mismatched_eq_nil]
  constructor
  · rintro ⟨hsame, hmatch⟩ e
    refine ⟨hmatch e, fun he => ?_⟩
    obtain ⟨e', he', hpath⟩ := List.mem_map.mp ((hsame e.1).mp (List.mem_map_of_mem he))
    have heq : e' = e :=
      List.inj_on_of_nodup_map (nodup_hashTree hactual) (hmatch e' he') he hpath
    rwa [← heq]
  · intro h
    refine ⟨fun p => ?_, fun e he => (h e).mp he⟩
    simp only [List.mem_map]
    exact exists_congr fun e => and_congr_left fun _ => (h e).symm

/-- `verify_preserved_run` accepts a directory if its list is that of its files. -/
theorem verifyPreservedRun_eq_ok :
    verifyPreservedRun lib t directoryRunId = .ok n ↔
      ∃ listed, Verified lib t directoryRunId listed ∧ n = listed.length := by
  constructor
  · intro h
    obtain ⟨listed, hlisted, h⟩ := Except.bind_eq_ok.mp h
    obtain ⟨raw, hraw, hsums⟩ := Except.bind_eq_ok.mp hlisted
    obtain ⟨text, htext, hrows⟩ := Except.bind_eq_ok.mp hsums
    obtain ⟨-, h⟩ := raiseIf_bind_eq_ok.mp h
    obtain ⟨hrecord, h⟩ := raiseIf_bind_eq_ok.mp h
    obtain ⟨content, hcontent, h⟩ := Except.bind_eq_ok.mp h
    obtain ⟨actual, hactual, h⟩ := Except.bind_eq_ok.mp h
    obtain ⟨hsame, h⟩ := raiseIf_bind_eq_ok.mp h
    obtain ⟨hmatch, h⟩ := raiseIf_bind_eq_ok.mp h
    obtain ⟨record, hread, h⟩ := Except.bind_eq_ok.mp h
    obtain ⟨u, hcheck, h⟩ := Except.bind_eq_ok.mp h
    obtain rfl := Except.ok.inj h
    have hexactly := (exactly_iff hactual).mp ⟨eq_true_of_ne_false hsame, not_not.mp hmatch⟩
    obtain ⟨paths, hpaths, -⟩ := Except.bind_eq_ok.mp hactual
    refine ⟨listed, ⟨⟨raw, text, requireRegularFile_eq_ok.mp hraw, htext, hrows⟩, not_not.mp hrecord,
      fun e => (hexactly e).trans (mem_hashTree hactual), (collectEntries_eq_ok.mp hpaths).1,
      ⟨content, record, requireRegularFile_eq_ok.mp hcontent, hread, hcheck⟩⟩, rfl⟩
  · rintro ⟨listed, h, rfl⟩
    obtain ⟨raw, text, hraw, htext, hrows⟩ := h.sums
    obtain ⟨content, record, hcontent, hread, hcheck⟩ := h.record
    have hlisted : readSha256sums t = .ok listed :=
      Except.bind_eq_ok.mpr ⟨raw, requireRegularFile_eq_ok.mpr hraw,
        Except.bind_eq_ok.mpr ⟨text, htext, hrows⟩⟩
    have hne : listed ≠ [] := by
      rintro rfl
      exact absurd h.recordListed List.not_mem_nil
    obtain ⟨actual, hactual⟩ : ∃ actual, hashTree lib t = .ok actual :=
      ⟨_, Except.bind_eq_ok.mpr ⟨_, collectEntries_eq_ok.mpr ⟨h.entries, rfl⟩, rfl⟩⟩
    have hexactly := (exactly_iff hactual).mpr fun e =>
      (h.exactly e).trans (mem_hashTree hactual).symm
    refine Except.bind_eq_ok.mpr ⟨listed, hlisted, raiseIf_bind_eq_ok.mpr ⟨hne, ?_⟩⟩
    refine raiseIf_bind_eq_ok.mpr ⟨not_not.mpr h.recordListed, ?_⟩
    refine Except.bind_eq_ok.mpr ⟨content, requireRegularFile_eq_ok.mpr hcontent, ?_⟩
    refine Except.bind_eq_ok.mpr ⟨actual, hactual, ?_⟩
    refine raiseIf_bind_eq_ok.mpr ⟨by rw [hexactly.1]; decide, ?_⟩
    refine raiseIf_bind_eq_ok.mpr ⟨not_not.mpr hexactly.2, ?_⟩
    exact Except.bind_eq_ok.mpr ⟨record, hread, Except.bind_eq_ok.mpr ⟨(), hcheck, rfl⟩⟩

/-! ## Tampering -/

section Tampered

variable {listed listed' : List (PyStr × PyStr)} {t' : FileTree} {p q : PyStr}
  {content content' : List UInt8}

/-- Directories with the same `SHA256SUMS.csv` list the same. -/
theorem Verified.same_listed (h : Verified lib t directoryRunId listed)
    (h' : Verified lib t' directoryRunId listed')
    (hsums : t'.node sha256sumsFilename = t.node sha256sumsFilename) : listed' = listed := by
  obtain ⟨raw, text, hraw, htext, hrows⟩ := h.sums
  obtain ⟨raw', text', hraw', htext', hrows'⟩ := h'.sums
  rw [hsums, hraw] at hraw'
  obtain rfl := Entry.file.inj (Option.some.inj hraw')
  obtain rfl := Except.ok.inj (htext.symm.trans htext')
  exact Except.ok.inj (hrows'.symm.trans hrows)

/-- Directories with the same list have the same files with the same hashes. -/
theorem Verified.same_hash (h : Verified lib t directoryRunId listed)
    (h' : Verified lib t' directoryRunId listed) (hp : p ≠ sha256sumsFilename)
    (hnode : t.node p = some (.file content)) :
    ∃ content', t'.node p = some (.file content') ∧
      sha256Of lib content' = sha256Of lib content := by
  have hlisted := (h.exactly (p, sha256Of lib content)).mpr ⟨hp, content, hnode, rfl⟩
  obtain ⟨-, content', hnode', heq⟩ := (h'.exactly _).mp hlisted
  exact ⟨content', hnode', heq.symm⟩

/-- The files of the record are the listed ones. -/
theorem mem_of_checkRecord {record : List (String × Json)} {listedPaths : List PyStr}
    (h : checkRecord record listedPaths directoryRunId = .ok ()) :
    ∃ files, (member record "files").bind jsonStrings? = some files ∧
      ∀ p, p ∈ files.map py ↔ p ∈ listedPaths ∧ p ≠ recordFilename := by
  obtain ⟨-, h⟩ := raiseIf_bind_eq_ok.mp h
  split at h
  · exact absurd h (by simp)
  · obtain ⟨-, h⟩ := raiseIf_bind_eq_ok.mp h
    obtain ⟨-, h⟩ := raiseIf_bind_eq_ok.mp h
    split at h
    · exact absurd h (by simp)
    · rename_i files hfiles
      obtain ⟨hsorted, -⟩ := raiseIf_bind_eq_ok.mp h
      refine ⟨files, hfiles, fun p => ?_⟩
      rw [not_not.mp hsorted, mem_sortedBy, List.mem_filter, decide_eq_true_eq]

/-- The record holds the list of the files: directories with the same record have the same
ones. -/
theorem Verified.same_files (h : Verified lib t directoryRunId listed)
    (h' : Verified lib t' directoryRunId listed')
    (hrecord : t'.node recordFilename = t.node recordFilename) (hp : p ≠ recordFilename)
    (hlisted : p ∈ listed.map Prod.fst) : p ∈ listed'.map Prod.fst := by
  obtain ⟨content, record, hnode, hread, hcheck⟩ := h.record
  obtain ⟨content', record', hnode', hread', hcheck'⟩ := h'.record
  rw [hrecord, hnode] at hnode'
  obtain rfl := Entry.file.inj (Option.some.inj hnode')
  obtain rfl := Except.ok.inj (hread.symm.trans hread')
  obtain ⟨files, hfiles, hmem⟩ := mem_of_checkRecord hcheck
  obtain ⟨files', hfiles', hmem'⟩ := mem_of_checkRecord hcheck'
  obtain rfl := Option.some.inj (hfiles.symm.trans hfiles')
  exact ((hmem' p).mp ((hmem p).mpr ⟨hlisted, hp⟩)).1

theorem error_of_not_ok {x : Except PreservationError Nat} (h : ∀ n, x ≠ .ok n) :
    ∃ e, x = .error e := by
  cases x with
  | error e => exact ⟨e, rfl⟩
  | ok n => exact absurd rfl (h n)

/-- A changed file is found, if it is not the list of hashes itself. -/
theorem tampered_put (hinjective : Function.Injective lib.hexdigest)
    (h : verifyPreservedRun lib t directoryRunId = .ok n) (hp : p ≠ sha256sumsFilename)
    (hnode : t.node p = some (.file content)) (hne : content' ≠ content) :
    ∃ e, verifyPreservedRun lib (t.put p (.file content')) directoryRunId = .error e := by
  refine error_of_not_ok fun n' h' => ?_
  obtain ⟨listed, hv, -⟩ := verifyPreservedRun_eq_ok.mp h
  obtain ⟨listed', hv', -⟩ := verifyPreservedRun_eq_ok.mp h'
  obtain rfl := hv.same_listed hv' (by rw [Tree.node_put, if_neg hp.symm])
  obtain ⟨content'', hnode', hdigest⟩ := hv.same_hash hv' hp hnode
  rw [Tree.node_put, if_pos rfl] at hnode'
  obtain rfl := Entry.file.inj (Option.some.inj hnode')
  have hhex : lib.hexdigest content' = lib.hexdigest content :=
    List.map_injective_iff.mpr (fun a b hab => PyChar.char.inj hab) hdigest
  exact hne (hinjective hhex)

/-- An added file is found. -/
theorem tampered_add (h : verifyPreservedRun lib t directoryRunId = .ok n)
    (hnode : t.node p = none) :
    ∃ e, verifyPreservedRun lib (t.put p (.file content)) directoryRunId = .error e := by
  refine error_of_not_ok fun n' h' => ?_
  obtain ⟨listed, hv, -⟩ := verifyPreservedRun_eq_ok.mp h
  obtain ⟨listed', hv', -⟩ := verifyPreservedRun_eq_ok.mp h'
  have hp : p ≠ sha256sumsFilename := by
    rintro rfl
    obtain ⟨raw, text, hraw, -⟩ := hv.sums
    exact absurd (hnode.symm.trans hraw) (by simp)
  obtain rfl := hv.same_listed hv' (by rw [Tree.node_put, if_neg hp.symm])
  have hput : (t.put p (.file content)).node p = some (.file content) := by
    rw [Tree.node_put, if_pos rfl]
  obtain ⟨content', hnode', -⟩ := hv'.same_hash hv hp hput
  exact absurd (hnode.symm.trans hnode') (by simp)

/-- A directory in which a listed file is no longer there, and that has the list it had, is
not accepted. -/
theorem not_verified_of_gone (hv : Verified lib t directoryRunId listed)
    (hv' : Verified lib t' directoryRunId listed') (hnode : t.node p = some (.file content))
    (hgone : t'.node p = none)
    (hsums : p ≠ sha256sumsFilename → t'.node sha256sumsFilename = t.node sha256sumsFilename) :
    False := by
  by_cases hp : p = sha256sumsFilename
  · obtain ⟨raw, text, hraw, -⟩ := hv'.sums
    rw [← hp, hgone] at hraw
    exact absurd hraw (by simp)
  · obtain rfl := hv.same_listed hv' (hsums hp)
    obtain ⟨content', hnode', -⟩ := hv.same_hash hv' hp hnode
    exact absurd (hgone.symm.trans hnode') (by simp)

/-- A removed file is found. -/
theorem tampered_remove (h : verifyPreservedRun lib t directoryRunId = .ok n)
    (hnode : t.node p = some (.file content)) :
    ∃ e, verifyPreservedRun lib (t.remove p) directoryRunId = .error e := by
  refine error_of_not_ok fun n' h' => ?_
  obtain ⟨listed, hv, -⟩ := verifyPreservedRun_eq_ok.mp h
  obtain ⟨listed', hv', -⟩ := verifyPreservedRun_eq_ok.mp h'
  refine not_verified_of_gone hv hv' hnode (by rw [Tree.node_remove, if_pos rfl]) fun hp => ?_
  rw [Tree.node_remove, if_neg hp.symm]

/-- A renamed file is found, also one that takes the place of another. -/
theorem tampered_rename (h : verifyPreservedRun lib t directoryRunId = .ok n)
    (hnode : t.node p = some (.file content)) (hq : q ≠ p) :
    ∃ e, verifyPreservedRun lib ((t.remove p).put q (.file content)) directoryRunId = .error e := by
  refine error_of_not_ok fun n' h' => ?_
  obtain ⟨listed, hv, -⟩ := verifyPreservedRun_eq_ok.mp h
  obtain ⟨listed', hv', -⟩ := verifyPreservedRun_eq_ok.mp h'
  have hnode' : ∀ r, ((t.remove p).put q (.file content)).node r =
      if r = q then some (.file content) else if r = p then none else t.node r := by
    intro r
    rw [Tree.node_put, Tree.node_remove]
  have hgone : ((t.remove p).put q (.file content)).node p = none := by
    rw [hnode', if_neg hq.symm, if_pos rfl]
  by_cases hsums : q = sha256sumsFilename
  · -- the list is the content of `p`, but the record still has `p` among its files
    have hp : p ≠ sha256sumsFilename := fun hp => hq (hsums.trans hp.symm)
    have habsent : p ∉ listed'.map Prod.fst := by
      intro hmem
      obtain ⟨e, he, rfl⟩ := List.mem_map.mp hmem
      obtain ⟨-, content', hfile, -⟩ := (hv'.exactly e).mp he
      exact absurd (hgone.symm.trans hfile) (by simp)
    have hrecord : p ≠ recordFilename := by
      rintro rfl
      exact habsent hv'.recordListed
    have hne : recordFilename ≠ sha256sumsFilename := by decide
    refine habsent (hv.same_files hv' ?_ hrecord ?_)
    · rw [hnode', if_neg (fun heq => hne (heq.trans hsums)), if_neg hrecord.symm]
    · exact List.mem_map.mpr ⟨(p, sha256Of lib content),
        (hv.exactly _).mpr ⟨hp, content, hnode, rfl⟩, rfl⟩
  · refine not_verified_of_gone hv hv' hnode hgone fun hp => ?_
    rw [hnode', if_neg (Ne.symm hsums), if_neg hp.symm]

end Tampered

end IncidentAwareness.Preservation
