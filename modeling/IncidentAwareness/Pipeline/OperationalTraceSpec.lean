import IncidentAwareness.Pipeline.OperationalTrace
import Mathlib.Logic.Function.Basic

/-!
# What torn appends leave of the trace

Over any calls of `append`, each of which a crash may cut off, the file is in one of
three states (`after_inState`): its records with their newlines; the same with one
more record that lacks its newline; or bytes that `records` refuses from then on.
An append onto the second returns, but its record lands on the unterminated line, so
the trace survives exactly where every append that returns starts on a terminated
file (`survivesTornAppends_iff`).
-/

namespace IncidentAwareness.Pipeline

open IncidentAwareness.Common IncidentAwareness.Lib

/-! ## Lines -/

theorem splitlines_line {line : List UInt8} (h : ∀ b ∈ line, NoBreak b) (bytes : List UInt8) :
    splitlines (line ++ 10 :: bytes) = line :: splitlines bytes := by
  induction line with
  | nil => rfl
  | cons b line ih =>
    have hb := h b List.mem_cons_self
    have hrest := ih fun c hc => h c (List.mem_cons_of_mem _ hc)
    rw [List.cons_append, splitlines, hrest]
    · exact hb.1
    · exact fun _ hc => absurd hc hb.2
    · exact hb.2

theorem splitlines_last {line : List UInt8} (h : ∀ b ∈ line, NoBreak b) (hne : line ≠ []) :
    splitlines line = [line] := by
  induction line with
  | nil => exact absurd rfl hne
  | cons b line ih =>
    have hb := h b List.mem_cons_self
    rw [splitlines]
    · cases line with
      | nil => rfl
      | cons c line => rw [ih (fun d hd => h d (List.mem_cons_of_mem _ hd)) (by simp)]
    · exact hb.1
    · exact fun _ hc => absurd hc hb.2
    · exact hb.2

theorem noBreak_encode (r : R1OperationalTraceRecord) : ∀ b ∈ encode r, NoBreak b :=
  noBreak_dumps _

/-- A record's line begins with a brace. -/
theorem encode_eq_cons (r : R1OperationalTraceRecord) : ∃ rest, encode r = 123 :: rest := ⟨_, rfl⟩

theorem encode_ne_nil (r : R1OperationalTraceRecord) : encode r ≠ [] := by
  obtain ⟨rest, h⟩ := encode_eq_cons r
  rw [h]
  exact List.cons_ne_nil _ _

namespace R1OperationalTrace

variable {trace : R1OperationalTrace}

/-- White space of JSON. -/
def IsWhite (b : UInt8) : Prop := b = 32 ∨ b = 9 ∨ b = 10 ∨ b = 13

/-- The details of a record are those of a call. -/
def Shallow (r : R1OperationalTraceRecord) : Prop := (Json.obj r.val.details).depth ≤ detailsDepth

/-- What the trace relies on: a digest has one text, a record is read from its own line, and a line
is refused where its object is not finished or is followed by more than white space. -/
structure Laws (trace : R1OperationalTrace) : Prop where
  sha256_injective : Function.Injective trace.sha256
  reads : ∀ r, Shallow r → trace.modelValidateJson (encode r) = some r
  unfinished : ∀ r line, line <+: encode r → line ≠ encode r → trace.modelValidateJson line = none
  trailing : ∀ r b rest, ¬ IsWhite b → trace.modelValidateJson (encode r ++ b :: rest) = none

/-! ## Chains of records -/

/-- The digest of the last record's line. -/
def lastDigest (trace : R1OperationalTrace) (rs : List R1OperationalTraceRecord) : Option String :=
  rs.getLast?.map fun r => trace.sha256 (encode r)

theorem lastDigest_concat (rs : List R1OperationalTraceRecord) (r : R1OperationalTraceRecord) :
    trace.lastDigest (rs ++ [r]) = some (trace.sha256 (encode r)) := by
  unfold lastDigest
  rw [List.getLast?_concat]
  rfl

/-- Records that name their places and their predecessors' digests. -/
inductive Chain (trace : R1OperationalTrace) : List R1OperationalTraceRecord → Prop where
  | nil : Chain trace []
  | snoc {rs : List R1OperationalTraceRecord} {r : R1OperationalTraceRecord} (h : Chain trace rs)
      (hdepth : Shallow r) (hsequence : r.val.sequence = rs.length + 1)
      (hprevious : r.val.previousRecordSha256 = trace.lastDigest rs) : Chain trace (rs ++ [r])

/-- The lines of records, each with its newline. -/
def text (rs : List R1OperationalTraceRecord) : List UInt8 := rs.flatMap fun r => encode r ++ [10]

theorem text_concat (rs : List R1OperationalTraceRecord) (r : R1OperationalTraceRecord) :
    text (rs ++ [r]) = text rs ++ (encode r ++ [10]) := by
  simp [text]

theorem text_singleton (r : R1OperationalTraceRecord) : text [r] = encode r ++ [10] :=
  List.append_nil _

theorem readLine_eq (hlaws : trace.Laws) {rs : List R1OperationalTraceRecord}
    {r : R1OperationalTraceRecord} (hdepth : Shallow r)
    (hsequence : r.val.sequence = rs.length + 1)
    (hprevious : r.val.previousRecordSha256 = trace.lastDigest rs) :
    trace.readLine (rs, trace.lastDigest rs) (encode r) =
      .ok (rs ++ [r], trace.lastDigest (rs ++ [r])) := by
  unfold readLine
  rw [hlaws.reads r hdepth, lastDigest_concat]
  dsimp only
  rw [raiseIf_of_not (by simp [hsequence, hprevious])]
  rfl

/-- Reading the lines of a chain, whatever follows them. -/
theorem foldlM_text (hlaws : trace.Laws) {rs : List R1OperationalTraceRecord}
    (h : trace.Chain rs) (rest : List UInt8) :
    (splitlines (text rs ++ rest)).foldlM trace.readLine ([], none) =
      (splitlines rest).foldlM trace.readLine (rs, trace.lastDigest rs) := by
  induction h generalizing rest with
  | nil => rfl
  | @snoc rs r h hdepth hsequence hprevious ih =>
    rw [text_concat, List.append_assoc, ih, List.append_assoc, List.singleton_append,
      splitlines_line (noBreak_encode r), List.foldlM_cons, readLine_eq hlaws hdepth hsequence hprevious]
    rfl

theorem records_eq {file : Option (List UInt8)} (hlaws : trace.Laws)
    {rs : List R1OperationalTraceRecord} (h : trace.Chain rs) {rest : List UInt8}
    (hfile : file.getD [] = text rs ++ rest) :
    trace.records file =
      Prod.fst <$> (splitlines rest).foldlM trace.readLine (rs, trace.lastDigest rs) := by
  unfold records lines
  rw [hfile, foldlM_text hlaws h]

/-- A file that ends in the lines of a chain is read as this chain. -/
theorem records_text {file : Option (List UInt8)} (hlaws : trace.Laws)
    {rs : List R1OperationalTraceRecord} (h : trace.Chain rs) (hfile : file.getD [] = text rs) :
    trace.records file = .ok rs := by
  have hnil : file.getD [] = text rs ++ [] := by rw [hfile, List.append_nil]
  rw [records_eq hlaws h hnil]
  rfl

/-- A line that is no record makes the file unreadable. -/
theorem records_corrupted {file : Option (List UInt8)} (hlaws : trace.Laws)
    {rs : List R1OperationalTraceRecord} (h : trace.Chain rs) {line rest : List UInt8}
    (hfile : file.getD [] = text rs ++ rest) (hrest : splitlines rest = [line])
    (hline : trace.modelValidateJson line = none) : ∃ e, trace.records file = .error e := by
  rw [records_eq hlaws h hfile, hrest]
  refine ⟨.valueError ("operational trace is corrupted: " ++ trace.path), ?_⟩
  simp only [List.foldlM_cons, readLine, hline]
  rfl

/-! ## States of the file -/

/-- The file after appends that completed these records: their lines; the lines with the last
newline missing; or bytes that are refused. -/
inductive InState (trace : R1OperationalTrace) (file : Option (List UInt8)) :
    List R1OperationalTraceRecord → Prop where
  | clean {rs : List R1OperationalTraceRecord} (chain : trace.Chain rs)
      (bytes : file.getD [] = text rs) : InState trace file rs
  | unterminated {rs : List R1OperationalTraceRecord} {r : R1OperationalTraceRecord}
      (chain : trace.Chain rs) (next : trace.Chain (rs ++ [r]))
      (bytes : file.getD [] = text rs ++ encode r) : InState trace file (rs ++ [r])
  | broken {rs : List R1OperationalTraceRecord} {e : PyError}
      (refused : trace.records file = .error e) : InState trace file rs

theorem records_unterminated {file : Option (List UInt8)} (hlaws : trace.Laws)
    {rs : List R1OperationalTraceRecord} {r : R1OperationalTraceRecord} (h : trace.Chain rs)
    (hnext : trace.Chain (rs ++ [r])) (hfile : file.getD [] = text rs ++ encode r) :
    trace.records file = .ok (rs ++ [r]) := by
  -- the newline changes nothing for the reader
  have hline : splitlines (encode r) = splitlines (encode r ++ [10]) := by
    rw [splitlines_last (noBreak_encode r) (encode_ne_nil r), splitlines_line (noBreak_encode r)]
    rfl
  have hterminated : (some (text (rs ++ [r])) : Option (List UInt8)).getD [] =
      text rs ++ (encode r ++ [10]) := text_concat rs r
  rw [records_eq hlaws h hfile, hline, ← records_eq hlaws h hterminated]
  exact records_text hlaws hnext rfl

/-- What the next record is. -/
theorem nextRecord_eq_ok {file : Option (List UInt8)} {call : Append}
    {r : R1OperationalTraceRecord} {rs : List R1OperationalTraceRecord}
    (hrecords : trace.records file = .ok rs) (h : trace.nextRecord file call = .ok r) :
    Shallow r ∧ r.val.sequence = rs.length + 1 ∧
      r.val.previousRecordSha256 = trace.lastDigest rs := by
  unfold nextRecord at h
  rw [hrecords, Except.ok_bind'] at h
  dsimp only at h
  rw [Except.bind_eq_ok] at h
  obtain ⟨observedAt, -, h⟩ := h
  rw [Shallow, val_of_construct h]
  exact ⟨call.details_depth, rfl, rfl⟩

/-- The records that an append completed. -/
def completedBy : Appended → List R1OperationalTraceRecord
  | .returned r => [r]
  | .cutOff r written => if (encode r).length ≤ written then [r] else []
  | .raised _ => []

/-- The bytes that an append leaves after those before. -/
theorem append_eq {file : Option (List UInt8)} {call : Append} {r : R1OperationalTraceRecord}
    (h : trace.nextRecord file call = .ok r) :
    ((trace.append file call).1.getD [] = file.getD [] ++ (encode r ++ [10]) ∧
      completedBy (trace.append file call).2 = [r]) ∨
    ((trace.append file call).1.getD [] = file.getD [] ++ encode r ∧
      completedBy (trace.append file call).2 = [r]) ∨
    ∃ line, (trace.append file call).1.getD [] = file.getD [] ++ line ∧
      line <+: encode r ∧ line ≠ encode r ∧ completedBy (trace.append file call).2 = [] := by
  unfold append
  rw [h]
  dsimp only
  cases hcut : call.cut with
  | none => exact .inl ⟨rfl, rfl⟩
  | some n =>
    dsimp only [completedBy, Option.getD_some]
    rcases Nat.lt_trichotomy n (encode r).length with hlt | rfl | hgt
    · refine .inr (.inr ⟨(encode r).take n, ?_, List.take_prefix _ _, fun heq => ?_, ?_⟩)
      · rw [List.take_append_of_le_length (Nat.le_of_lt hlt)]
      · have hlength := congrArg List.length heq
        rw [List.length_take] at hlength
        omega
      · rw [if_neg (by omega)]
    · refine .inr (.inl ⟨?_, ?_⟩)
      · rw [List.take_append_of_le_length (Nat.le_refl _), List.take_length]
      · rw [if_pos (Nat.le_refl _)]
    · refine .inl ⟨?_, ?_⟩
      · rw [List.take_of_length_le]
        rw [List.length_append, List.length_singleton]
        omega
      · rw [if_pos (Nat.le_of_lt hgt)]

/-- A record's line after an unterminated one is no record. -/
theorem refused_after (hlaws : trace.Laws) (r r' : R1OperationalTraceRecord) {line : List UInt8}
    (hline : line <+: encode r') (hne : line ≠ []) :
    trace.modelValidateJson (encode r ++ line) = none := by
  obtain ⟨rest, hrest⟩ := encode_eq_cons r'
  cases line with
  | nil => exact absurd rfl hne
  | cons b line =>
    rw [hrest, List.cons_prefix_cons] at hline
    obtain ⟨rfl, -⟩ := hline
    exact hlaws.trailing r 123 line (by simp [IsWhite])

theorem noBreak_joined (r r' : R1OperationalTraceRecord) {line : List UInt8}
    (hline : line <+: encode r') : ∀ b ∈ encode r ++ line, NoBreak b := by
  intro b hb
  rcases List.mem_append.mp hb with hb | hb
  · exact noBreak_encode r b hb
  · exact noBreak_encode r' b (hline.subset hb)

/-- A record written after an unterminated one shares its line, which is refused. -/
theorem records_joined (hlaws : trace.Laws) {file : Option (List UInt8)}
    {rs : List R1OperationalTraceRecord} (h : trace.Chain rs) {r r' : R1OperationalTraceRecord}
    (hfile : file.getD [] = text rs ++ encode r ++ (encode r' ++ [10])) :
    ∃ e, trace.records file = .error e := by
  have hline : splitlines (encode r ++ encode r' ++ [10]) = [encode r ++ encode r'] := by
    rw [splitlines_line (noBreak_joined r r' List.prefix_rfl)]
    rfl
  refine records_corrupted hlaws h ?_ hline
    (refused_after hlaws r r' List.prefix_rfl (encode_ne_nil r'))
  rw [hfile, List.append_assoc, List.append_assoc]

/-- One append, whole or cut off, keeps the file in one of its states. -/
theorem InState.append (hlaws : trace.Laws) {file : Option (List UInt8)}
    {rs : List R1OperationalTraceRecord} (h : trace.InState file rs) (call : Append) :
    trace.InState (trace.append file call).1 (rs ++ completedBy (trace.append file call).2) := by
  cases hnext : trace.nextRecord file call with
  | error e =>
    have hsame : trace.append file call = (file, .raised e) := by
      unfold R1OperationalTrace.append
      rw [hnext]
    rw [hsame]
    show trace.InState file (rs ++ [])
    rwa [List.append_nil]
  | ok r' =>
    cases h with
    | @clean rs chain bytes =>
      obtain ⟨hdepth, hsequence, hprevious⟩ :=
        nextRecord_eq_ok (records_text hlaws chain bytes) hnext
      have hchain : trace.Chain (rs ++ [r']) := .snoc chain hdepth hsequence hprevious
      rcases append_eq hnext with ⟨hbytes, hdone⟩ | ⟨hbytes, hdone⟩ | ⟨line, hbytes, hpre, hne, hdone⟩
      · rw [hdone]
        exact .clean hchain (by rw [hbytes, bytes, text_concat])
      · rw [hdone]
        exact .unterminated chain hchain (by rw [hbytes, bytes])
      · rw [hdone, List.append_nil]
        by_cases hnil : line = []
        · exact .clean chain (by rw [hbytes, bytes, hnil, List.append_nil])
        · have hbreaks : ∀ b ∈ line, NoBreak b := fun b hb => noBreak_encode r' b (hpre.subset hb)
          obtain ⟨e, he⟩ := records_corrupted hlaws chain (by rw [hbytes, bytes])
            (splitlines_last hbreaks hnil) (hlaws.unfinished r' line hpre hne)
          exact .broken he
    | @unterminated rs r chain next bytes =>
      have hrefused : ∀ line, line <+: encode r' → line ≠ [] →
          (trace.append file call).1.getD [] = file.getD [] ++ line →
          ∃ e, trace.records (trace.append file call).1 = .error e := by
        intro line hpre hne hbytes
        exact records_corrupted hlaws chain (by rw [hbytes, bytes, List.append_assoc])
          (splitlines_last (noBreak_joined r r' hpre) (by simp [hne]))
          (refused_after hlaws r r' hpre hne)
      rcases append_eq hnext with ⟨hbytes, -⟩ | ⟨hbytes, -⟩ | ⟨line, hbytes, hpre, hne, hdone⟩
      · obtain ⟨e, he⟩ := records_joined hlaws chain (by rw [hbytes, bytes])
        exact .broken he
      · obtain ⟨e, he⟩ := hrefused _ List.prefix_rfl (encode_ne_nil r') hbytes
        exact .broken he
      · by_cases hnil : line = []
        · rw [hdone, List.append_nil]
          exact .unterminated chain next (by rw [hbytes, bytes, hnil, List.append_nil])
        · obtain ⟨e, he⟩ := hrefused line hpre hnil hbytes
          exact .broken he
    | @broken rs e refused =>
      unfold nextRecord at hnext
      rw [refused] at hnext
      exact absurd hnext (by simp)

/-- The records that calls of `append` completed, in their order. -/
def completed (calls : List (Append × Appended)) : List R1OperationalTraceRecord :=
  calls.flatMap fun call => completedBy call.2

/-- The file after any appends is in one of its states, with the records they completed. -/
theorem after_inState (hlaws : trace.Laws) (calls : List Append) :
    trace.InState (after trace.append none calls) (completed (Lib.trace trace.append none calls)) := by
  refine run_trace_induction trace.append
    (P := fun file calls => trace.InState file (completed calls)) (.clean .nil rfl) ?_ calls
  intro file calls call h
  have hcompleted : completed (calls ++ [(call, (trace.append file call).2)]) =
      completed calls ++ completedBy (trace.append file call).2 := by
    simp [completed]
  rw [hcompleted]
  exact h.append hlaws call

/-! ## Edited files -/

/-- Reading one line more. -/
theorem foldlM_concat_eq_ok {lines : List (List UInt8)} {line : List UInt8}
    {rs : List R1OperationalTraceRecord} {digest : Option String}
    (h : (lines ++ [line]).foldlM trace.readLine ([], none) = .ok (rs, digest)) :
    ∃ before previous r, lines.foldlM trace.readLine ([], none) = .ok (before, previous) ∧
      trace.modelValidateJson line = some r ∧ r.val.sequence = before.length + 1 ∧
      r.val.previousRecordSha256 = previous ∧ rs = before ++ [r] ∧
      digest = some (trace.sha256 line) := by
  rw [List.foldlM_append, Except.bind_eq_ok] at h
  obtain ⟨state, hbefore, h⟩ := h
  obtain ⟨before, previous⟩ := state
  rw [List.foldlM_cons, Except.bind_eq_ok] at h
  obtain ⟨next, hline, h⟩ := h
  obtain rfl := Except.ok.inj h
  unfold readLine at hline
  split at hline
  · cases hline
  · next r hr =>
    rw [raiseIf_bind_eq_ok, Except.pure_eq_ok, not_or, not_not, not_not] at hline
    obtain ⟨⟨hsequence, hprevious⟩, heq⟩ := hline
    obtain ⟨rfl, rfl⟩ := Prod.mk.inj heq
    exact ⟨before, previous, r, hbefore, hr, hsequence, hprevious, rfl, rfl⟩

/-- As many lines with the same last digest are the same lines. -/
theorem lines_unique (hlaws : trace.Laws) : ∀ {lines lines' : List (List UInt8)}
    {rs rs' : List R1OperationalTraceRecord} {digest : Option String},
    lines.foldlM trace.readLine ([], none) = .ok (rs, digest) →
    lines'.foldlM trace.readLine ([], none) = .ok (rs', digest) →
    rs.length = rs'.length → lines = lines' ∧ rs = rs' := by
  intro lines
  induction lines using List.reverseRecOn with
  | nil =>
    intro lines' rs rs' digest h h' hlength
    obtain ⟨rfl, rfl⟩ := Prod.mk.inj (Except.ok.inj h)
    rcases List.eq_nil_or_concat lines' with rfl | ⟨init, line, rfl⟩
    · obtain ⟨rfl, -⟩ := Prod.mk.inj (Except.ok.inj h')
      exact ⟨rfl, rfl⟩
    · rw [List.concat_eq_append] at h'
      obtain ⟨_, _, r, -, -, -, -, rfl, -⟩ := foldlM_concat_eq_ok h'
      simp at hlength
  | append_singleton lines line ih =>
    intro lines' rs rs' digest h h' hlength
    obtain ⟨before, previous, r, hbefore, hr, hsequence, hprevious, rfl, rfl⟩ :=
      foldlM_concat_eq_ok h
    rcases List.eq_nil_or_concat lines' with rfl | ⟨init, line', rfl⟩
    · obtain ⟨rfl, -⟩ := Prod.mk.inj (Except.ok.inj h')
      simp at hlength
    · rw [List.concat_eq_append] at h' ⊢
      obtain ⟨before', previous', r', hbefore', hr', -, hprevious', rfl, hdigest⟩ :=
        foldlM_concat_eq_ok h'
      obtain rfl : line = line' := hlaws.sha256_injective (Option.some.inj hdigest)
      obtain rfl : r = r' := Option.some.inj (hr.symm.trans hr')
      rw [← hprevious', hprevious] at hbefore'
      rw [List.length_append, List.length_append] at hlength
      obtain ⟨rfl, rfl⟩ := ih hbefore hbefore' (Nat.add_right_cancel hlength)
      exact ⟨rfl, rfl⟩

/-- Readable files with the same last record have the same records, and the same lines before the
last. -/
theorem records_of_last (hlaws : trace.Laws) {file edited : Option (List UInt8)}
    {rs rs' : List R1OperationalTraceRecord} (h : trace.records file = .ok rs)
    (h' : trace.records edited = .ok rs') (hlast : rs'.getLast? = rs.getLast?) :
    rs' = rs ∧ (lines edited).dropLast = (lines file).dropLast := by
  have hread : ∀ {file : Option (List UInt8)} {rs : List R1OperationalTraceRecord},
      trace.records file = .ok rs →
      ∃ digest, (lines file).foldlM trace.readLine ([], none) = .ok (rs, digest) := by
    intro file rs h
    unfold records at h
    cases hfold : (lines file).foldlM trace.readLine ([], none) with
    | error e =>
      rw [hfold] at h
      cases h
    | ok state =>
      rw [hfold] at h
      obtain rfl := Except.ok.inj h
      exact ⟨state.2, rfl⟩
  obtain ⟨digest, h⟩ := hread h
  obtain ⟨digest', h'⟩ := hread h'
  generalize lines file = ls at h ⊢
  generalize lines edited = ls' at h' ⊢
  rcases List.eq_nil_or_concat ls with rfl | ⟨init, line, rfl⟩
  · obtain ⟨rfl, -⟩ := Prod.mk.inj (Except.ok.inj h)
    obtain rfl : rs' = [] := List.getLast?_eq_none_iff.mp hlast
    rcases List.eq_nil_or_concat ls' with rfl | ⟨init', line', rfl⟩
    · exact ⟨rfl, rfl⟩
    · rw [List.concat_eq_append] at h'
      obtain ⟨_, _, r, -, -, -, -, hrs, -⟩ := foldlM_concat_eq_ok h'
      simp at hrs
  · rw [List.concat_eq_append] at h ⊢
    obtain ⟨before, previous, r, hbefore, -, hsequence, hprevious, rfl, -⟩ := foldlM_concat_eq_ok h
    rw [List.getLast?_concat] at hlast
    rcases List.eq_nil_or_concat ls' with rfl | ⟨init', line', rfl⟩
    · obtain ⟨rfl, -⟩ := Prod.mk.inj (Except.ok.inj h')
      simp at hlast
    · rw [List.concat_eq_append] at h' ⊢
      obtain ⟨before', previous', r', hbefore', -, hsequence', hprevious', rfl, -⟩ :=
        foldlM_concat_eq_ok h'
      rw [List.getLast?_concat] at hlast
      obtain rfl : r' = r := Option.some.inj hlast
      rw [← hprevious'] at hbefore'
      rw [← hprevious] at hbefore
      obtain ⟨rfl, rfl⟩ := lines_unique hlaws hbefore' hbefore (by omega)
      exact ⟨rfl, by rw [List.dropLast_concat, List.dropLast_concat]⟩

/-! ## What survives -/

/-- What the trace promises over calls of `append`, each of which may be cut off. -/
structure SurvivesTornAppends (trace : R1OperationalTrace) (calls : List Append) : Prop where
  /-- What is read is what was completed. -/
  exact : ∀ pre, pre <+: calls → ∀ rs, trace.records (after trace.append none pre) = .ok rs →
    rs = completed (Lib.trace trace.append none pre)
  /-- An append that returns is read after what was read before. -/
  delivered : ∀ pre call post, calls = pre ++ call :: post → ∀ r,
    (trace.append (after trace.append none pre) call).2 = .returned r →
    ∃ before, trace.records (after trace.append none pre) = .ok before ∧
      trace.records (trace.append (after trace.append none pre) call).1 = .ok (before ++ [r])
  /-- An edit that leaves the last record is refused, unless it leaves the records and their
  lines. -/
  guarded : ∀ pre, pre <+: calls → ∀ rs, trace.records (after trace.append none pre) = .ok rs →
    ∀ edited rs', trace.records edited = .ok rs' → rs'.getLast? = rs.getLast? →
      rs' = rs ∧ (lines edited).dropLast = (lines (after trace.append none pre)).dropLast

/-- The file is empty or ends in a newline. -/
def Terminated (file : Option (List UInt8)) : Prop := ∀ b ∈ (file.getD []).getLast?, b = 10

/-- An append that returns was not cut off. -/
theorem append_returned {file : Option (List UInt8)} {call : Append} {r : R1OperationalTraceRecord}
    (h : (trace.append file call).2 = .returned r) :
    trace.nextRecord file call = .ok r ∧
      (trace.append file call).1 = some (file.getD [] ++ (encode r ++ [10])) := by
  unfold append at h ⊢
  split at h
  · cases h
  · next record hrecord =>
    rw [hrecord]
    dsimp only at h ⊢
    split at h
    · next hcut =>
      obtain rfl : record = r := Appended.returned.inj h
      exact ⟨rfl, rfl⟩
    · cases h

/-- An append that is cut off does not return. -/
theorem append_of_cut {file : Option (List UInt8)} {call : Append} {r : R1OperationalTraceRecord}
    {n : Nat} (h : trace.nextRecord file call = .ok r) (hcut : call.cut = some n) :
    trace.append file call =
      (some (file.getD [] ++ (encode r ++ [10]).take n), .cutOff r n) := by
  unfold append
  rw [h]
  dsimp only
  rw [hcut]

theorem after_of_cut {calls : List Append} {call : Append} {r : R1OperationalTraceRecord} {n : Nat}
    (h : trace.nextRecord (after trace.append none calls) call = .ok r) (hcut : call.cut = some n) :
    after trace.append none (calls ++ [call]) =
      some ((after trace.append none calls).getD [] ++ (encode r ++ [10]).take n) := by
  rw [after_append]
  exact congrArg Prod.fst (append_of_cut h hcut)

theorem terminated_text (rs : List R1OperationalTraceRecord) {file : Option (List UInt8)}
    (hfile : file.getD [] = text rs) : Terminated file := by
  intro b hb
  rw [hfile] at hb
  rcases List.eq_nil_or_concat rs with rfl | ⟨init, r, rfl⟩
  · cases hb
  · rw [List.concat_eq_append, text_concat, ← List.append_assoc, List.getLast?_concat] at hb
    exact (Option.some.inj hb).symm

theorem not_terminated_of_unterminated {file : Option (List UInt8)} {bytes : List UInt8}
    {r : R1OperationalTraceRecord} (hfile : file.getD [] = bytes ++ encode r) : ¬ Terminated file := by
  intro h
  rcases List.eq_nil_or_concat (encode r) with hnil | ⟨init, b, hb⟩
  · exact encode_ne_nil r hnil
  · rw [List.concat_eq_append] at hb
    have hlast : b = 10 := h b (by rw [hfile, hb, ← List.append_assoc, List.getLast?_concat]; rfl)
    exact (noBreak_encode r b (by rw [hb]; simp)).1 hlast

/-- What is read is what was completed. -/
theorem InState.records_eq_ok (hlaws : trace.Laws) {file : Option (List UInt8)}
    {done rs : List R1OperationalTraceRecord} (h : trace.InState file done)
    (hrs : trace.records file = .ok rs) : rs = done := by
  cases h with
  | clean chain bytes =>
    rw [records_text hlaws chain bytes] at hrs
    exact (Except.ok.inj hrs).symm
  | unterminated chain next bytes =>
    rw [records_unterminated hlaws chain next bytes] at hrs
    exact (Except.ok.inj hrs).symm
  | broken refused =>
    rw [refused] at hrs
    cases hrs

/-- An append that returns is read exactly where it starts on a terminated file. -/
theorem InState.delivered_iff (hlaws : trace.Laws) {file : Option (List UInt8)}
    {rs : List R1OperationalTraceRecord} (h : trace.InState file rs) {call : Append}
    {r : R1OperationalTraceRecord} (hreturned : (trace.append file call).2 = .returned r) :
    (∃ before, trace.records file = .ok before ∧
      trace.records (trace.append file call).1 = .ok (before ++ [r])) ↔ Terminated file := by
  obtain ⟨hnext, hfile⟩ := append_returned hreturned
  cases h with
  | @clean rs chain bytes =>
    have hrecords := records_text hlaws chain bytes
    obtain ⟨hdepth, hsequence, hprevious⟩ := nextRecord_eq_ok hrecords hnext
    refine ⟨fun _ => terminated_text rs bytes, fun _ => ⟨rs, hrecords, ?_⟩⟩
    rw [hfile]
    refine records_text hlaws (.snoc chain hdepth hsequence hprevious) ?_
    rw [text_concat, Option.getD_some, bytes]
  | @unterminated rs r₀ chain next bytes =>
    refine ⟨fun hread => ?_, fun hterminated =>
      absurd hterminated (not_terminated_of_unterminated bytes)⟩
    obtain ⟨before, -, hread⟩ := hread
    have hbytes : (trace.append file call).1.getD [] =
        text rs ++ encode r₀ ++ (encode r ++ [10]) := by
      rw [hfile, Option.getD_some, bytes]
    obtain ⟨e, he⟩ := records_joined hlaws chain hbytes
    rw [he] at hread
    cases hread
  | @broken rs e refused =>
    unfold nextRecord at hnext
    rw [refused] at hnext
    cases hnext

/-- The trace survives its appends exactly where each one that returns starts on a terminated
file. -/
theorem survivesTornAppends_iff (hlaws : trace.Laws) (calls : List Append) :
    trace.SurvivesTornAppends calls ↔ ∀ pre call post, calls = pre ++ call :: post → ∀ r,
      (trace.append (after trace.append none pre) call).2 = .returned r →
        Terminated (after trace.append none pre) := by
  constructor
  · intro h pre call post heq r hreturned
    exact ((after_inState hlaws pre).delivered_iff hlaws hreturned).mp
      (h.delivered pre call post heq r hreturned)
  · intro h
    refine ⟨fun pre _ rs hrs => (after_inState hlaws pre).records_eq_ok hlaws hrs,
      fun pre call post heq r hreturned => ?_,
      fun pre _ rs hrs edited rs' hrs' hlast => records_of_last hlaws hrs hrs' hlast⟩
    exact ((after_inState hlaws pre).delivered_iff hlaws hreturned).mpr
      (h pre call post heq r hreturned)

/-! ## A trace whose lines are read back -/

theorem stage_text_injective {a b : R1OperationalStage} (h : a.text = b.text) : a = b := by
  cases a <;> cases b <;> first | rfl | exact absurd h (by decide)

theorem json_injective {a b : TraceFields} (h : a.json = b.json) : a = b := by
  obtain ⟨sequence, previous, runId, stage, observedAt, details⟩ := a
  obtain ⟨sequence', previous', runId', stage', observedAt', details'⟩ := b
  simp only [TraceFields.json, List.cons.injEq, Prod.mk.injEq, Json.obj.injEq, Json.str.injEq,
    true_and, and_true] at h
  obtain ⟨rfl, rfl, hprevious, rfl, hsequence, hstage⟩ := h
  rw [Json.strOrNull_injective hprevious, Json.nat_injective hsequence, stage_text_injective hstage]

theorem encode_append_inj {r r' : R1OperationalTraceRecord} {s t : List UInt8}
    (h : encode r ++ s = encode r' ++ t) : r = r' ∧ s = t := by
  obtain ⟨hjson, hst⟩ := dumpsObject_append_inj _ h
  exact ⟨Subtype.ext (json_injective hjson), hst⟩

theorem encode_injective : Function.Injective encode := fun _ _ h =>
  (encode_append_inj (congrArg (· ++ []) h)).1

namespace Sample

/-- The characters of the bytes, for a digest that tells all lines apart. -/
def latin1 (line : List UInt8) : String := String.ofList (line.map Char.ofUInt8)

theorem latin1_injective : Function.Injective latin1 := by
  intro line line' h
  have hback : ∀ l : List UInt8, (l.map Char.ofUInt8).map Char.toUInt8 = l := by
    intro l
    rw [List.map_map]
    exact (List.map_congr_left fun b _ => b.toUInt8_toUInt32).trans (List.map_id _)
  have hchars := congrArg String.toList h
  simp only [latin1, String.toList_ofList] at hchars
  rw [← hback line, hchars, hback]

/-- A trace that reads the lines it writes, and no others. -/
noncomputable def journal : R1OperationalTrace where
  path := "trace.jsonl"
  sha256 := latin1
  modelValidateJson := Function.partialInv encode
  isoformat _ := "2030-01-01T00:00:00Z"

theorem journal_reads {line : List UInt8} {r : R1OperationalTraceRecord} :
    journal.modelValidateJson line = some r ↔ encode r = line :=
  encode_injective.isPartialInv r line

theorem journal_laws : journal.Laws where
  sha256_injective := latin1_injective
  reads _ _ := journal_reads.mpr rfl
  unfinished r line hpre hne := by
    obtain ⟨rest, hrest⟩ := hpre
    refine Option.eq_none_iff_forall_not_mem.mpr fun r' hr' => hne ?_
    have hline := journal_reads.mp hr'
    have hsame : encode r' ++ rest = encode r ++ [] := by rw [hline, hrest, List.append_nil]
    rw [← hline, (encode_append_inj hsame).1]
  trailing r b rest _ := by
    refine Option.eq_none_iff_forall_not_mem.mpr fun r' hr' => ?_
    have hsame : encode r' ++ [] = encode r ++ b :: rest := by
      rw [List.append_nil, journal_reads.mp hr']
    exact absurd (encode_append_inj hsame).2 (by simp)

def firstFields : TraceFields where
  sequence := 1
  previousRecordSha256 := none
  runId := "RUN-20300101-001"
  stage := .chunkReceived
  observedAt := "2030-01-01T00:00:00Z"
  details := []

theorem firstFields_valid : firstFields.validate = .ok () := by decide

def first : R1OperationalTraceRecord := ⟨firstFields, firstFields_valid⟩

theorem noDetails_depth : (Json.obj []).depth ≤ detailsDepth := by decide

/-- An append of the first record, whole or cut off. -/
def firstCall (cut : Option Nat) : Append where
  stage := .chunkReceived
  runId := "RUN-20300101-001"
  clock := .utc 1893456000000000
  cut := cut
  details_depth := noDetails_depth

theorem nextRecord_first (cut : Option Nat) :
    journal.nextRecord none (firstCall cut) = .ok first := by
  show construct TraceFields.validate firstFields = .ok first
  exact construct_eq_ok firstFields_valid

def secondFields : TraceFields where
  sequence := 2
  previousRecordSha256 := some (latin1 (encode first))
  runId := "RUN-20300101-001"
  stage := .chunkAccepted
  observedAt := "2030-01-01T00:00:00Z"
  details := []

theorem secondFields_valid : secondFields.validate = .ok () := by decide

def second : R1OperationalTraceRecord := ⟨secondFields, secondFields_valid⟩

/-- An append of the second record, whole or cut off. -/
def secondCall (cut : Option Nat) : Append where
  stage := .chunkAccepted
  runId := "RUN-20300101-001"
  clock := .utc 1893456000000000
  cut := cut
  details_depth := noDetails_depth

theorem chain_first : journal.Chain [first] := .snoc .nil noDetails_depth rfl rfl

theorem nextRecord_second {file : Option (List UInt8)} (h : journal.records file = .ok [first])
    (cut : Option Nat) : journal.nextRecord file (secondCall cut) = .ok second := by
  unfold nextRecord
  rw [h]
  show construct TraceFields.validate secondFields = .ok second
  exact construct_eq_ok secondFields_valid

/-- The first append is cut off before its newline; the second returns. -/
def calls : List Append := [firstCall (some (encode first).length), secondCall none]

/-- The second append is cut off inside its record, and the third finds what it has left. -/
def tornCalls : List Append := [firstCall none, secondCall (some 3), secondCall none]

theorem after_first (n : Nat) : after journal.append none [firstCall (some n)] =
    some ((encode first ++ [10]).take n) := by
  show (journal.append none (firstCall (some n))).1 = _
  unfold append
  rw [nextRecord_first]
  rfl

theorem after_whole : after journal.append none [firstCall none] = some (encode first ++ [10]) := by
  show (journal.append none (firstCall none)).1 = _
  unfold append
  rw [nextRecord_first]
  rfl

theorem records_whole :
    journal.records (after journal.append none [firstCall none]) = .ok [first] :=
  records_text journal_laws chain_first (by rw [after_whole]; rfl)

/-- The file after the torn append is not read. -/
theorem records_torn :
    ∃ e, journal.records (after journal.append none ([firstCall none] ++ [secondCall (some 3)])) =
      .error e := by
  have hafter := after_of_cut (nextRecord_second records_whole (some 3)) rfl
  have hlong : 3 < (encode second).length := by decide +kernel
  have htake : (encode second ++ [10]).take 3 = (encode second).take 3 :=
    List.take_append_of_le_length (Nat.le_of_lt hlong)
  have hlength : ((encode second).take 3).length = 3 := List.length_take_of_le (Nat.le_of_lt hlong)
  have hne : (encode second).take 3 ≠ [] := List.ne_nil_of_length_pos (by rw [hlength]; decide)
  have hbytes : (after journal.append none ([firstCall none] ++ [secondCall (some 3)])).getD [] =
      text [first] ++ (encode second).take 3 := by
    rw [hafter, after_whole, Option.getD_some, Option.getD_some, htake, text_singleton]
  refine records_corrupted journal_laws chain_first hbytes
    (splitlines_last (fun b hb => noBreak_encode second b (List.mem_of_mem_take hb)) hne)
    (journal_laws.unfinished second _ (List.take_prefix _ _) fun heq => ?_)
  rw [heq] at hlength
  omega

end Sample

/-- A torn append and one after it survive: the latter raises. -/
theorem survivesTornAppends_iff_torn : Sample.journal.SurvivesTornAppends Sample.tornCalls := by
  refine (survivesTornAppends_iff Sample.journal_laws _).mpr fun pre call post heq r hr => ?_
  rcases pre with - | ⟨a, - | ⟨b, - | ⟨c, pre⟩⟩⟩
  · intro b hb
    cases hb
  · obtain ⟨rfl, hrest⟩ := List.cons.inj heq
    obtain ⟨rfl, -⟩ := List.cons.inj hrest
    rw [append_of_cut (Sample.nextRecord_second Sample.records_whole _) rfl] at hr
    cases hr
  · obtain ⟨rfl, hrest⟩ := List.cons.inj heq
    obtain ⟨rfl, -⟩ := List.cons.inj hrest
    obtain ⟨e, he⟩ := Sample.records_torn
    have hread : Sample.journal.records (after Sample.journal.append none
        [Sample.firstCall none, Sample.secondCall (some 3)]) = .error e := he
    have hnext := (append_returned hr).1
    unfold nextRecord at hnext
    rw [hread] at hnext
    cases hnext
  · have hlength := congrArg List.length heq
    simp [Sample.tornCalls] at hlength

theorem append_of_uncut {file : Option (List UInt8)} {call : Append} {r : R1OperationalTraceRecord}
    (h : trace.nextRecord file call = .ok r) (hcut : call.cut = none) :
    (trace.append file call).2 = .returned r := by
  unfold append
  rw [h, hcut]

/-- A record that was cut off before its newline and the record that was appended after it are on
one line, which is refused. -/
theorem survivesTornAppends_fails : Sample.journal.Laws ∧
    ¬ Sample.journal.SurvivesTornAppends Sample.calls := by
  refine ⟨Sample.journal_laws, fun h => ?_⟩
  have hbytes : (after Sample.journal.append none
      [Sample.firstCall (some (encode Sample.first).length)]).getD [] =
      text [] ++ encode Sample.first := by
    rw [Sample.after_first, Option.getD_some, List.take_append_of_le_length (Nat.le_refl _),
      List.take_length, text, List.flatMap_nil, List.nil_append]
  have hrecords := records_unterminated Sample.journal_laws .nil Sample.chain_first hbytes
  have hreturned := append_of_uncut (Sample.nextRecord_second hrecords none) rfl
  have hread := h.delivered [Sample.firstCall _] (Sample.secondCall none) [] rfl _ hreturned
  exact not_terminated_of_unterminated hbytes
    (((after_inState Sample.journal_laws _).delivered_iff Sample.journal_laws hreturned).mp hread)

end R1OperationalTrace

end IncidentAwareness.Pipeline
