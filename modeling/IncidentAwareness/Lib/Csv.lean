import Mathlib.Data.List.Flatten
import Mathlib.Tactic.Common

/-!
# Rows of a CSV text

What a CSV writer with minimal quoting writes, the lines of a text, and what a CSV
reader with doubled quotes reads from lines. The reader keeps a quoted field open over
the end of a line, and puts nothing in its place.

* `splitLines_line`: a line without line boundaries is read back;
* `mem_splitLines`: no line of a text has a line boundary;
* `readRows_writeRow`: a row without line boundaries is read back;
* `mem_readRows`: a field that is read has only characters of the lines.
-/

namespace IncidentAwareness.Lib

variable {α : Type}

/-! ## Lines -/

/-- Which characters end a line; `cr` with `lf` behind it is one end. -/
structure LineBreaks (α : Type) where
  isBreak : α → Bool
  cr : α
  lf : α
  isBreak_lf : isBreak lf = true
  lf_ne_cr : lf ≠ cr

section Lines

variable [DecidableEq α] (breaks : LineBreaks α)

/-- The lines of a text behind a started line; `afterCr` where the text is behind a `cr`
that ended a line. -/
def splitLinesFrom (afterCr : Bool) (line : List α) : List α → List (List α)
  | [] => if line = [] then [] else [line]
  | c :: cs =>
    if afterCr && c = breaks.lf then splitLinesFrom false line cs
    else if breaks.isBreak c then line :: splitLinesFrom (c = breaks.cr) [] cs
    else splitLinesFrom false (line ++ [c]) cs

/-- The lines of a text, without their ends. -/
def splitLines (text : List α) : List (List α) := splitLinesFrom breaks false [] text

variable {breaks}

theorem splitLinesFrom_line {line rest : List α} (h : ∀ c ∈ line, breaks.isBreak c = false)
    (start : List α) :
    splitLinesFrom breaks false start (line ++ breaks.lf :: rest) =
      (start ++ line) :: splitLines breaks rest := by
  induction line generalizing start with
  | nil =>
    have hcr : decide (breaks.lf = breaks.cr) = false := decide_eq_false breaks.lf_ne_cr
    simp only [List.nil_append, List.append_nil, splitLinesFrom, Bool.false_and, Bool.false_eq_true,
      if_false, breaks.isBreak_lf, if_true, hcr, splitLines]
  | cons c line ih =>
    have hc : breaks.isBreak c = false := h c List.mem_cons_self
    simp only [List.cons_append, splitLinesFrom, Bool.false_and, Bool.false_eq_true, if_false, hc]
    rw [ih fun d hd => h d (List.mem_cons_of_mem c hd), List.append_assoc]
    rfl

/-- A line without line boundaries, and its end, is read back. -/
theorem splitLines_line {line rest : List α} (h : ∀ c ∈ line, breaks.isBreak c = false) :
    splitLines breaks (line ++ breaks.lf :: rest) = line :: splitLines breaks rest := by
  rw [splitLines, splitLinesFrom_line h, List.nil_append]

theorem mem_splitLinesFrom {afterCr : Bool} {start text : List α}
    (h : ∀ c ∈ start, breaks.isBreak c = false) {line : List α}
    (hline : line ∈ splitLinesFrom breaks afterCr start text) :
    ∀ c ∈ line, breaks.isBreak c = false := by
  induction text generalizing afterCr start with
  | nil =>
    rw [splitLinesFrom] at hline
    split at hline
    · exact absurd hline List.not_mem_nil
    · rw [List.mem_singleton.mp hline]
      exact h
  | cons c text ih =>
    rw [splitLinesFrom] at hline
    split at hline
    · exact ih h hline
    · split at hline
      · rcases List.mem_cons.mp hline with rfl | hline
        · exact h
        · exact ih (fun d hd => absurd hd List.not_mem_nil) hline
      · rename_i hbreak
        refine ih (fun d hd => ?_) hline
        rcases List.mem_append.mp hd with hd | hd
        · exact h d hd
        · rw [List.mem_singleton.mp hd]
          exact eq_false_of_ne_true hbreak

/-- No line of a text has a line boundary. -/
theorem mem_splitLines {text line : List α} (h : line ∈ splitLines breaks text) :
    ∀ c ∈ line, breaks.isBreak c = false :=
  mem_splitLinesFrom (fun _ hc => absurd hc List.not_mem_nil) h

end Lines

/-! ## Writing -/

/-- The characters of a CSV format: the delimiter, the quote, and what else a writer quotes. -/
structure CsvFormat (α : Type) where
  delimiter : α
  quote : α
  isQuoted : α → Bool
  delimiter_ne_quote : delimiter ≠ quote

section Write

variable [DecidableEq α] (format : CsvFormat α)

/-- A field that has to be quoted. -/
def CsvFormat.needsQuote (field : List α) : Bool :=
  field.any fun c => c = format.delimiter || c = format.quote || format.isQuoted c

/-- The body of a quoted field. -/
def CsvFormat.doubled (field : List α) : List α :=
  field.flatMap fun c => if c = format.quote then [format.quote, format.quote] else [c]

/-- A field as the writer writes it. -/
def CsvFormat.writeField (field : List α) : List α :=
  if format.needsQuote field then format.quote :: (format.doubled field ++ [format.quote])
  else field

/-- The fields of a row behind its first, each with the delimiter before it. -/
def CsvFormat.writeRest (fields : List (List α)) : List α :=
  fields.flatMap fun field => format.delimiter :: format.writeField field

/-- A row as the writer writes it, without the end of its line. A single empty field is
quoted, so that the row is not an empty line. -/
def CsvFormat.writeRow : List (List α) → List α
  | [] => []
  | [[]] => [format.quote, format.quote]
  | field :: fields => format.writeField field ++ format.writeRest fields

end Write

/-! ## Reading -/

inductive CsvState where
  | startRecord | startField | inField | inQuotedField | quoteInQuotedField
  deriving DecidableEq, Repr

/-- The reader within a row: what it has of the field it is in, and the fields before. -/
structure CsvReading (α : Type) where
  state : CsvState
  field : List α
  fields : List (List α)
  deriving DecidableEq, Repr

/-- The reader before a row. -/
def CsvReading.initial : CsvReading α := ⟨.startRecord, [], []⟩

/-- The field is complete, and the reader goes on in `state`. -/
def CsvReading.save (r : CsvReading α) (state : CsvState) : CsvReading α :=
  ⟨state, [], r.fields ++ [r.field]⟩

/-- One more character of the field. -/
def CsvReading.add (r : CsvReading α) (c : α) (state : CsvState) : CsvReading α :=
  ⟨state, r.field ++ [c], r.fields⟩

/-- The end of a line. -/
def CsvReading.endLine (r : CsvReading α) : CsvReading α :=
  match r.state with
  | .startRecord | .inQuotedField => r
  | .startField | .inField | .quoteInQuotedField => r.save .startRecord

section Read

variable [DecidableEq α] (format : CsvFormat α)

/-- One character of a line. -/
def CsvFormat.read (r : CsvReading α) (c : α) : CsvReading α :=
  match r.state with
  | .startRecord | .startField =>
    if c = format.quote then { r with state := .inQuotedField }
    else if c = format.delimiter then r.save .startField
    else r.add c .inField
  | .inField => if c = format.delimiter then r.save .startField else r.add c .inField
  | .inQuotedField =>
    if c = format.quote then { r with state := .quoteInQuotedField } else r.add c .inQuotedField
  | .quoteInQuotedField =>
    if c = format.quote then r.add c .inQuotedField
    else if c = format.delimiter then r.save .startField
    else r.add c .inField

/-- The rows that the reader yields from lines. -/
def CsvFormat.readRowsFrom (r : CsvReading α) : List (List α) → List (List (List α))
  | [] => if r.state = .inQuotedField then [(r.save .startRecord).fields] else []
  | line :: lines =>
    let r' := (line.foldl format.read r).endLine
    if r'.state = .startRecord then r'.fields :: readRowsFrom .initial lines
    else readRowsFrom r' lines

/-- The rows of lines. -/
def CsvFormat.readRows (lines : List (List α)) : List (List (List α)) :=
  format.readRowsFrom .initial lines

end Read

/-! ## Reading back -/

/-- The reader is through with a field that a delimiter or the end of the line completes. -/
def CsvState.Closes (state : CsvState) : Prop :=
  state = .startField ∨ state = .inField ∨ state = .quoteInQuotedField

theorem endLine_of_closes {state : CsvState} (h : state.Closes) (field : List α)
    (fields : List (List α)) :
    (⟨state, field, fields⟩ : CsvReading α).endLine = ⟨.startRecord, [], fields ++ [field]⟩ := by
  rcases h with rfl | rfl | rfl <;> rfl

section ReadBack

variable [DecidableEq α] {format : CsvFormat α}

theorem read_delimiter {state : CsvState} (h : state.Closes ∨ state = .startRecord)
    (field : List α) (fields : List (List α)) :
    format.read ⟨state, field, fields⟩ format.delimiter = ⟨.startField, [], fields ++ [field]⟩ := by
  have hquote : format.delimiter ≠ format.quote := format.delimiter_ne_quote
  rcases h with (rfl | rfl | rfl) | rfl <;> simp [CsvFormat.read, CsvReading.save, hquote]

theorem foldl_read_plain {rest : List α} (h : format.needsQuote rest = false) (field : List α)
    (fields : List (List α)) :
    rest.foldl format.read ⟨.inField, field, fields⟩ = ⟨.inField, field ++ rest, fields⟩ := by
  induction rest generalizing field with
  | nil => rw [List.foldl_nil, List.append_nil]
  | cons c rest ih =>
    have hc : c ≠ format.delimiter ∧ format.needsQuote rest = false := by
      simp only [CsvFormat.needsQuote, List.any_cons, Bool.or_eq_false_iff] at h
      exact ⟨of_decide_eq_false h.1.1.1, h.2⟩
    rw [List.foldl_cons, CsvFormat.read]
    simp only [hc.1, if_false, CsvReading.add]
    rw [ih hc.2, List.append_assoc]
    rfl

theorem foldl_read_doubled (rest field : List α) (fields : List (List α)) :
    (format.doubled rest).foldl format.read ⟨.inQuotedField, field, fields⟩ =
      ⟨.inQuotedField, field ++ rest, fields⟩ := by
  induction rest generalizing field with
  | nil => rw [List.append_nil]; rfl
  | cons c rest ih =>
    rw [CsvFormat.doubled, List.flatMap_cons, List.foldl_append]
    have hc : List.foldl format.read ⟨.inQuotedField, field, fields⟩
        (if c = format.quote then [format.quote, format.quote] else [c]) =
          ⟨.inQuotedField, field ++ [c], fields⟩ := by
      split
      · rename_i heq
        simp [CsvFormat.read, CsvReading.add, heq]
      · rename_i hne
        simp [CsvFormat.read, CsvReading.add, hne]
    rw [hc]
    refine (ih (field ++ [c])).trans ?_
    rw [List.append_assoc]
    rfl

/-- A field is read back, up to what completes it. -/
theorem foldl_read_writeField {state : CsvState} (hstate : state = .startField ∨ state = .startRecord)
    (field : List α) (fields : List (List α)) :
    ∃ state', (state'.Closes ∨ field = [] ∧ state' = state) ∧
      (format.writeField field).foldl format.read ⟨state, [], fields⟩ = ⟨state', field, fields⟩ := by
  rw [CsvFormat.writeField]
  split
  · refine ⟨.quoteInQuotedField, .inl (.inr (.inr rfl)), ?_⟩
    have hopen : format.read ⟨state, [], fields⟩ format.quote = ⟨.inQuotedField, [], fields⟩ := by
      rcases hstate with rfl | rfl <;> simp [CsvFormat.read]
    rw [List.foldl_cons, hopen, List.foldl_append, foldl_read_doubled]
    simp [CsvFormat.read]
  · rename_i hplain
    have hplain' := eq_false_of_ne_true hplain
    cases field with
    | nil => exact ⟨state, .inr ⟨rfl, rfl⟩, rfl⟩
    | cons c rest =>
      refine ⟨.inField, .inl (.inr (.inl rfl)), ?_⟩
      have hc : c ≠ format.delimiter ∧ c ≠ format.quote ∧ format.needsQuote rest = false := by
        simp only [CsvFormat.needsQuote, List.any_cons, Bool.or_eq_false_iff] at hplain'
        exact ⟨of_decide_eq_false hplain'.1.1.1, of_decide_eq_false hplain'.1.1.2, hplain'.2⟩
      have hfirst : format.read ⟨state, [], fields⟩ c = ⟨.inField, [c], fields⟩ := by
        rcases hstate with rfl | rfl <;> simp [CsvFormat.read, CsvReading.add, hc.1, hc.2.1]
      rw [List.foldl_cons, hfirst, foldl_read_plain hc.2.2]
      rfl

theorem foldl_read_writeRest {state : CsvState} (hstate : state.Closes) (field : List α)
    (fields rest : List (List α)) :
    ((format.writeRest rest).foldl format.read ⟨state, field, fields⟩).endLine =
      ⟨.startRecord, [], fields ++ field :: rest⟩ := by
  induction rest generalizing state field fields with
  | nil => exact endLine_of_closes hstate field fields
  | cons next rest ih =>
    rw [CsvFormat.writeRest, List.flatMap_cons, List.foldl_append, List.foldl_cons,
      read_delimiter (.inl hstate)]
    obtain ⟨state', hstate', hread⟩ :=
      foldl_read_writeField (.inl rfl) next (fields ++ [field])
    rw [hread]
    have hcloses : state'.Closes := hstate'.elim id fun h => .inl h.2
    refine (ih hcloses next (fields ++ [field])).trans ?_
    rw [List.append_assoc]
    rfl

/-- A row is read back from its line. -/
theorem endLine_writeRow {row : List (List α)} (h : row ≠ []) :
    ((format.writeRow row).foldl format.read .initial).endLine = ⟨.startRecord, [], row⟩ := by
  cases row with
  | nil => exact absurd rfl h
  | cons first fields =>
    cases first with
    | cons c field =>
      obtain ⟨state, hstate, hread⟩ :=
        foldl_read_writeField (.inr rfl) (c :: field) []
      have hcloses : state.Closes := hstate.elim id fun h => absurd h.1 (List.cons_ne_nil c field)
      have hrow : format.writeRow ((c :: field) :: fields) =
          format.writeField (c :: field) ++ format.writeRest fields := by
        simp [CsvFormat.writeRow]
      rw [hrow, List.foldl_append]
      exact hread ▸ foldl_read_writeRest hcloses (c :: field) [] fields
    | nil =>
      cases fields with
      | nil => simp [CsvFormat.writeRow, CsvFormat.read, CsvReading.initial, CsvReading.endLine,
          CsvReading.save]
      | cons field fields =>
        obtain ⟨state, hstate, hread⟩ :=
          foldl_read_writeField (.inl rfl) field [[]]
        have hcloses : state.Closes := hstate.elim id fun h => .inl h.2
        have hrow : format.writeRow ([] :: field :: fields) =
            format.delimiter :: (format.writeField field ++ format.writeRest fields) := by
          simp [CsvFormat.writeRow, CsvFormat.writeRest, CsvFormat.writeField,
            CsvFormat.needsQuote]
        rw [hrow, List.foldl_cons, CsvReading.initial, read_delimiter (.inr rfl),
          List.foldl_append]
        exact hread ▸ foldl_read_writeRest hcloses field [[]] fields

/-- The line of a row is read as the row, and the lines behind it on their own. -/
theorem readRows_writeRow {row : List (List α)} (h : row ≠ []) (lines : List (List α)) :
    format.readRows (format.writeRow row :: lines) = row :: format.readRows lines := by
  rw [CsvFormat.readRows, CsvFormat.readRowsFrom, endLine_writeRow h]
  rfl

end ReadBack

/-! ## What a field can hold -/

/-- Every character that the reader has kept satisfies `P`. -/
def CsvReading.All (P : α → Prop) (r : CsvReading α) : Prop :=
  (∀ c ∈ r.field, P c) ∧ ∀ field ∈ r.fields, ∀ c ∈ field, P c

theorem all_initial {P : α → Prop} : (CsvReading.initial : CsvReading α).All P :=
  ⟨fun _ hc => absurd hc List.not_mem_nil, fun _ hfield => absurd hfield List.not_mem_nil⟩

theorem all_save {P : α → Prop} {r : CsvReading α} (h : r.All P) (state : CsvState) :
    (r.save state).All P := by
  refine ⟨fun _ hc => absurd hc List.not_mem_nil, fun field hfield => ?_⟩
  rcases List.mem_append.mp hfield with hfield | hfield
  · exact h.2 field hfield
  · rw [List.mem_singleton.mp hfield]
    exact h.1

theorem all_add {P : α → Prop} {r : CsvReading α} (h : r.All P) {c : α} (hc : P c)
    (state : CsvState) : (r.add c state).All P := by
  refine ⟨fun d hd => ?_, h.2⟩
  rcases List.mem_append.mp hd with hd | hd
  · exact h.1 d hd
  · rwa [List.mem_singleton.mp hd]

theorem all_endLine {P : α → Prop} {r : CsvReading α} (h : r.All P) : r.endLine.All P := by
  rw [CsvReading.endLine]
  split <;> first | exact h | exact all_save h _

section Fields

variable [DecidableEq α] {format : CsvFormat α}

theorem all_read {P : α → Prop} {r : CsvReading α} (h : r.All P) {c : α} (hc : P c) :
    (format.read r c).All P := by
  rw [CsvFormat.read]
  split <;> (repeat' split) <;>
    first | exact all_save h _ | exact all_add h hc _ | exact ⟨h.1, h.2⟩

theorem all_foldl_read {P : α → Prop} {line : List α} (hline : ∀ c ∈ line, P c)
    {r : CsvReading α} (h : r.All P) : (line.foldl format.read r).All P := by
  induction line generalizing r with
  | nil => exact h
  | cons c line ih =>
    exact ih (fun d hd => hline d (List.mem_cons_of_mem c hd))
      (all_read h (hline c List.mem_cons_self))

theorem mem_readRowsFrom {P : α → Prop} {lines : List (List α)}
    (hlines : ∀ line ∈ lines, ∀ c ∈ line, P c) {r : CsvReading α} (h : r.All P)
    {row : List (List α)} (hrow : row ∈ format.readRowsFrom r lines) :
    ∀ field ∈ row, ∀ c ∈ field, P c := by
  induction lines generalizing r with
  | nil =>
    rw [CsvFormat.readRowsFrom] at hrow
    split at hrow
    · rw [List.mem_singleton.mp hrow]
      exact (all_save h _).2
    · exact absurd hrow List.not_mem_nil
  | cons line lines ih =>
    have hline : ((line.foldl format.read r).endLine).All P :=
      all_endLine (all_foldl_read (hlines line List.mem_cons_self) h)
    have hlines' : ∀ l ∈ lines, ∀ c ∈ l, P c := fun l hl => hlines l (List.mem_cons_of_mem line hl)
    rw [CsvFormat.readRowsFrom] at hrow
    split at hrow
    · rcases List.mem_cons.mp hrow with rfl | hrow
      · exact hline.2
      · exact ih hlines' all_initial hrow
    · exact ih hlines' hline hrow

/-- A field that is read has only characters of the lines. -/
theorem mem_readRows {P : α → Prop} {lines : List (List α)}
    (hlines : ∀ line ∈ lines, ∀ c ∈ line, P c) {row : List (List α)}
    (hrow : row ∈ format.readRows lines) : ∀ field ∈ row, ∀ c ∈ field, P c :=
  mem_readRowsFrom hlines all_initial hrow

end Fields

end IncidentAwareness.Lib
