import Mathlib.Data.List.Basic
import Mathlib.Tactic.Common

/-!
# `shlex.split` without POSIX rules

The tokenizer of `shlex.split(line, posix=False)`, character by character
(`ShlexState`, `readTokens`). A quote is one only where a token begins: the token then
runs to the next such quote, whatever stands between, and ends there. Inside a
word a quote is a character like any other.

* `shlexSplit_eq_some_iff`: the tokens, without the states (`Splits`); a line has
  none exactly when a quote that opens a token is not closed;
* `shlexSplit_of_plain`: where no word begins with a quote, they are the words
  between the whitespace.
-/

namespace IncidentAwareness.Lib

/-- `shlex.whitespace`. -/
def shlexWhitespace : List Char := [' ', '\t', '\r', '\n']

/-- `shlex.quotes`. -/
def shlexQuotes : List Char := [Char.ofNat 39, '"']

/-- The states of `shlex.read_token`. -/
inductive ShlexState where
  | blank | word | quoted (quote : Char)
  deriving DecidableEq, Repr

/-- The tokens of what is left of a line, with the token that has been begun. At
an open quote the line may not end. -/
def readTokens : ShlexState → List Char → List Char → Option (List (List Char))
  | .blank, _, [] => some []
  | .blank, _, c :: cs =>
    if c ∈ shlexWhitespace then readTokens .blank [] cs
    else if c ∈ shlexQuotes then readTokens (.quoted c) [c] cs
    else readTokens .word [c] cs
  | .word, token, [] => some [token]
  | .word, token, c :: cs =>
    if c ∈ shlexWhitespace then (readTokens .blank [] cs).map (token :: ·)
    else readTokens .word (token ++ [c]) cs
  | .quoted _, _, [] => none
  | .quoted quote, token, c :: cs =>
    if c = quote then (readTokens .blank [] cs).map ((token ++ [c]) :: ·)
    else readTokens (.quoted quote) (token ++ [c]) cs

/-- `shlex.split(line, posix=False)`, `none` where it raises. -/
def shlexSplit (line : String) : Option (List String) :=
  (readTokens .blank [] line.toList).map (·.map String.ofList)

/-- The tokens of a line. -/
inductive Splits : List Char → List (List Char) → Prop
  | nil : Splits [] []
  | blank {c : Char} {cs : List Char} {tokens : List (List Char)} (hc : c ∈ shlexWhitespace)
      (h : Splits cs tokens) : Splits (c :: cs) tokens
  | word {c : Char} {w cs : List Char} {tokens : List (List Char)} (hc : c ∉ shlexQuotes)
      (hw : ∀ d ∈ c :: w, d ∉ shlexWhitespace) (hend : ∀ d ∈ cs.head?, d ∈ shlexWhitespace)
      (h : Splits cs tokens) : Splits (c :: w ++ cs) ((c :: w) :: tokens)
  | quoted {quote : Char} {body cs : List Char} {tokens : List (List Char)}
      (hquote : quote ∈ shlexQuotes) (hbody : quote ∉ body) (h : Splits cs tokens) :
      Splits (quote :: body ++ quote :: cs) ((quote :: body ++ [quote]) :: tokens)

/-- The words of a line: what stands between the whitespace. -/
def whitespaceTokens (cs : List Char) : List (List Char) :=
  (cs.splitOnP (· ∈ shlexWhitespace)).filter (· ≠ [])

variable {cs token : List Char} {tokens : List (List Char)}

/-! ## The tokens without the states -/

/-- A word runs to the next whitespace. -/
theorem readTokens_word_append {w : List Char} (hw : ∀ d ∈ w, d ∉ shlexWhitespace)
    (hend : ∀ d ∈ cs.head?, d ∈ shlexWhitespace) :
    readTokens .word token (w ++ cs) = (readTokens .blank [] cs).map ((token ++ w) :: ·) := by
  induction w generalizing token with
  | nil =>
    rw [List.nil_append, List.append_nil]
    cases cs with
    | nil => rfl
    | cons d cs =>
      have hd : d ∈ shlexWhitespace := hend d rfl
      rw [readTokens, readTokens, if_pos hd, if_pos hd]
  | cons c w ih =>
    obtain ⟨hc, hw⟩ := List.forall_mem_cons.mp hw
    rw [List.cons_append, readTokens, if_neg hc, ih hw, List.append_assoc, List.singleton_append]

/-- A quoted token runs to the closing quote. -/
theorem readTokens_quoted_append {quote : Char} {body : List Char} (hbody : quote ∉ body) :
    readTokens (.quoted quote) token (body ++ quote :: cs) =
      (readTokens .blank [] cs).map ((token ++ (body ++ [quote])) :: ·) := by
  induction body generalizing token with
  | nil => rw [List.nil_append, List.nil_append, readTokens, if_pos rfl]
  | cons c body ih =>
    have hc : c ≠ quote := (List.ne_of_not_mem_cons hbody).symm
    rw [List.cons_append, readTokens, if_neg hc, ih (List.not_mem_of_not_mem_cons hbody), List.append_assoc,
      List.singleton_append, List.cons_append]

theorem notMem_shlexWhitespace : ∀ quote ∈ shlexQuotes, quote ∉ shlexWhitespace := by
  intro quote hquote
  simp only [shlexQuotes, List.mem_cons, List.not_mem_nil, or_false] at hquote
  rcases hquote with rfl | rfl
  · decide
  · decide

theorem Splits.readTokens_eq (h : Splits cs tokens) : readTokens .blank [] cs = some tokens := by
  induction h with
  | nil => rfl
  | blank hc _ ih => rw [readTokens, if_pos hc, ih]
  | @word c w cs tokens hc hw hend _ ih =>
    obtain ⟨hspace, hw⟩ := List.forall_mem_cons.mp hw
    rw [List.cons_append, readTokens, if_neg hspace, if_neg hc, readTokens_word_append hw hend, ih]
    rfl
  | @quoted quote body cs tokens hquote hbody _ ih =>
    rw [List.cons_append, readTokens, if_neg (notMem_shlexWhitespace quote hquote), if_pos hquote,
      readTokens_quoted_append hbody, ih]
    rfl

/-- The tokens of what is left, for each state. -/
def Resumes : ShlexState → List Char → List Char → List (List Char) → Prop
  | .blank, _, cs, tokens => Splits cs tokens
  | .word, token, cs, tokens => ∃ w rest tokens', cs = w ++ rest ∧
      (∀ d ∈ w, d ∉ shlexWhitespace) ∧ (∀ d ∈ rest.head?, d ∈ shlexWhitespace) ∧
      tokens = (token ++ w) :: tokens' ∧ Splits rest tokens'
  | .quoted quote, token, cs, tokens => ∃ body rest tokens', cs = body ++ quote :: rest ∧
      quote ∉ body ∧ tokens = (token ++ (body ++ [quote])) :: tokens' ∧ Splits rest tokens'

theorem resumes_of_readTokens {state : ShlexState} (h : readTokens state token cs = some tokens) :
    Resumes state token cs tokens := by
  induction cs generalizing state token tokens with
  | nil =>
    cases state with
    | blank =>
      obtain rfl := Option.some.inj h
      exact .nil
    | word =>
      obtain rfl := Option.some.inj h
      exact ⟨[], [], [], rfl, by simp, by simp, by rw [List.append_nil], .nil⟩
    | quoted quote => cases h
  | cons c cs ih =>
    cases state with
    | blank =>
      rw [readTokens] at h
      by_cases hspace : c ∈ shlexWhitespace
      · rw [if_pos hspace] at h
        exact .blank hspace (ih h)
      rw [if_neg hspace] at h
      by_cases hquote : c ∈ shlexQuotes
      · rw [if_pos hquote] at h
        obtain ⟨body, rest, tokens', rfl, hbody, rfl, hrest⟩ := ih h
        exact .quoted hquote hbody hrest
      · rw [if_neg hquote] at h
        obtain ⟨w, rest, tokens', rfl, hw, hend, rfl, hrest⟩ := ih h
        exact .word hquote (List.forall_mem_cons.mpr ⟨hspace, hw⟩) hend hrest
    | word =>
      rw [readTokens] at h
      by_cases hspace : c ∈ shlexWhitespace
      · rw [if_pos hspace] at h
        obtain ⟨tokens', htokens', rfl⟩ := Option.map_eq_some_iff.mp h
        refine ⟨[], c :: cs, tokens', rfl, by simp, fun d hd => ?_, by rw [List.append_nil],
          .blank hspace (ih htokens')⟩
        obtain rfl : c = d := Option.some.inj hd
        exact hspace
      · rw [if_neg hspace] at h
        obtain ⟨w, rest, tokens', rfl, hw, hend, rfl, hrest⟩ := ih h
        exact ⟨c :: w, rest, tokens', rfl, List.forall_mem_cons.mpr ⟨hspace, hw⟩, hend,
          by rw [List.append_assoc, List.singleton_append], hrest⟩
    | quoted quote =>
      rw [readTokens] at h
      by_cases hclose : c = quote
      · rw [if_pos hclose] at h
        obtain ⟨tokens', htokens', rfl⟩ := Option.map_eq_some_iff.mp h
        exact ⟨[], cs, tokens', by rw [hclose, List.nil_append], List.not_mem_nil,
          by rw [hclose, List.nil_append], ih htokens'⟩
      · rw [if_neg hclose] at h
        obtain ⟨body, rest, tokens', rfl, hbody, rfl, hrest⟩ := ih h
        exact ⟨c :: body, rest, tokens', rfl, List.not_mem_cons_of_ne_of_not_mem (Ne.symm hclose) hbody,
          by rw [List.append_assoc, List.singleton_append, List.cons_append], hrest⟩

theorem readTokens_eq_some_iff : readTokens .blank [] cs = some tokens ↔ Splits cs tokens :=
  ⟨resumes_of_readTokens, Splits.readTokens_eq⟩

/-- A line has tokens when they are the ones it splits into. -/
theorem shlexSplit_eq_some_iff {line : String} {tokens : List String} :
    shlexSplit line = some tokens ↔ Splits line.toList (tokens.map String.toList) := by
  rw [shlexSplit, Option.map_eq_some_iff]
  refine ⟨fun ⟨tokens', hscan, htokens⟩ => ?_, fun h => ⟨_, readTokens_eq_some_iff.mpr h, ?_⟩⟩
  · rw [← htokens, List.map_map]
    simpa [Function.comp_def] using readTokens_eq_some_iff.mp hscan
  · simp [Function.comp_def]

/-! ## Words -/

/-- Where no word begins with a quote, a blank or the word that has been begun goes
on to the next whitespace. -/
theorem readTokens_of_plain :
    ((∀ w ∈ cs.splitOnP (· ∈ shlexWhitespace), ∀ c ∈ w.head?, c ∉ shlexQuotes) →
      readTokens .blank [] cs = some (whitespaceTokens cs)) ∧
    ∀ token, token ≠ [] →
      (∀ w ∈ (cs.splitOnP (· ∈ shlexWhitespace)).tail, ∀ c ∈ w.head?, c ∉ shlexQuotes) →
      readTokens .word token cs = some
        (((cs.splitOnP (· ∈ shlexWhitespace)).modifyHead (token ++ ·)).filter (· ≠ [])) := by
  induction cs with
  | nil =>
    refine ⟨fun _ => rfl, fun token htoken _ => ?_⟩
    simp [readTokens, htoken]
  | cons c cs ih =>
    obtain ⟨ihblank, ihword⟩ := ih
    by_cases hspace : c ∈ shlexWhitespace
    · have hsplit : (c :: cs).splitOnP (· ∈ shlexWhitespace) =
          [] :: cs.splitOnP (· ∈ shlexWhitespace) := by
        rw [List.splitOnP_cons_eq_if_modifyHead, if_pos (decide_eq_true hspace)]
      refine ⟨fun h => ?_, fun token htoken h => ?_⟩
      · rw [hsplit] at h
        rw [readTokens, if_pos hspace, ihblank (List.forall_mem_cons.mp h).2, whitespaceTokens,
          whitespaceTokens, hsplit]
        rfl
      · rw [hsplit] at h
        rw [readTokens, if_pos hspace, ihblank h, hsplit]
        simp [whitespaceTokens, htoken]
    · obtain ⟨word, words, hwords⟩ := List.exists_cons_of_ne_nil
        (List.splitOnP_ne_nil (· ∈ shlexWhitespace) cs)
      have hsplit : (c :: cs).splitOnP (· ∈ shlexWhitespace) = (c :: word) :: words := by
        rw [List.splitOnP_cons_eq_if_modifyHead, if_neg (by simpa using hspace), hwords]
        rfl
      refine ⟨fun h => ?_, fun token htoken h => ?_⟩
      · rw [hsplit] at h
        obtain ⟨hhead, htail⟩ := List.forall_mem_cons.mp h
        rw [readTokens, if_neg hspace, if_neg (hhead c rfl),
          ihword [c] (List.cons_ne_nil c []) (by rw [hwords]; exact htail), whitespaceTokens, hsplit,
          hwords]
        rfl
      · rw [hsplit] at h
        rw [readTokens, if_neg hspace, ihword (token ++ [c]) (by simp) (by rw [hwords]; exact h), hsplit,
          hwords]
        simp

/-- Where no word begins with a quote, the tokens of a line are its words. -/
theorem shlexSplit_of_plain {line : String}
    (h : ∀ w ∈ whitespaceTokens line.toList, ∀ c ∈ w.head?, c ∉ shlexQuotes) :
    shlexSplit line = some ((whitespaceTokens line.toList).map String.ofList) := by
  have hwords : ∀ w ∈ line.toList.splitOnP (· ∈ shlexWhitespace), ∀ c ∈ w.head?,
      c ∉ shlexQuotes := fun w hw c hc => by
    refine h w (List.mem_filter.mpr ⟨hw, decide_eq_true ?_⟩) c hc
    rintro rfl
    cases hc
  rw [shlexSplit, readTokens_of_plain.1 hwords]
  rfl

end IncidentAwareness.Lib
