import Mathlib.Tactic.Common

/-!
# JSON texts

`json.dumps` with compact separators, `sort_keys` and `ensure_ascii=False`, encoded
as UTF-8: the text of a value, byte by byte. An atom is given by its token (`null`,
`true`, `false` or a number as it is written), an object by its members in the order
of their keys. A text has no line break (`noBreak_dumps`), and where it ends can be
read off it: an object's text that starts with another object's is this object's
(`dumpsObject_append_inj`), and a value has its text alone (`dumps_injective`).
-/

namespace IncidentAwareness.Lib

/-- The bytes of tokens: letters, digits and the signs of numbers. -/
def IsBare (b : UInt8) : Prop :=
  48 ≤ b ∧ b ≤ 57 ∨ 65 ≤ b ∧ b ≤ 90 ∨ 97 ≤ b ∧ b ≤ 122 ∨ b = 43 ∨ b = 45 ∨ b = 46

instance (b : UInt8) : Decidable (IsBare b) := by unfold IsBare; infer_instance

/-- `null`, `true`, `false` or a number, as it is written. -/
abbrev JsonAtom := { token : List UInt8 // token ≠ [] ∧ ∀ b ∈ token, IsBare b }

/-- A JSON value. -/
inductive Json where
  | atom (token : JsonAtom)
  | str (value : String)
  | arr (items : List Json)
  | obj (members : List (String × Json))

/-! ## Texts -/

/-- The UTF-8 bytes of a string. -/
def utf8 (s : String) : List UInt8 := s.toByteArray.data.toList

/-- A hexadecimal digit. -/
def hexDigit (d : UInt8) : UInt8 := if d < 10 then 48 + d else 87 + d

/-- What stands for a byte in a string: the bytes that are escaped are ASCII. -/
def escapeByte (b : UInt8) : List UInt8 :=
  if b = 34 then [92, 34]
  else if b = 92 then [92, 92]
  else if b = 10 then [92, 110]
  else if b = 13 then [92, 114]
  else if b = 9 then [92, 116]
  else if b = 12 then [92, 102]
  else if b = 8 then [92, 98]
  else if b < 32 then [92, 117, 48, 48, hexDigit (b / 16), hexDigit (b % 16)]
  else [b]

/-- The bytes of a string between its quotes, and the closing quote. -/
def dumpsBytes : List UInt8 → List UInt8
  | [] => [34]
  | b :: bs => escapeByte b ++ dumpsBytes bs

/-- The text of a string. -/
def dumpsString (s : String) : List UInt8 := 34 :: dumpsBytes (utf8 s)

mutual

/-- The text of a value. -/
def dumps : Json → List UInt8
  | .atom token => token.val
  | .str value => dumpsString value
  | .arr [] => [91, 93]
  | .arr (v :: vs) => 91 :: (dumps v ++ dumpsItems vs)
  | .obj [] => [123, 125]
  | .obj ((k, v) :: ms) => 123 :: (dumpsString k ++ 58 :: (dumps v ++ dumpsMembers ms))

/-- The text of an array after its first items. -/
def dumpsItems : List Json → List UInt8
  | [] => [93]
  | v :: vs => 44 :: (dumps v ++ dumpsItems vs)

/-- The text of an object after its first members. -/
def dumpsMembers : List (String × Json) → List UInt8
  | [] => [125]
  | (k, v) :: ms => 44 :: (dumpsString k ++ 58 :: (dumps v ++ dumpsMembers ms))

end

/-! ## Where a string ends -/

/-- The value of a hexadecimal digit. -/
def hexValue (h : UInt8) : UInt8 := if h < 58 then h - 48 else h - 87

/-- The first byte that a string's text stands for, and the text after it. -/
def unescape : List UInt8 → Option (UInt8 × List UInt8)
  | [] => none
  | 34 :: _ => none
  | 92 :: 117 :: 48 :: 48 :: h :: l :: rest => some (hexValue h * 16 + hexValue l, rest)
  | 92 :: c :: rest =>
    some (if c = 110 then 10 else if c = 114 then 13 else if c = 116 then 9
      else if c = 102 then 12 else if c = 98 then 8 else c, rest)
  | b :: rest => some (b, rest)

theorem hexValue_pair {b : UInt8} (h : b < 32) :
    hexValue (hexDigit (b / 16)) * 16 + hexValue (hexDigit (b % 16)) = b := by
  have hall : ∀ i : Fin 32, hexValue (hexDigit (UInt8.ofNat i / 16)) * 16 +
      hexValue (hexDigit (UInt8.ofNat i % 16)) = UInt8.ofNat i := by decide
  have hb := hall ⟨b.toNat, h⟩
  rwa [UInt8.ofNat_toNat] at hb

theorem unescape_escapeByte (b : UInt8) (rest : List UInt8) :
    unescape (escapeByte b ++ rest) = some (b, rest) := by
  unfold escapeByte
  split
  · next h => rw [h]; rfl
  split
  · next h => rw [h]; rfl
  split
  · next h => rw [h]; rfl
  split
  · next h => rw [h]; rfl
  split
  · next h => rw [h]; rfl
  split
  · next h => rw [h]; rfl
  split
  · next h => rw [h]; rfl
  split
  · next h =>
    show some (_, rest) = _
    rw [hexValue_pair h]
  · next hquote hslash _ _ _ _ _ _ =>
    show unescape (b :: rest) = _
    unfold unescape
    split <;> simp_all

theorem utf8_injective {s t : String} (h : utf8 s = utf8 t) : s = t := by
  rw [← String.toByteArray_inj]
  exact ByteArray.ext (Array.toList_inj.mp h)

variable {s t : List UInt8}

theorem dumpsBytes_append_inj {xs ys : List UInt8} (h : dumpsBytes xs ++ s = dumpsBytes ys ++ t) :
    xs = ys ∧ s = t := by
  have hclosed : ∀ {b : UInt8} {bs u w : List UInt8}, 34 :: u ≠ escapeByte b ++ dumpsBytes bs ++ w := by
    intro b bs u w heq
    have hread := congrArg unescape heq
    rw [List.append_assoc, unescape_escapeByte] at hread
    exact absurd hread (by simp [unescape])
  induction xs generalizing ys with
  | nil =>
    cases ys with
    | nil => exact ⟨rfl, List.tail_eq_of_cons_eq h⟩
    | cons c ys => exact absurd h hclosed
  | cons b xs ih =>
    cases ys with
    | nil => exact absurd h.symm hclosed
    | cons c ys =>
      have hread := congrArg unescape h
      rw [dumpsBytes, dumpsBytes, List.append_assoc, List.append_assoc, unescape_escapeByte,
        unescape_escapeByte] at hread
      obtain ⟨rfl, hrest⟩ := Prod.mk.inj (Option.some.inj hread)
      obtain ⟨rfl, hst⟩ := ih hrest
      exact ⟨rfl, hst⟩

theorem dumpsString_append_inj {x y : String} (h : dumpsString x ++ s = dumpsString y ++ t) :
    x = y ∧ s = t := by
  obtain ⟨hbytes, hst⟩ := dumpsBytes_append_inj (List.tail_eq_of_cons_eq h)
  exact ⟨utf8_injective hbytes, hst⟩

/-! ## Where a value ends -/

/-- What may follow a token: nothing that prolongs it. -/
def Ends (rest : List UInt8) : Prop := ∀ b ∈ rest.head?, ¬ IsBare b

theorem ends_cons {b : UInt8} {rest : List UInt8} (h : ¬ IsBare b) : Ends (b :: rest) := by
  intro c hc
  rwa [← Option.some.inj hc]

/-- A text of bare bytes ends where the bare bytes do. -/
theorem bare_append_inj {xs ys : List UInt8} (hx : ∀ b ∈ xs, IsBare b) (hy : ∀ b ∈ ys, IsBare b)
    (hs : Ends s) (ht : Ends t) (h : xs ++ s = ys ++ t) : xs = ys ∧ s = t := by
  induction xs generalizing ys with
  | nil =>
    cases ys with
    | nil => exact ⟨rfl, h⟩
    | cons c ys =>
      rw [List.nil_append, List.cons_append] at h
      exact absurd (hy c List.mem_cons_self) (hs c (by rw [h]; rfl))
  | cons b xs ih =>
    cases ys with
    | nil =>
      rw [List.nil_append, List.cons_append] at h
      exact absurd (hx b List.mem_cons_self) (ht b (by rw [← h]; rfl))
    | cons c ys =>
      obtain ⟨rfl, hrest⟩ := List.cons.inj h
      obtain ⟨rfl, hst⟩ := ih (fun b hb => hx b (List.mem_cons_of_mem _ hb))
        (fun b hb => hy b (List.mem_cons_of_mem _ hb)) hrest
      exact ⟨rfl, hst⟩

/-- The four forms of values. -/
inductive JsonForm where
  | atom | str | arr | obj
  deriving DecidableEq

def Json.form : Json → JsonForm
  | .atom _ => .atom
  | .str _ => .str
  | .arr _ => .arr
  | .obj _ => .obj

/-- The form of the values whose texts begin with a byte. -/
def formOf (b : UInt8) : Option JsonForm :=
  if IsBare b then some .atom
  else if b = 34 then some .str
  else if b = 91 then some .arr
  else if b = 123 then some .obj
  else none

/-- The first byte of a text shows the form of its value. -/
theorem formOf_head (v : Json) : ∃ b rest, dumps v = b :: rest ∧ formOf b = some v.form := by
  match v with
  | .atom ⟨[], hne, _⟩ => exact absurd rfl hne
  | .atom ⟨b :: rest, _, hbare⟩ =>
    refine ⟨b, rest, rfl, ?_⟩
    unfold formOf
    rw [if_pos (hbare b List.mem_cons_self)]
    rfl
  | .str _ => exact ⟨34, _, rfl, rfl⟩
  | .arr [] => exact ⟨91, _, rfl, rfl⟩
  | .arr (_ :: _) => exact ⟨91, _, rfl, rfl⟩
  | .obj [] => exact ⟨123, _, rfl, rfl⟩
  | .obj (_ :: _) => exact ⟨123, _, rfl, rfl⟩

theorem form_eq {v w : Json} (h : dumps v ++ s = dumps w ++ t) : v.form = w.form := by
  obtain ⟨b, rest, hv, hb⟩ := formOf_head v
  obtain ⟨c, rest', hw, hc⟩ := formOf_head w
  rw [hv, hw] at h
  rw [(List.cons.inj h).1] at hb
  exact Option.some.inj (hb.symm.trans hc)

/-- No value's text begins with a closing bracket. -/
theorem dumps_ne_close {v : Json} {rest : List UInt8} : dumps v ++ s ≠ 93 :: rest := by
  obtain ⟨b, tail, hv, hb⟩ := formOf_head v
  rw [hv]
  intro h
  rw [(List.cons.inj h).1] at hb
  exact absurd hb (by simp [formOf, IsBare])

theorem ends_dumpsItems (vs : List Json) : Ends (dumpsItems vs ++ s) := by
  cases vs <;> exact ends_cons (by decide)

theorem ends_dumpsMembers (ms : List (String × Json)) : Ends (dumpsMembers ms ++ s) := by
  cases ms <;> exact ends_cons (by decide)

mutual

/-- A value can be read off its text. -/
theorem dumps_append_inj : ∀ (v : Json) {w : Json} {s t : List UInt8}, Ends s → Ends t →
    dumps v ++ s = dumps w ++ t → v = w ∧ s = t
  | .atom a, w, s, t, hs, ht, h => by
    have hform := form_eq h
    cases w with
    | atom b =>
      simp only [dumps] at h
      obtain ⟨hab, hst⟩ := bare_append_inj a.property.2 b.property.2 hs ht h
      exact ⟨congrArg Json.atom (Subtype.ext hab), hst⟩
    | _ => exact absurd hform (by simp [Json.form])
  | .str x, w, s, t, _, _, h => by
    have hform := form_eq h
    cases w with
    | str y =>
      simp only [dumps] at h
      obtain ⟨rfl, hst⟩ := dumpsString_append_inj h
      exact ⟨rfl, hst⟩
    | _ => exact absurd hform (by simp [Json.form])
  | .arr vs, w, s, t, _, _, h => by
    have hform := form_eq h
    cases w with
    | arr ws =>
      obtain ⟨rfl, hst⟩ := dumpsArray_append_inj vs h
      exact ⟨rfl, hst⟩
    | _ => exact absurd hform (by simp [Json.form])
  | .obj ms, w, s, t, _, _, h => by
    have hform := form_eq h
    cases w with
    | obj ns =>
      obtain ⟨rfl, hst⟩ := dumpsObject_append_inj ms h
      exact ⟨rfl, hst⟩
    | _ => exact absurd hform (by simp [Json.form])

theorem dumpsArray_append_inj : ∀ (vs : List Json) {ws : List Json} {s t : List UInt8},
    dumps (.arr vs) ++ s = dumps (.arr ws) ++ t → vs = ws ∧ s = t
  | [], ws, s, t, h => by
    cases ws with
    | nil => exact ⟨rfl, List.append_cancel_left h⟩
    | cons w ws =>
      simp only [dumps, List.cons_append, List.append_assoc, List.cons.injEq, true_and] at h
      exact absurd h.symm dumps_ne_close
  | v :: vs, ws, s, t, h => by
    cases ws with
    | nil =>
      simp only [dumps, List.cons_append, List.append_assoc, List.cons.injEq, true_and] at h
      exact absurd h dumps_ne_close
    | cons w ws =>
      simp only [dumps, List.cons_append, List.append_assoc, List.cons.injEq, true_and] at h
      obtain ⟨rfl, hrest⟩ := dumps_append_inj v (ends_dumpsItems vs) (ends_dumpsItems ws) h
      obtain ⟨rfl, hst⟩ := dumpsItems_append_inj vs hrest
      exact ⟨rfl, hst⟩

theorem dumpsItems_append_inj : ∀ (vs : List Json) {ws : List Json} {s t : List UInt8},
    dumpsItems vs ++ s = dumpsItems ws ++ t → vs = ws ∧ s = t
  | [], ws, s, t, h => by
    cases ws with
    | nil => exact ⟨rfl, List.append_cancel_left h⟩
    | cons w ws => exact absurd (List.cons.inj h).1 (by decide)
  | v :: vs, ws, s, t, h => by
    cases ws with
    | nil => exact absurd (List.cons.inj h).1 (by decide)
    | cons w ws =>
      simp only [dumpsItems, List.cons_append, List.append_assoc, List.cons.injEq, true_and] at h
      obtain ⟨rfl, hrest⟩ := dumps_append_inj v (ends_dumpsItems vs) (ends_dumpsItems ws) h
      obtain ⟨rfl, hst⟩ := dumpsItems_append_inj vs hrest
      exact ⟨rfl, hst⟩

/-- Where an object's text ends does not depend on what follows. -/
theorem dumpsObject_append_inj : ∀ (ms : List (String × Json)) {ns : List (String × Json)}
    {s t : List UInt8}, dumps (.obj ms) ++ s = dumps (.obj ns) ++ t → ms = ns ∧ s = t
  | [], ns, s, t, h => by
    cases ns with
    | nil => exact ⟨rfl, List.append_cancel_left h⟩
    | cons m ns => exact absurd (List.cons.inj (List.cons.inj h).2).1 (by decide)
  | (k, v) :: ms, ns, s, t, h => by
    cases ns with
    | nil => exact absurd (List.cons.inj (List.cons.inj h).2).1 (by decide)
    | cons m ns =>
      simp only [dumps, List.cons_append, List.append_assoc, List.cons.injEq, true_and] at h
      obtain ⟨hkey, h⟩ := dumpsString_append_inj h
      simp only [List.cons.injEq, true_and] at h
      obtain ⟨hvalue, h⟩ := dumps_append_inj v (ends_dumpsMembers ms) (ends_dumpsMembers ns) h
      obtain ⟨rfl, hst⟩ := dumpsMembers_append_inj ms h
      exact ⟨by rw [hkey, hvalue], hst⟩

theorem dumpsMembers_append_inj : ∀ (ms : List (String × Json)) {ns : List (String × Json)}
    {s t : List UInt8}, dumpsMembers ms ++ s = dumpsMembers ns ++ t → ms = ns ∧ s = t
  | [], ns, s, t, h => by
    cases ns with
    | nil => exact ⟨rfl, List.append_cancel_left h⟩
    | cons m ns => exact absurd (List.cons.inj h).1 (by decide)
  | (k, v) :: ms, ns, s, t, h => by
    cases ns with
    | nil => exact absurd (List.cons.inj h).1 (by decide)
    | cons m ns =>
      simp only [dumpsMembers, List.cons_append, List.append_assoc, List.cons.injEq, true_and] at h
      obtain ⟨hkey, h⟩ := dumpsString_append_inj h
      simp only [List.cons.injEq, true_and] at h
      obtain ⟨hvalue, h⟩ := dumps_append_inj v (ends_dumpsMembers ms) (ends_dumpsMembers ns) h
      obtain ⟨rfl, hst⟩ := dumpsMembers_append_inj ms h
      exact ⟨by rw [hkey, hvalue], hst⟩

end

/-- A value has its text alone. -/
theorem dumps_injective {v w : Json} (h : dumps v = dumps w) : v = w := by
  have hends : Ends [] := fun b hb => absurd hb (by simp)
  exact (dumps_append_inj v hends hends (by rw [h])).1

/-! ## Lines -/

/-- A byte that does not end a line. -/
def NoBreak (b : UInt8) : Prop := b ≠ 10 ∧ b ≠ 13

instance (b : UInt8) : Decidable (NoBreak b) := by unfold NoBreak; infer_instance

theorem noBreak_of_isBare {b : UInt8} (h : IsBare b) : NoBreak b := by
  constructor <;> rintro rfl <;> exact absurd h (by decide)

theorem noBreak_escapeByte (b : UInt8) : ∀ c ∈ escapeByte b, NoBreak c := by
  by_cases hb : b < 32
  · have hall : ∀ i : Fin 32, (escapeByte (UInt8.ofNat i)).all (fun c => decide (NoBreak c)) := by
      decide
    have hb' := hall ⟨b.toNat, hb⟩
    rw [UInt8.ofNat_toNat, List.all_eq_true] at hb'
    exact fun c hc => of_decide_eq_true (hb' c hc)
  · have hself : NoBreak b := by constructor <;> rintro rfl <;> exact hb (by decide)
    unfold escapeByte
    rw [if_neg hself.1, if_neg hself.2]
    split
    · simp [NoBreak]
    split
    · simp [NoBreak]
    split
    · simp [NoBreak]
    split
    · simp [NoBreak]
    split
    · simp [NoBreak]
    intro c hc
    rwa [List.mem_singleton.mp hc]

theorem noBreak_dumpsString (s : String) : ∀ c ∈ dumpsString s, NoBreak c := by
  have hbytes : ∀ bs : List UInt8, ∀ c ∈ dumpsBytes bs, NoBreak c := by
    intro bs
    induction bs with
    | nil => simp [dumpsBytes, NoBreak]
    | cons b bs ih =>
      intro c hc
      rcases List.mem_append.mp hc with hc | hc
      · exact noBreak_escapeByte b c hc
      · exact ih c hc
  intro c hc
  rcases List.mem_cons.mp hc with rfl | hc
  · decide
  · exact hbytes _ c hc

mutual

/-- A text is one line. -/
theorem noBreak_dumps : ∀ (v : Json), ∀ c ∈ dumps v, NoBreak c
  | .atom a, c, hc => noBreak_of_isBare (a.property.2 c hc)
  | .str x, c, hc => noBreak_dumpsString x c hc
  | .arr [], c, hc => by
    revert c
    simp [dumps, NoBreak]
  | .arr (v :: vs), c, hc => by
    simp only [dumps, List.mem_cons, List.mem_append] at hc
    rcases hc with rfl | hc | hc
    · decide
    · exact noBreak_dumps v c hc
    · exact noBreak_dumpsItems vs c hc
  | .obj [], c, hc => by
    revert c
    simp [dumps, NoBreak]
  | .obj ((k, v) :: ms), c, hc => by
    simp only [dumps, List.mem_cons, List.mem_append] at hc
    rcases hc with rfl | hc | rfl | hc | hc
    · decide
    · exact noBreak_dumpsString k c hc
    · decide
    · exact noBreak_dumps v c hc
    · exact noBreak_dumpsMembers ms c hc

theorem noBreak_dumpsItems : ∀ (vs : List Json), ∀ c ∈ dumpsItems vs, NoBreak c
  | [], c, hc => by
    revert c
    simp [dumpsItems, NoBreak]
  | v :: vs, c, hc => by
    simp only [dumpsItems, List.mem_cons, List.mem_append] at hc
    rcases hc with rfl | hc | hc
    · decide
    · exact noBreak_dumps v c hc
    · exact noBreak_dumpsItems vs c hc

theorem noBreak_dumpsMembers : ∀ (ms : List (String × Json)), ∀ c ∈ dumpsMembers ms, NoBreak c
  | [], c, hc => by
    revert c
    simp [dumpsMembers, NoBreak]
  | (k, v) :: ms, c, hc => by
    simp only [dumpsMembers, List.mem_cons, List.mem_append] at hc
    rcases hc with rfl | hc | rfl | hc | hc
    · decide
    · exact noBreak_dumpsString k c hc
    · decide
    · exact noBreak_dumps v c hc
    · exact noBreak_dumpsMembers ms c hc

end

/-! ## Depth -/

mutual

/-- How deep a value is nested. -/
def Json.depth : Json → Nat
  | .atom _ => 0
  | .str _ => 0
  | .arr items => depthItems items + 1
  | .obj members => depthMembers members + 1

/-- The depth of the items of an array. -/
def depthItems : List Json → Nat
  | [] => 0
  | v :: vs => max v.depth (depthItems vs)

/-- The depth of the values of an object. -/
def depthMembers : List (String × Json) → Nat
  | [] => 0
  | (_, v) :: ms => max v.depth (depthMembers ms)

end

/-! ## Constants -/

/-- `null`. -/
def nullToken : List UInt8 := [110, 117, 108, 108]

/-- `true`. -/
def trueToken : List UInt8 := [116, 114, 117, 101]

/-- `false`. -/
def falseToken : List UInt8 := [102, 97, 108, 115, 101]

theorem nullToken_bare : nullToken ≠ [] ∧ ∀ b ∈ nullToken, IsBare b := by
  simp [nullToken, IsBare]

theorem trueToken_bare : trueToken ≠ [] ∧ ∀ b ∈ trueToken, IsBare b := by
  simp [trueToken, IsBare]

theorem falseToken_bare : falseToken ≠ [] ∧ ∀ b ∈ falseToken, IsBare b := by
  simp [falseToken, IsBare]

/-- A truth value as JSON. -/
def Json.bool : Bool → Json
  | true => .atom ⟨trueToken, trueToken_bare⟩
  | false => .atom ⟨falseToken, falseToken_bare⟩

/-- A string or `null`. -/
def Json.strOrNull : Option String → Json
  | none => .atom ⟨nullToken, nullToken_bare⟩
  | some s => .str s

theorem Json.bool_injective : Function.Injective Json.bool := by
  intro a b h
  cases a <;> cases b <;> simp_all [Json.bool, trueToken, falseToken]

theorem Json.strOrNull_injective : Function.Injective Json.strOrNull := by
  intro a b h
  cases a <;> cases b <;> simp_all [Json.strOrNull]

/-! ## Numbers -/

/-- The token of a natural number. -/
def natToken (n : Nat) : List UInt8 := (Nat.toDigits 10 n).map Char.toUInt8

theorem digit_byte {c : Char} (h : c.isDigit = true) : c.toUInt8.toNat = c.toNat ∧
    48 ≤ c.toNat ∧ c.toNat ≤ 57 := by
  have hbounds : 48 ≤ c.toNat ∧ c.toNat ≤ 57 := by
    simpa [Char.isDigit, UInt32.le_iff_toNat_le] using h
  refine ⟨?_, hbounds⟩
  show c.toNat % 256 = c.toNat
  omega

theorem digit_of_mem {n : Nat} {c : Char} (hc : c ∈ Nat.toDigits 10 n) : c.isDigit = true :=
  Nat.isDigit_of_mem_toDigits (by decide) (by decide) hc

theorem natToken_bare (n : Nat) : natToken n ≠ [] ∧ ∀ b ∈ natToken n, IsBare b := by
  refine ⟨fun h => Nat.toDigits_ne_nil (List.map_eq_nil_iff.mp h), fun b hb => ?_⟩
  obtain ⟨c, hc, rfl⟩ := List.mem_map.mp hb
  obtain ⟨hbyte, hlow, hhigh⟩ := digit_byte (digit_of_mem hc)
  refine .inl ⟨?_, ?_⟩
  · rw [UInt8.le_iff_toNat_le, hbyte]
    exact hlow
  · rw [UInt8.le_iff_toNat_le, hbyte]
    exact hhigh

/-- `n` as JSON. -/
def Json.nat (n : Nat) : Json := .atom ⟨natToken n, natToken_bare n⟩

theorem natToken_digits (n : Nat) :
    (natToken n).map (fun b => Char.ofNat b.toNat) = Nat.toDigits 10 n := by
  unfold natToken
  rw [List.map_map]
  refine (List.map_congr_left fun c hc => ?_).trans (List.map_id _)
  show Char.ofNat c.toUInt8.toNat = c
  rw [(digit_byte (digit_of_mem hc)).1, Char.ofNat_toNat]

theorem Json.nat_injective {m n : Nat} (h : Json.nat m = Json.nat n) : m = n := by
  have htoken : natToken m = natToken n := congrArg Subtype.val (Json.atom.inj h)
  have hdigits : Nat.toDigits 10 m = Nat.toDigits 10 n := by
    rw [← natToken_digits, ← natToken_digits, htoken]
  have hvalue := congrArg (fun l => Nat.ofDigitChars 10 l 0) hdigits
  simpa only [Nat.ofDigitChars_ten_toDigits] using hvalue

end IncidentAwareness.Lib
