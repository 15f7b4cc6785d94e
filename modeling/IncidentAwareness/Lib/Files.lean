import IncidentAwareness.Lib.Table

/-!
# Files

The files of a POSIX file system without links, under their resolved paths, and
files that are written once.

* `Path.join`: where a relative or an absolute name leads from a directory;
  a name that is one component stays in the directory (`join_of_plain`);
* `Files.writeOnce`: a file that is there stays as it is, and another content is
  refused; `writeOnce_eq_some` says what a write leaves under every path.
-/

namespace IncidentAwareness.Lib

/-! ## Paths -/

/-- A path: its components from the root. -/
abbrev Path := List String

/-- The parts of a text between slashes. -/
def splitSlash : List Char → List (List Char)
  | [] => [[]]
  | c :: cs =>
    if c = '/' then [] :: splitSlash cs
    else match splitSlash cs with
      | [] => [[c]]
      | part :: parts => (c :: part) :: parts

theorem splitSlash_of_not_mem {cs : List Char} (h : '/' ∉ cs) : splitSlash cs = [cs] := by
  induction cs with
  | nil => rfl
  | cons c cs ih =>
    rw [List.mem_cons, not_or] at h
    rw [splitSlash, if_neg fun hc => h.1 hc.symm, ih h.2]

namespace Path

/-- One component from a directory. -/
def enter (p : Path) (component : String) : Path :=
  if component = "" ∨ component = "." then p
  else if component = ".." then p.dropLast
  else p ++ [component]

/-- Where a name leads from a directory. -/
def join (p : Path) (name : String) : Path :=
  ((splitSlash name.toList).map String.ofList).foldl enter
    (if name.toList.head? = some '/' then [] else p)

/-- A name that is one component of a path. -/
def IsPlain (name : String) : Prop := '/' ∉ name.toList ∧ name ≠ "" ∧ name ≠ "." ∧ name ≠ ".."

theorem join_of_plain {name : String} (h : IsPlain name) (p : Path) : p.join name = p ++ [name] := by
  obtain ⟨hslash, hempty, hdot, hdots⟩ := h
  have hhead : name.toList.head? ≠ some '/' := fun hc => hslash (List.mem_of_head? hc)
  rw [join, splitSlash_of_not_mem hslash, if_neg hhead]
  show enter p (String.ofList name.toList) = _
  rw [String.ofList_toList, enter, if_neg (not_or.mpr ⟨hempty, hdot⟩), if_neg hdots]

end Path

/-! ## Files -/

variable {C : Type}

/-- The files of a file system. -/
abbrev Files (C : Type) := Table (SameKey (Prod.fst : Path × C → Path))

namespace Files

/-- The content of a file. -/
def read (files : Files C) (p : Path) : Option C := (files.get p).map Prod.snd

/-- Write a file, in the place of what is there. -/
def write (files : Files C) (p : Path) (content : C) : Files C := files.upsert (p, content)

/-- Remove a file, if it is there. -/
def unlink (files : Files C) (p : Path) : Files C :=
  ⟨files.rows.filter fun f => f.1 ≠ p, files.unique.filter _⟩

@[simp] theorem read_empty (p : Path) : read (.empty : Files C) p = none := rfl

theorem read_eq_some {files : Files C} {p : Path} {content : C} :
    files.read p = some content ↔ (p, content) ∈ files := by
  rw [read, Option.map_eq_some_iff]
  constructor
  · rintro ⟨⟨q, c⟩, hget, rfl⟩
    obtain ⟨hmem, rfl⟩ := Table.get_eq_some.mp hget
    exact hmem
  · intro h
    exact ⟨(p, content), Table.get_of_mem h, rfl⟩

theorem read_write (files : Files C) (p q : Path) (content : C) :
    (files.write p content).read q = if q = p then some content else files.read q := by
  rw [read, write, Table.get_upsert]
  split
  · rfl
  · rfl

theorem read_unlink (files : Files C) (p q : Path) :
    (files.unlink p).read q = if q = p then none else files.read q := by
  have hmem : ∀ content, (q, content) ∈ files.unlink p ↔ (q, content) ∈ files ∧ q ≠ p := by
    intro content
    show (q, content) ∈ files.rows.filter _ ↔ _
    rw [List.mem_filter, decide_eq_true_eq]
    exact Iff.rfl
  refine Option.ext fun content => ?_
  rw [read_eq_some, hmem]
  by_cases hq : q = p
  · simp [hq]
  · rw [if_neg hq, read_eq_some]
    simp [hq]

variable [DecidableEq C]

/-- Write a file that keeps its first content; another content is refused. -/
def writeOnce (files : Files C) (p : Path) (content : C) : Option (Files C) :=
  match files.read p with
  | none => some (files.write p content)
  | some existing => if existing = content then some files else none

/-- What a write that was not refused leaves. -/
theorem writeOnce_eq_some {files files' : Files C} {p : Path} {content : C}
    (h : files.writeOnce p content = some files') :
    (files.read p = none ∨ files.read p = some content) ∧
      ∀ q, files'.read q = if q = p then some content else files.read q := by
  unfold writeOnce at h
  cases hread : files.read p with
  | none =>
    rw [hread] at h
    obtain rfl := Option.some.inj h
    exact ⟨.inl rfl, fun q => read_write files p q content⟩
  | some existing =>
    rw [hread] at h
    by_cases hsame : existing = content
    · obtain rfl := hsame
      obtain rfl : files = files' := by simpa using h
      refine ⟨.inr rfl, fun q => ?_⟩
      by_cases hq : q = p
      · rw [if_pos hq, hq, hread]
      · rw [if_neg hq]
    · simp [hsame] at h

theorem writeOnce_eq_none {files : Files C} {p : Path} {content : C} :
    files.writeOnce p content = none ↔ ∃ existing, files.read p = some existing ∧ existing ≠ content := by
  unfold writeOnce
  cases hread : files.read p with
  | none => simp
  | some existing => simp

end Files

end IncidentAwareness.Lib
