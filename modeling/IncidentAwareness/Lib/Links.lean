import Mathlib.Logic.Function.Basic
import Mathlib.Tactic.Common

/-!
# Hard links

A directory whose names are links to files, so that one file may have several names.
A file is empty until it is filled; a name that is taken is never linked again
(`Links.link`), and removing a name leaves the file and its other names alone.
-/

namespace IncidentAwareness.Lib

variable {N F C : Type}

/-- The names of a directory, and the content of each file that has been filled. -/
structure Links (N F C : Type) where
  entries : N → Option F
  contents : F → Option C

/-- Why a link was not made. -/
inductive LinkError where
  | sourceMissing | targetExists
  deriving DecidableEq, Repr

namespace Links

variable {d d' : Links N F C}

/-- Fill a file. -/
def fill [DecidableEq F] (d : Links N F C) (file : F) (content : C) : Links N F C where
  entries := d.entries
  contents := Function.update d.contents file (some content)

@[simp] theorem entries_fill [DecidableEq F] (file : F) (content : C) :
    (d.fill file content).entries = d.entries := rfl

@[simp] theorem contents_fill [DecidableEq F] (file file' : F) (content : C) :
    (d.fill file content).contents file' = if file' = file then some content else d.contents file' :=
  Function.update_apply ..

variable [DecidableEq N]

/-- A new empty file under a name. -/
def create [DecidableEq F] (d : Links N F C) (name : N) (file : F) : Links N F C where
  entries := Function.update d.entries name (some file)
  contents := Function.update d.contents file none

@[simp] theorem entries_create [DecidableEq F] (name name' : N) (file : F) :
    (d.create name file).entries name' = if name' = name then some file else d.entries name' :=
  Function.update_apply ..

@[simp] theorem contents_create [DecidableEq F] (name : N) (file file' : F) :
    (d.create name file).contents file' = if file' = file then none else d.contents file' :=
  Function.update_apply ..

/-- Remove a name. -/
def unlink (d : Links N F C) (name : N) : Links N F C where
  entries := Function.update d.entries name none
  contents := d.contents

@[simp] theorem entries_unlink (name name' : N) :
    (d.unlink name).entries name' = if name' = name then none else d.entries name' :=
  Function.update_apply ..

@[simp] theorem contents_unlink (name : N) : (d.unlink name).contents = d.contents := rfl

/-- A second name for the file of a name. -/
def link (d : Links N F C) (source target : N) : Except LinkError (Links N F C) :=
  match d.entries source with
  | none => .error .sourceMissing
  | some file =>
    match d.entries target with
    | some _ => .error .targetExists
    | none => .ok { d with entries := Function.update d.entries target (some file) }

/-- A link that was made: the target was free, and names the file of the source. -/
theorem link_eq_ok {source target : N} (h : d.link source target = .ok d') :
    d.entries target = none ∧ d'.contents = d.contents ∧ ∃ file, d.entries source = some file ∧
      ∀ name, d'.entries name = if name = target then some file else d.entries name := by
  unfold link at h
  cases hsource : d.entries source with
  | none =>
    rw [hsource] at h
    cases h
  | some file =>
    cases htarget : d.entries target with
    | some file' =>
      rw [hsource, htarget] at h
      cases h
    | none =>
      rw [hsource, htarget] at h
      obtain rfl := Except.ok.inj h
      exact ⟨rfl, rfl, file, rfl, fun name => Function.update_apply ..⟩

end Links

end IncidentAwareness.Lib
