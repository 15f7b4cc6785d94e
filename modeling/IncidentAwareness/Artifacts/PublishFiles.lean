import IncidentAwareness.Common.Python
import IncidentAwareness.Lib.Links
import IncidentAwareness.Lib.Program

/-!
# Publication of the files of an artifact

`_publish_files`: every file is staged under a temporary name, the staged files are
linked to their targets in order, and an exception removes the links that were made.
The temporaries go last, however the links ended.

The program is generic in the names and the contents of the targets. `tempfile` gives
a temporary name to nobody else: it is its publisher and its number.
-/

namespace IncidentAwareness.Artifacts

open IncidentAwareness.Common IncidentAwareness.Lib

variable {ι N C α : Type}

/-- A file: one that was there before, or one that a publisher staged. -/
inductive ArtifactFile (ι N : Type) where
  | prior (name : N)
  | staged (publisher : ι) (index : Nat)
  deriving DecidableEq, Repr

/-- A name in an output directory. -/
inductive ArtifactPath (ι N : Type) where
  | artifact (name : N)
  | temporary (publisher : ι) (index : Nat)
  deriving DecidableEq, Repr

/-- An output directory. -/
abbrev OutputDirectory (ι N C : Type) := Links (ArtifactPath ι N) (ArtifactFile ι N) C

/-- What a call raises: an `OSError`, or an exception that is none. -/
inductive CallError where
  | fileExistsError (text : String)
  | fileNotFoundError
  | osError (text : String)
  | baseException (text : String)
  deriving DecidableEq, Repr

/-- `except OSError`. -/
def CallError.isOSError : CallError → Bool
  | .baseException _ => false
  | _ => true

/-- `f"{type(error).__name__}: {error}"`. -/
def CallError.describe : CallError → String
  | .fileExistsError text => "FileExistsError: " ++ text
  | .fileNotFoundError => "FileNotFoundError: No such file or directory"
  | .osError text => "OSError: " ++ text
  | .baseException text => text

/-- What a publisher raises. An extraction that failed raises its own error, with a note
when its summary was not published either. -/
inductive ArtifactError where
  | pyError (e : PyError)
  | call (e : CallError)
  | extraction (e : PyError) (note : Option String)
  deriving DecidableEq, Repr

/-- The calls of a publication. -/
inductive PublishSite (N : Type) where
  | exists (name : N)
  | create (name : N)
  | write (name : N)
  | close (name : N)
  | link (name : N)
  | stat (name : N)
  | lstat (name : N)
  | unlink (name : N)
  | unlinkStaged (index : Nat)
  deriving DecidableEq, Repr

/-- A part of a publisher. -/
abbrev Publisher (ι N C : Type) (α : Type) :=
  Program (PublishSite N) ArtifactError (OutputDirectory ι N C) α

/-- A result that is there already. -/
def Publisher.ofExcept : Except ArtifactError α → Publisher ι N C α := .done

section Calls

variable [DecidableEq ι] [DecidableEq N] (i : ι)

/-- `path.exists()`. -/
def pathExists (name : N) : Publisher ι N C Bool :=
  .request (.exists name) fun d => some (.ok (d.entries (.artifact name)).isSome, d)

/-- `NamedTemporaryFile`. -/
def createTemporary (index : Nat) (name : N) : Publisher ι N C Unit :=
  .request (.create name) fun d => some (.ok (), d.create (.temporary i index) (.staged i index))

/-- `temporary.write`; the content is there once the file is closed. -/
def writeTemporary (name : N) : Publisher ι N C Unit := .request (.write name) fun d => some (.ok (), d)

/-- The end of the `with`. -/
def closeTemporary (index : Nat) (name : N) (content : C) : Publisher ι N C Unit :=
  .request (.close name) fun d => some (.ok (), d.fill (.staged i index) content)

/-- `os.link`. -/
def osLink (name : N) (index : Nat) : Publisher ι N C Unit :=
  .request (.link name) fun d =>
    match d.link (.temporary i index) (.artifact name) with
    | .ok d' => some (.ok (), d')
    | .error .sourceMissing => some (.error (.call .fileNotFoundError), d)
    | .error .targetExists => some (.error (.call (.fileExistsError "File exists")), d)

/-- `source.stat()` and `target.lstat()`: the file of a name. -/
def statPath (site : PublishSite N) (path : ArtifactPath ι N) : Publisher ι N C (ArtifactFile ι N) :=
  .request site fun d =>
    match d.entries path with
    | some file => some (.ok file, d)
    | none => some (.error (.call .fileNotFoundError), d)

/-- `target.unlink()`. -/
def unlinkTarget (name : N) : Publisher ι N C Unit :=
  .request (.unlink name) fun d =>
    match d.entries (.artifact name) with
    | some _ => some (.ok (), d.unlink (.artifact name))
    | none => some (.error (.call .fileNotFoundError), d)

/-- `source.unlink(missing_ok=True)`. -/
def unlinkStaged (index : Nat) : Publisher ι N C Unit :=
  .request (.unlinkStaged index) fun d => some (.ok (), d.unlink (.temporary i index))

/-! ## The loops -/

/-- One turn of the first loop: whether the temporary became one of `staged`, and how
the turn ended. -/
def stageFile (index : Nat) (file : N × C) : Publisher ι N C (Bool × Except ArtifactError Unit) := do
  match ← (do createTemporary i index file.1; writeTemporary file.1 : Publisher ι N C Unit).attempt with
  | .error e => return (false, .error e)
  | .ok () =>
    let closed ← (closeTemporary i index file.1 file.2).attempt
    return (true, closed)

/-- The first loop: how many temporaries are `staged`, and how the loop ended. -/
def stageFiles : List (N × C) → Nat → Publisher ι N C (Nat × Except ArtifactError Unit)
  | [], staged => return (staged, .ok ())
  | file :: files, staged => do
    match ← stageFile i staged file with
    | (false, r) => return (staged, r)
    | (true, .error e) => return (staged + 1, .error e)
    | (true, .ok ()) => stageFiles files (staged + 1)

/-- The second loop: the targets that are `published`, and how the loop ended. -/
def linkFiles : List (N × Nat) → List (N × Nat) →
    Publisher ι N C (List (N × Nat) × Except ArtifactError Unit)
  | [], published => return (published, .ok ())
  | target :: targets, published => do
    match ← (osLink i target.1 target.2).attempt with
    | .error e => return (published, .error e)
    | .ok () => linkFiles targets (published ++ [target])

/-- The `try` of the rollback of one link. -/
def removeOwnLink (target : N × Nat) : Publisher ι N C Unit := do
  let source ← statPath (.stat target.1) (.temporary i target.2)
  let linked ← statPath (.lstat target.1) (.artifact target.1)
  if source = linked then unlinkTarget target.1

/-- The rollback of one link. -/
def rollBackLink (target : N × Nat) : Publisher ι N C Unit := do
  match ← (removeOwnLink i target).attempt with
  | .error (.call .fileNotFoundError) => return ()
  | r => .ofExcept r

/-- `except BaseException`: how the publication ends. -/
def rollBack (published : List (N × Nat)) :
    Except ArtifactError Unit → Publisher ι N C (Except ArtifactError Unit)
  | .ok () => return .ok ()
  | .error e => do
    match ← (published.reverse.forM (rollBackLink i)).attempt with
    | .error e' => return .error e'
    | .ok () => return .error e

/-- The `try` of `_publish_files`: what is staged, what is published, and how it ended. -/
def stageAndLink (files : List (N × C)) :
    Publisher ι N C (Nat × List (N × Nat) × Except ArtifactError Unit) := do
  let (staged, r) ← stageFiles i files 0
  match r with
  | .error e => return (staged, [], .error e)
  | .ok () =>
    let (published, r) ← linkFiles i (files.map (·.1)).zipIdx []
    return (staged, published, r)

/-- `_publish_files`. -/
def publishFiles (files : List (N × C)) : Publisher ι N C Unit := do
  let (staged, published, r) ← stageAndLink i files
  let r ← rollBack i published r
  (List.range staged).forM (unlinkStaged i)
  .ofExcept r

end Calls

end IncidentAwareness.Artifacts
