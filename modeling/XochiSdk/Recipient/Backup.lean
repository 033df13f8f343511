import XochiSdk.Library.Plays

/-!
# Backups written all or nothing

`tools/recipient/src/backup.ts`: `writePrivateFileExclusive` and
`writeBackupCopies`, over a disk that other processes also create files on. A file appears at its
final path by a hard link from a temporary one that is already complete and synced.
-/

namespace XochiSdk.Recipient.Backup

open XochiSdk.Library

/-! ## The disk -/

/-- A file: what it holds, whether that would survive a crash, and whether the call made it. -/
structure File where
  bytes : List UInt8
  synced : Bool
  ours : Bool

/-- The directory entries, by location, and the files they name. -/
structure Disk where
  entries : String → Option Nat
  files : List File

def Disk.link (p : String) (file : Nat) (d : Disk) : Disk :=
  { d with entries := fun q => if q = p then some file else d.entries q }

def Disk.unlink (p : String) (d : Disk) : Disk :=
  { d with entries := fun q => if q = p then none else d.entries q }

/-- A new file at a location. -/
def Disk.create (p : String) (file : File) (d : Disk) : Disk :=
  { entries := fun q => if q = p then some d.files.length else d.entries q
    files := d.files ++ [file] }

def Disk.change (i : Nat) (change : File → File) (d : Disk) : Disk :=
  { d with files := d.files.modify i change }

/-- Node's path functions, and the directory entry that a path names. -/
class Platform where
  resolve : String → String
  dirname : String → String
  basename : String → String
  join : String → String → String
  locate : String → String

export Platform (resolve dirname basename join locate)

/-- What is thrown. -/
inductive Thrown where
  | error (message : String)
  | failed (operation : String)
  deriving DecidableEq

/-- The operations of the file system, before each of which other processes may run. -/
inductive Ask where
  | isThere (path : String)
  | create (path : String)
  | write (file : Nat) (bytes : List UInt8)
  | sync (file : Nat)
  | close (file : Nat)
  | link (existing path : String)
  | syncDirectory (path : String)
  | unlink (path : String)

/-- Whether it fails; a write that does may have written a part. -/
@[reducible] def Ask.Answer : Ask → Type
  | .write .. => Option (List UInt8)
  | _ => Unit

/-- A file of the call's gets a directory entry. -/
inductive Deed where
  | placed (location : String) (file : Nat)

abbrev Code (α : Type) : Type := Async Disk Deed Ask Ask.Answer Thrown α

def ask (q : Ask) : Code q.Answer := Async.await q

section

variable [Platform]

/-- `existsSync`. -/
def existsSync (path : String) : Code Bool := do
  ask (.isThere path)
  let d ← Async.get
  pure (d.entries (locate path)).isSome

/-- `openSync(path, "wx", 0o600)`: the new file. -/
def openSync (path : String) : Code Nat := do
  ask (.create path)
  let d ← Async.get
  if (d.entries (locate path)).isSome then .throw (.failed "EEXIST")
  else do
    Async.doing (·.create (locate path) { bytes := [], synced := false, ours := true })
      [.placed (locate path) d.files.length]
    pure d.files.length

/-- `writeFileSync`. -/
def writeFileSync (file : Nat) (bytes : List UInt8) : Code Unit := do
  let short ← ask (.write file bytes)
  Async.modify (·.change file fun f => { f with bytes := short.getD bytes, synced := false })
  if short.isSome then .throw (.failed "write") else pure ()

/-- `fsyncSync`. -/
def fsyncSync (file : Nat) : Code Unit := do
  ask (.sync file)
  Async.modify (·.change file fun f => { f with synced := true })

/-- `closeSync`. -/
def closeSync (file : Nat) : Code Unit := ask (.close file)

/-- `linkSync`. -/
def linkSync (existing path : String) : Code Unit := do
  ask (.link existing path)
  let d ← Async.get
  match d.entries (locate existing), d.entries (locate path) with
  | none, _ => .throw (.failed "ENOENT")
  | some _, some _ => .throw (.failed "EEXIST")
  | some file, none => Async.doing (·.link (locate path) file) [.placed (locate path) file]

/-- `syncDirectory`. -/
def syncDirectory (path : String) : Code Unit := ask (.syncDirectory path)

/-- `unlinkSync`. -/
def unlinkSync (path : String) : Code Unit := do
  ask (.unlink path)
  let d ← Async.get
  if (d.entries (locate path)).isSome then Async.modify (·.unlink (locate path))
  else .throw (.failed "ENOENT")

/-- A temporary file with the bytes, on disk. -/
def writeTemporary (temporary : String) (bytes : List UInt8) : Code Unit := do
  let fd ← openSync temporary
  (do
    writeFileSync fd bytes
    fsyncSync fd).always (closeSync fd)

/-- The temporary path beside a final one, for what `randomUUID()` gives. -/
def temporaryOf (path nonce : String) : String :=
  join (dirname path) ("." ++ basename path ++ "." ++ nonce ++ ".tmp")

/-- `writePrivateFileExclusive`. -/
def writePrivateFileExclusive (nonce path : String) (bytes : List UInt8) : Code Unit :=
  let finalPath := resolve path
  let parent := dirname finalPath
  let temporary := temporaryOf finalPath nonce
  (do
    writeTemporary temporary bytes
    linkSync temporary finalPath
    -- Published: from here a failure takes the file back.
    (syncDirectory parent).orElse fun error => do
      unlinkSync finalPath
      syncDirectory parent
      .throw error).always do
    if (← existsSync temporary) then unlinkSync temporary

/-- The directories of some paths, each once. -/
def parentsOf (paths : List String) : List String := (paths.map dirname).eraseDups

/-- `syncDirectory` of each, the first failure ending them. -/
def syncAll : List String → Code Unit
  | [] => pure ()
  | parent :: rest => do
    syncDirectory parent
    syncAll rest

/-- `syncDirectory` of each, whatever fails. -/
def trySyncAll : List String → Code Unit
  | [] => pure ()
  | parent :: rest => do
    let _ ← (syncDirectory parent).attempt
    trySyncAll rest

/-- `unlinkSync` of each, whatever fails. -/
def tryUnlinkAll : List String → Code Unit
  | [] => pure ()
  | path :: rest => do
    let _ ← (unlinkSync path).attempt
    tryUnlinkAll rest

/-- The `catch` of `writeBackupCopies`. -/
def rollBack (createdFinals : List String) (error : Thrown) : Code Unit := do
  tryUnlinkAll createdFinals
  trySyncAll (parentsOf createdFinals)
  .throw error

/-- The `try` of `writeBackupCopies`: each step knows the final paths created before it. -/
def publishCopies (bytes : List UInt8) (first second firstTmp secondTmp : String) : Code Unit :=
  Async.orElse (do
    writeTemporary firstTmp bytes
    writeTemporary secondTmp bytes
    linkSync firstTmp first) (rollBack []) |>.bind fun _ =>
  Async.orElse (linkSync secondTmp second) (rollBack [first]) |>.bind fun _ =>
  Async.orElse (syncAll (parentsOf [first, second])) (rollBack [first, second])

/-- `writeBackupCopies`. -/
def writeBackupCopies (nonce : String) (bytes : List UInt8) (firstPath secondPath : String) :
    Code Unit := do
  let first := resolve firstPath
  let second := resolve secondPath
  if first = second then .throw (.error "backup paths must identify two different files")
  else if (← existsSync first) then
    .throw (.error "backup refuses to overwrite an existing copy")
  else if (← existsSync second) then
    .throw (.error "backup refuses to overwrite an existing copy")
  else
    (publishCopies bytes first second (temporaryOf first nonce) (temporaryOf second nonce)).always
      (tryUnlinkAll [temporaryOf first nonce, temporaryOf second nonce])

end

/-! ## What the call and the others do to the disk -/

/-- Entries name files. -/
def Disk.Wf (d : Disk) : Prop := ∀ p i, d.entries p = some i → i < d.files.length

/-- The file holds all the bytes, whatever crashes. -/
def Disk.Complete (d : Disk) (bytes : List UInt8) (i : Nat) : Prop :=
  d.files[i]? = some { bytes := bytes, synced := true, ours := true }

/-- A file of the call's that is not on disk yet. -/
def Disk.Draft (d : Disk) (bytes : List UInt8) (i : Nat) : Prop :=
  d.files[i]? = some { bytes := bytes, synced := false, ours := true }

/-- A file the call did not make stays where it is as it is, and no file of the call's that is
synced changes. -/
structure Keeps (d d' : Disk) : Prop where
  files : ∀ (i : Nat) (f : File), d.files[i]? = some f → (f.ours = true → f.synced = true) →
    d'.files[i]? = some f
  entries : ∀ (p : String) (i : Nat) (f : File), d.entries p = some i → d.files[i]? = some f →
    f.ours = false → d'.entries p = some i

theorem Keeps.refl (d : Disk) : Keeps d d where
  files _ _ here _ := here
  entries _ _ _ at_p _ _ := at_p

theorem Keeps.trans {d d' d'' : Disk} (h : Keeps d d') (h' : Keeps d' d'') : Keeps d d'' where
  files i f here fixed := h'.files i f (h.files i f here fixed) fixed
  entries p i f at_p here theirs :=
    h'.entries p i f (h.entries p i f at_p here theirs)
      (h.files i f here fun ours => by rw [theirs] at ours; cases ours) theirs

theorem Keeps.complete {d d' : Disk} {bytes : List UInt8} {i : Nat} (h : Keeps d d')
    (complete : d.Complete bytes i) : d'.Complete bytes i :=
  h.files i _ complete fun _ => rfl

/-- What other processes do meanwhile: they create files, but none at a temporary path. -/
inductive Others (temps : List String) : Disk → Disk → Prop where
  | none (d : Disk) : Others temps d d
  | create {d d' : Disk} (before : Others temps d d') {p : String} {file : File}
      (elsewhere : p ∉ temps) (absent : d'.entries p = none) (theirs : file.ours = false) :
      Others temps d (d'.create p file)

/-- The call's own entries are exactly these, and the temporary paths among the rest are free. -/
structure Stage (temps : List String) (own : List (String × Nat)) (d : Disk) : Prop where
  wf : d.Wf
  here : ∀ e ∈ own, d.entries e.1 = some e.2 ∧ ∃ f, d.files[e.2]? = some f ∧ f.ours = true
  mine : ∀ (p : String) (i : Nat) (f : File), d.entries p = some i → d.files[i]? = some f →
    f.ours = true → (p, i) ∈ own
  free : ∀ t ∈ temps, t ∉ own.map (·.1) → d.entries t = none

/-- Besides these entries the call has at most temporary ones. -/
def Left (temps : List String) (own : List (String × Nat)) (d : Disk) : Prop :=
  ∃ now, Stage temps now d ∧ ∀ e ∈ now, e ∈ own ∨ e.1 ∈ temps

theorem Stage.left {temps : List String} {own : List (String × Nat)} {d : Disk}
    (stage : Stage temps own d) : Left temps own d := ⟨own, stage, fun _ => .inl⟩

/-- What `writeTemporary` comes to. -/
def Written (temps : List String) (own : List (String × Nat)) (p : String) (bytes : List UInt8)
    (r : Except Thrown Unit) (d : Disk) : Prop :=
  match r with
  | .ok _ => ∃ i, Stage temps ((p, i) :: own) d ∧ d.Complete bytes i
  | .error _ => Left temps own d

theorem create_files {d : Disk} {p : String} {file f : File} {i : Nat}
    (here : d.files[i]? = some f) : (d.create p file).files[i]? = some f := by
  have inside := (List.getElem?_eq_some_iff.mp here).1
  exact (List.getElem?_append_left inside).trans here

theorem create_entries {d : Disk} {p q : String} {file : File} {i : Nat}
    (absent : d.entries p = none) (at_q : d.entries q = some i) :
    (d.create p file).entries q = some i := by
  have other : q ≠ p := by
    rintro rfl
    rw [absent] at at_q
    cases at_q
  exact (if_neg other).trans at_q

theorem create_keeps {d : Disk} {p : String} {file : File} (absent : d.entries p = none) :
    Keeps d (d.create p file) where
  files _ _ here _ := create_files here
  entries _ _ _ at_p _ _ := create_entries absent at_p

theorem create_wf {d : Disk} {p : String} {file : File} (wf : d.Wf) : (d.create p file).Wf := by
  intro q i at_q
  change i < (d.files ++ [file]).length
  rw [List.length_append, List.length_singleton]
  change (if q = p then some d.files.length else d.entries q) = some i at at_q
  split at at_q
  · cases at_q
    omega
  · have := wf q i at_q
    omega

/-- What a new entry names is the new file, and any other entry what it did. -/
theorem create_at {d : Disk} {p q : String} {file f : File} {i : Nat} (wf : d.Wf)
    (at_q : (d.create p file).entries q = some i) (here : (d.create p file).files[i]? = some f) :
    (q = p ∧ i = d.files.length ∧ f = file) ∨ (d.entries q = some i ∧ d.files[i]? = some f) := by
  change (if q = p then some d.files.length else d.entries q) = some i at at_q
  change (d.files ++ [file])[i]? = some f at here
  split at at_q
  · next same =>
    cases at_q
    rw [List.getElem?_concat_length] at here
    exact .inl ⟨same, rfl, (Option.some.inj here).symm⟩
  · rw [List.getElem?_append_left (wf q i at_q)] at here
    exact .inr ⟨at_q, here⟩

theorem Others.keeps {temps : List String} {d d' : Disk} (others : Others temps d d') :
    Keeps d d' := by
  induction others with
  | none => exact .refl _
  | create before elsewhere absent theirs ih => exact ih.trans (create_keeps absent)

theorem Others.stage {temps : List String} {own : List (String × Nat)} {d d' : Disk}
    (others : Others temps d d') (stage : Stage temps own d) : Stage temps own d' := by
  induction others with
  | none => exact stage
  | @create d' before p file elsewhere absent theirs held =>
    refine ⟨create_wf held.wf, ?_, ?_, ?_⟩
    · intro e mem
      obtain ⟨at_e, f, here, ours⟩ := held.here e mem
      exact ⟨create_entries absent at_e, f, create_files here, ours⟩
    · intro q i f at_q here ours
      rcases create_at held.wf at_q here with ⟨-, -, rfl⟩ | ⟨at_q, here⟩
      · rw [theirs] at ours
        cases ours
      · exact held.mine q i f at_q here ours
    · intro t mem free
      have other : t ≠ p := fun same => elsewhere (same ▸ mem)
      exact (if_neg other).trans (held.free t mem free)

theorem Others.file {temps : List String} {d d' : Disk} (others : Others temps d d') {i : Nat}
    {f : File} (here : d.files[i]? = some f) : d'.files[i]? = some f := by
  induction others with
  | none => exact here
  | create before elsewhere absent theirs ih => exact create_files ih

theorem change_files {d : Disk} {i j : Nat} {change : File → File} :
    (d.change i change).files[j]? = if i = j then d.files[j]?.map change else d.files[j]? := by
  change (d.files.modify i change)[j]? = _
  rw [List.getElem?_modify]
  split <;> simp

theorem change_at {d : Disk} {i : Nat} {change : File → File} {f : File}
    (here : d.files[i]? = some f) : (d.change i change).files[i]? = some (change f) := by
  rw [change_files, if_pos rfl, here]
  rfl

/-- A file of the call's that is not synced can be written to. -/
theorem change_keeps {d : Disk} {i : Nat} {change : File → File} {f : File}
    (here : d.files[i]? = some f) (ours : f.ours = true) (open_ : f.synced = false) :
    Keeps d (d.change i change) where
  files j g at_j fixed := by
    rw [change_files, if_neg]
    · exact at_j
    · rintro rfl
      rw [here] at at_j
      cases at_j
      rw [fixed ours] at open_
      cases open_
  entries _ _ _ at_p _ _ := at_p

theorem Stage.changed {temps : List String} {own : List (String × Nat)} {d : Disk} {i : Nat}
    {change : File → File} (stage : Stage temps own d) (same : ∀ f, (change f).ours = f.ours) :
    Stage temps own (d.change i change) where
  wf p j at_p := by
    change j < (d.files.modify i change).length
    rw [List.length_modify]
    exact stage.wf p j at_p
  here e mem := by
    obtain ⟨at_e, f, here, ours⟩ := stage.here e mem
    refine ⟨at_e, ?_⟩
    rw [change_files, here]
    split
    · exact ⟨change f, rfl, (same f).trans ours⟩
    · exact ⟨f, rfl, ours⟩
  mine p j f at_p here ours := by
    rw [change_files] at here
    split at here
    · obtain ⟨g, at_j, rfl⟩ := Option.map_eq_some_iff.mp here
      exact stage.mine p j g at_p at_j ((same g).symm.trans ours)
    · exact stage.mine p j f at_p here ours
  free := stage.free

/-- A second entry for a file of the call's. -/
theorem Stage.linked {temps : List String} {own : List (String × Nat)} {d : Disk} {p : String}
    {i : Nat} {f : File} (stage : Stage temps own d) (here : d.files[i]? = some f)
    (ours : f.ours = true) (absent : d.entries p = none) :
    Stage temps ((p, i) :: own) (d.link p i) where
  wf q j at_q := by
    change (if q = p then some i else d.entries q) = some j at at_q
    split at at_q
    · cases at_q
      exact (List.getElem?_eq_some_iff.mp here).1
    · exact stage.wf q j at_q
  here e mem := by
    rcases List.mem_cons.mp mem with rfl | mem
    · exact ⟨if_pos rfl, f, here, ours⟩
    · obtain ⟨at_e, kept⟩ := stage.here e mem
      refine ⟨(if_neg ?_).trans at_e, kept⟩
      rintro rfl
      rw [absent] at at_e
      cases at_e
  mine q j g at_q here ours := by
    change (if q = p then some i else d.entries q) = some j at at_q
    split at at_q
    · next same =>
      cases at_q
      rw [same]
      exact List.mem_cons_self
    · exact List.mem_cons_of_mem _ (stage.mine q j g at_q here ours)
  free t mem other := by
    simp only [List.map_cons, List.mem_cons, not_or] at other
    exact (if_neg other.1).trans (stage.free t mem other.2)

theorem link_keeps {d : Disk} {p : String} {i : Nat} (absent : d.entries p = none) :
    Keeps d (d.link p i) where
  files _ _ here _ := here
  entries q _ _ at_q _ _ := by
    refine (if_neg ?_).trans at_q
    rintro rfl
    rw [absent] at at_q
    cases at_q

/-- An entry of the call's is taken back. -/
theorem Stage.unlinked {temps : List String} {own : List (String × Nat)} {d : Disk}
    (stage : Stage temps own d) (p : String) :
    Stage temps (own.filter (·.1 ≠ p)) (d.unlink p) where
  wf q j at_q := by
    change (if q = p then none else d.entries q) = some j at at_q
    split at at_q
    · cases at_q
    · exact stage.wf q j at_q
  here e mem := by
    obtain ⟨mem, other⟩ := List.mem_filter.mp mem
    obtain ⟨at_e, kept⟩ := stage.here e mem
    exact ⟨(if_neg (of_decide_eq_true other)).trans at_e, kept⟩
  mine q j g at_q here ours := by
    change (if q = p then none else d.entries q) = some j at at_q
    split at at_q
    · cases at_q
    · next other =>
      exact List.mem_filter.mpr ⟨stage.mine q j g at_q here ours, decide_eq_true other⟩
  free t mem other := by
    by_cases same : t = p
    · exact if_pos same
    · refine (if_neg same).trans (stage.free t mem fun old => other ?_)
      obtain ⟨e, listed, rfl⟩ := List.mem_map.mp old
      exact List.mem_map_of_mem (List.mem_filter.mpr ⟨listed, decide_eq_true same⟩)

theorem Stage.unlink_keeps {temps : List String} {own : List (String × Nat)} {d : Disk}
    {p : String} (stage : Stage temps own d) (mine : p ∈ own.map (·.1)) :
    Keeps d (d.unlink p) where
  files _ _ here _ := here
  entries q i f at_q here theirs := by
    refine (if_neg ?_).trans at_q
    rintro rfl
    obtain ⟨e, mem, rfl⟩ := List.mem_map.mp mine
    obtain ⟨at_e, g, at_g, ours⟩ := stage.here e mem
    rw [at_q, Option.some.injEq] at at_e
    rw [at_e, at_g, Option.some.injEq] at here
    rw [here, theirs] at ours
    cases ours

theorem Stage.created {temps : List String} {own : List (String × Nat)} {d : Disk} {p : String}
    {file : File} (stage : Stage temps own d) (absent : d.entries p = none)
    (ours : file.ours = true) :
    Stage temps ((p, d.files.length) :: own) (d.create p file) where
  wf := create_wf stage.wf
  here e mem := by
    rcases List.mem_cons.mp mem with rfl | mem
    · exact ⟨if_pos rfl, file, List.getElem?_concat_length, ours⟩
    · obtain ⟨at_e, f, here, ours⟩ := stage.here e mem
      exact ⟨create_entries absent at_e, f, create_files here, ours⟩
  mine q i f at_q here ours := by
    rcases create_at stage.wf at_q here with ⟨rfl, rfl, -⟩ | ⟨at_q, here⟩
    · exact List.mem_cons_self
    · exact List.mem_cons_of_mem _ (stage.mine q i f at_q here ours)
  free t mem other := by
    simp only [List.map_cons, List.mem_cons, not_or] at other
    exact (if_neg other.1).trans (stage.free t mem other.2)

/-! ## Each operation -/

/-- The call's steps, while others create files: what was there stays, and a file that gets an
entry at another than a temporary path is complete. -/
def atWork (W : Type) (temps : List String) (bytes : List UInt8) :
    Discipline W Disk Deed Ask Ask.Answer Thrown where
  rely _ sc sc' := sc'.trace = sc.trace ∧ Others temps sc.shared sc'.shared
  guar _ sc sc' := Keeps sc.shared sc'.shared ∧ ∃ later, sc'.trace = sc.trace ++ later ∧
    ∀ k p i, .did k (.placed p i) ∈ later → p ∉ temps → sc'.shared.Complete bytes i
  -- Only a clean-up unlink, and the test before one, cannot fail.
  ready _ _ q a := (∃ p, q = .unlink p ∨ q = .isThere p) → ∀ x, a ≠ .error x
  admits _ := True

section

variable {W : Type} {temps : List String} {bytes : List UInt8} {k : Nat}
  {own : List (String × Nat)} {sc : Scene W Disk Deed Ask Ask.Answer Thrown}

/-- The call waits, and then goes on or fails. -/
theorem safe_ask {q : Ask} (stage : Stage temps own sc.shared) :
    Safe (atWork W temps bytes) k (ask q) (fun r sc' => Stage temps own sc'.shared ∧
      Others temps sc.shared sc'.shared ∧
      ((∃ p, q = .unlink p ∨ q = .isThere p) → ∀ x, r ≠ .error x)) sc :=
  .await fun _ relied _ ready _ => ⟨relied.2.stage stage, relied.2, ready⟩

theorem safe_get : Safe (atWork W temps bytes) k .get
    (fun r sc' => r = .ok sc.shared ∧ sc' = sc) sc := by
  refine .get ⟨.refl _, [], by simp, by simp⟩ ?_
  exact ⟨rfl, Scene.did_nothing _ _⟩

/-- A change that keeps what is there and places nothing. -/
theorem safe_modify {change : Disk → Disk} (keeps : Keeps sc.shared (change sc.shared)) :
    Safe (atWork W temps bytes) k (.modify change)
      (fun r sc' => r = .ok () ∧ sc'.shared = change sc.shared) sc :=
  .doing fun _ => ⟨⟨keeps, [], by simp, by simp⟩, rfl, rfl⟩

variable [Platform]

theorem safe_exists {path : String} (stage : Stage temps own sc.shared) :
    Safe (atWork W temps bytes) k (existsSync path) (fun r sc' => Keeps sc.shared sc'.shared ∧
      Stage temps own sc'.shared ∧ r = .ok (sc'.shared.entries (locate path)).isSome) sc := by
  refine .bind ((safe_ask stage).mono ?_)
  rintro (x | ⟨⟩) sc' ⟨stage, others, never⟩
  · exact absurd rfl (never ⟨_, .inr rfl⟩ x)
  refine .bind (safe_get.mono ?_)
  rintro _ sc' ⟨rfl, rfl⟩
  exact ⟨others.keeps, stage, rfl⟩

/-- `openSync` makes an empty file, or fails. -/
theorem safe_open {path : String} (stage : Stage temps own sc.shared)
    (temporary : locate path ∈ temps) :
    Safe (atWork W temps bytes) k (openSync path) (fun r sc' => Keeps sc.shared sc'.shared ∧
      match r with
      | .ok i => Stage temps ((locate path, i) :: own) sc'.shared ∧ sc'.shared.Draft [] i
      | .error _ => Stage temps own sc'.shared) sc := by
  refine .bind ((safe_ask stage).mono ?_)
  rintro (x | ⟨⟩) sc' ⟨stage, others, -⟩
  · exact ⟨others.keeps, stage⟩
  refine .bind (safe_get.mono ?_)
  rintro _ sc' ⟨rfl, rfl⟩
  simp only
  split
  · exact ⟨others.keeps, stage⟩
  · next vacant =>
    have absent : sc'.shared.entries (locate path) = none := by
      simpa using vacant
    refine .bind (.doing fun _ => ⟨⟨create_keeps absent, _, rfl, ?_⟩, ?_⟩)
    · intro j p i mem elsewhere
      cases List.mem_singleton.mp mem
      exact absurd temporary elsewhere
    · exact ⟨others.keeps.trans (create_keeps absent), stage.created absent rfl,
        List.getElem?_concat_length⟩

omit [Platform] in
theorem safe_write {i : Nat} {before content : List UInt8} (stage : Stage temps own sc.shared)
    (draft : sc.shared.Draft before i) :
    Safe (atWork W temps bytes) k (writeFileSync i content) (fun r sc' =>
      Keeps sc.shared sc'.shared ∧ Stage temps own sc'.shared ∧
        (r = .ok () → sc'.shared.Draft content i)) sc := by
  refine .bind ((safe_ask stage).mono ?_)
  rintro (x | short) sc' ⟨stage, others, -⟩
  · exact ⟨others.keeps, stage, nofun⟩
  have draft := others.file draft
  have keeps : Keeps sc'.shared (sc'.shared.change i fun f =>
      { f with bytes := short.getD content, synced := false }) := change_keeps draft rfl rfl
  refine .bind ((safe_modify keeps).mono ?_)
  rintro _ sc'' ⟨rfl, same⟩
  have written : sc''.shared.Draft (short.getD content) i := by
    rw [same]
    exact change_at draft
  have staged : Stage temps own sc''.shared := by
    rw [same]
    exact stage.changed fun _ => rfl
  have kept : Keeps sc.shared sc''.shared := by
    rw [same]
    exact others.keeps.trans keeps
  cases short with
  | none => exact ⟨kept, staged, fun _ => written⟩
  | some part => exact ⟨kept, staged, nofun⟩

omit [Platform] in
theorem safe_fsync {i : Nat} {content : List UInt8} (stage : Stage temps own sc.shared)
    (draft : sc.shared.Draft content i) :
    Safe (atWork W temps bytes) k (fsyncSync i) (fun r sc' => Keeps sc.shared sc'.shared ∧
      Stage temps own sc'.shared ∧ (r = .ok () → sc'.shared.Complete content i)) sc := by
  refine .bind ((safe_ask stage).mono ?_)
  rintro (x | ⟨⟩) sc' ⟨stage, others, -⟩
  · exact ⟨others.keeps, stage, nofun⟩
  have draft := others.file draft
  have keeps : Keeps sc'.shared (sc'.shared.change i fun f => { f with synced := true }) :=
    change_keeps draft rfl rfl
  refine (safe_modify keeps).mono ?_
  rintro _ sc'' ⟨rfl, same⟩
  rw [same]
  exact ⟨others.keeps.trans keeps, stage.changed fun _ => rfl, fun _ => change_at draft⟩

/-- `writeTemporary` leaves a complete file, or at most a part of one. -/
theorem safe_temporary {path : String} (stage : Stage temps own sc.shared)
    (temporary : locate path ∈ temps) :
    Safe (atWork W temps bytes) k (writeTemporary path bytes) (fun r sc' =>
      Keeps sc.shared sc'.shared ∧ Written temps own (locate path) bytes r sc'.shared) sc := by
  refine .bind ((safe_open stage temporary).mono ?_)
  rintro (x | i) sc₁ ⟨kept, opened⟩
  · exact ⟨kept, opened.left⟩
  obtain ⟨stage, draft⟩ := opened
  have left {sc' : Scene W Disk Deed Ask Ask.Answer Thrown}
      (stage : Stage temps ((locate path, i) :: own) sc'.shared) : Left temps own sc'.shared := by
    refine ⟨_, stage, fun e mem => ?_⟩
    rcases List.mem_cons.mp mem with rfl | mem
    · exact .inr temporary
    · exact .inl mem
  -- What the writes leave behind, the close keeps.
  have closes (sc' : Scene W Disk Deed Ask Ask.Answer Thrown) (r : Except Thrown Unit)
      (kept : Keeps sc.shared sc'.shared)
      (stage : Stage temps ((locate path, i) :: own) sc'.shared)
      (whole : r = .ok () → sc'.shared.Complete bytes i) :
      Safe (atWork W temps bytes) k (closeSync i) (fun c sc'' => match c with
        | .ok _ => Keeps sc.shared sc''.shared ∧
          Written temps own (locate path) bytes r sc''.shared
        | .error x => Keeps sc.shared sc''.shared ∧
          Written temps own (locate path) bytes (.error x) sc''.shared) sc' := by
    refine (safe_ask stage).mono ?_
    rintro (x | ⟨⟩) sc'' ⟨stage, others, -⟩
    · exact ⟨kept.trans others.keeps, left stage⟩
    refine ⟨kept.trans others.keeps, ?_⟩
    cases r with
    | error x => exact left stage
    | ok _ => exact ⟨i, stage, others.file (whole rfl)⟩
  refine .always (.bind ((safe_write stage draft).mono ?_))
  rintro (x | ⟨⟩) sc₂ ⟨kept₂, stage, written⟩
  · refine (closes sc₂ (.error x) (kept.trans kept₂) stage nofun).mono ?_
    intro c _ h
    cases c <;> exact h
  · refine (safe_fsync stage (written rfl)).mono ?_
    rintro r sc₃ ⟨kept₃, stage, synced⟩
    refine (closes sc₃ r ((kept.trans kept₂).trans kept₃) stage synced).mono ?_
    intro c _ h
    cases c <;> exact h

/-- `linkSync` publishes a complete file, or fails. -/
theorem safe_link {existing path : String} {i : Nat} (stage : Stage temps own sc.shared)
    (mine : (locate existing, i) ∈ own) (whole : sc.shared.Complete bytes i) :
    Safe (atWork W temps bytes) k (linkSync existing path) (fun r sc' =>
      Keeps sc.shared sc'.shared ∧ match r with
      | .ok _ => Stage temps ((locate path, i) :: own) sc'.shared ∧ locate path ∉ own.map (·.1)
      | .error _ => Stage temps own sc'.shared) sc := by
  refine .bind ((safe_ask stage).mono ?_)
  rintro (x | ⟨⟩) sc' ⟨stage, others, -⟩
  · exact ⟨others.keeps, stage⟩
  refine .bind (safe_get.mono ?_)
  rintro _ sc' ⟨rfl, rfl⟩
  have here := (stage.here _ mine).1
  simp only at here
  simp only [here]
  cases absent : sc'.shared.entries (locate path) with
  | some j => exact ⟨others.keeps, stage⟩
  | none =>
    have whole := others.file whole
    refine .doing fun _ => ⟨⟨link_keeps absent, _, rfl, ?_⟩, ?_⟩
    · intro j p m mem _
      cases List.mem_singleton.mp mem
      exact whole
    · refine ⟨others.keeps.trans (link_keeps absent), stage.linked whole rfl absent, ?_⟩
      intro mem
      obtain ⟨e, mem, same⟩ := List.mem_map.mp mem
      have at_e := (stage.here e mem).1
      rw [same, absent] at at_e
      cases at_e

omit [Platform] in
theorem filter_unlisted {p : String} (unlisted : p ∉ own.map (·.1)) :
    own.filter (·.1 ≠ p) = own := by
  refine List.filter_eq_self.mpr fun e mem => decide_eq_true fun same => unlisted ?_
  rw [← same]
  exact List.mem_map_of_mem mem

/-- `unlinkSync` of what the call put there. -/
theorem safe_unlink {path : String} (stage : Stage temps own sc.shared)
    (mine : locate path ∈ temps ∨ locate path ∈ own.map (·.1)) :
    Safe (atWork W temps bytes) k (unlinkSync path) (fun r sc' => Keeps sc.shared sc'.shared ∧
      Stage temps (own.filter (·.1 ≠ locate path)) sc'.shared ∧
        (locate path ∈ own.map (·.1) → r = .ok ())) sc := by
  refine .bind ((safe_ask stage).mono ?_)
  rintro (x | ⟨⟩) sc' ⟨stage, others, never⟩
  · exact absurd rfl (never ⟨path, .inl rfl⟩ x)
  refine .bind (safe_get.mono ?_)
  rintro _ sc' ⟨rfl, rfl⟩
  by_cases listed : locate path ∈ own.map (·.1)
  · obtain ⟨e, mem, same⟩ := List.mem_map.mp listed
    have here := (stage.here e mem).1
    rw [same] at here
    simp only [here, Option.isSome_some, if_true]
    have keeps := stage.unlink_keeps listed
    refine (safe_modify keeps).mono ?_
    rintro _ sc'' ⟨rfl, same⟩
    rw [same]
    exact ⟨others.keeps.trans keeps, stage.unlinked _, fun _ => rfl⟩
  · have absent := stage.free _ (mine.resolve_right listed) listed
    rw [filter_unlisted listed]
    simp only [absent, Option.isSome_none, Bool.false_eq_true, if_false]
    exact ⟨others.keeps, stage, fun mem => absurd mem listed⟩

/-! ## Loops -/

/-- The call may remove these one after another. -/
def Removable (temps : List String) : List (String × Nat) → List String → Prop
  | _, [] => True
  | own, path :: rest => (locate path ∈ temps ∨ locate path ∈ own.map (·.1)) ∧
    Removable temps (own.filter (·.1 ≠ locate path)) rest

theorem removable_temps {paths : List String} (all : ∀ path ∈ paths, locate path ∈ temps) :
    Removable temps own paths := by
  induction paths generalizing own with
  | nil => trivial
  | cons path rest ih =>
    exact ⟨.inl (all path List.mem_cons_self), ih fun p mem => all p (List.mem_cons_of_mem _ mem)⟩

theorem safe_tryUnlinkAll {paths : List String} (stage : Stage temps own sc.shared)
    (mine : Removable temps own paths) :
    Safe (atWork W temps bytes) k (tryUnlinkAll paths) (fun r sc' =>
      Keeps sc.shared sc'.shared ∧ r = .ok () ∧
        Stage temps (own.filter (·.1 ∉ paths.map locate)) sc'.shared) sc := by
  induction paths generalizing own sc with
  | nil =>
    refine ⟨.refl _, rfl, ?_⟩
    simpa using stage
  | cons path rest ih =>
    refine .bind (.attempt ((safe_unlink stage mine.1).mono ?_))
    rintro r sc' ⟨kept, stage, -⟩
    refine (ih stage mine.2).mono ?_
    rintro r sc'' ⟨kept', done, stage⟩
    refine ⟨kept.trans kept', done, ?_⟩
    rw [List.filter_filter] at stage
    refine cast (congrArg (Stage temps · sc''.shared) (List.filter_congr fun e _ => ?_)) stage
    simp [Bool.and_comm]

omit [Platform] in
theorem safe_trySyncAll {paths : List String} (stage : Stage temps own sc.shared) :
    Safe (atWork W temps bytes) k (trySyncAll paths) (fun r sc' =>
      Keeps sc.shared sc'.shared ∧ r = .ok () ∧ Stage temps own sc'.shared) sc := by
  induction paths generalizing sc with
  | nil => exact ⟨.refl _, rfl, stage⟩
  | cons path rest ih =>
    refine .bind (.attempt ((safe_ask stage).mono ?_))
    rintro r sc' ⟨stage, others, -⟩
    refine (ih stage).mono ?_
    rintro r sc'' ⟨kept, done⟩
    exact ⟨others.keeps.trans kept, done⟩

omit [Platform] in
theorem safe_syncAll {paths : List String} (stage : Stage temps own sc.shared) :
    Safe (atWork W temps bytes) k (syncAll paths) (fun _ sc' =>
      Keeps sc.shared sc'.shared ∧ Stage temps own sc'.shared) sc := by
  induction paths generalizing sc with
  | nil => exact ⟨.refl _, stage⟩
  | cons path rest ih =>
    refine .bind ((safe_ask stage).mono ?_)
    rintro (x | ⟨⟩) sc' ⟨stage, others, -⟩
    · exact ⟨others.keeps, stage⟩
    refine (ih stage).mono ?_
    rintro r sc'' ⟨kept, stage⟩
    exact ⟨others.keeps.trans kept, stage⟩

/-- The `catch` of `writeBackupCopies` leaves temporary files only. -/
theorem safe_rollBack {finals : List String} {error : Thrown} (stage : Stage temps own sc.shared)
    (mine : Removable temps own finals)
    (all : ∀ e ∈ own, e.1 ∈ finals.map locate ∨ e.1 ∈ temps) :
    Safe (atWork W temps bytes) k (rollBack finals error) (fun r sc' =>
      Keeps sc.shared sc'.shared ∧ r = .error error ∧ Left temps [] sc'.shared) sc := by
  refine .bind ((safe_tryUnlinkAll stage mine).mono ?_)
  rintro _ sc' ⟨kept, rfl, stage⟩
  refine .bind ((safe_trySyncAll stage).mono ?_)
  rintro _ sc'' ⟨kept', rfl, stage⟩
  refine ⟨kept.trans kept', rfl, _, stage, fun e mem => .inr ?_⟩
  obtain ⟨mem, other⟩ := List.mem_filter.mp mem
  exact (all e mem).resolve_left (of_decide_eq_true other)

/-! ## The two functions -/

omit [Platform] in
theorem Left.of {now : List (String × Nat)} {d : Disk} (stage : Stage temps now d)
    (all : ∀ e ∈ now, e.1 ∈ temps) : Left temps [] d :=
  ⟨now, stage, fun e mem => .inr (all e mem)⟩

/-- Both functions, before the temporary files go. -/
def Published (temps finals : List String) (bytes : List UInt8) (r : Except Thrown Unit)
    (d : Disk) : Prop :=
  match r with
  | .ok _ => ∃ own, Stage temps own d ∧ ∀ p ∈ finals, ∃ i, (p, i) ∈ own ∧ d.Complete bytes i
  | .error _ => Left temps [] d

/-- Both functions: every final path names the complete content, or the call has no entry. -/
def Settled (finals : List String) (bytes : List UInt8) (r : Except Thrown Unit) (d : Disk) :
    Prop :=
  match r with
  | .ok _ => ∀ p ∈ finals, ∃ i, d.entries p = some i ∧ d.Complete bytes i
  | .error _ => ∀ p i f, d.entries p = some i → d.files[i]? = some f → f.ours = false

omit [Platform] in
/-- The clean-up takes back the temporary files, which no final path is. -/
theorem Published.settled {finals : List String} {cleanup : Code Unit} {r : Except Thrown Unit}
    (apart : ∀ p ∈ finals, p ∉ temps)
    (removes : ∀ own, Stage temps own sc.shared → Safe (atWork W temps bytes) k cleanup
      (fun c sc' => Keeps sc.shared sc'.shared ∧ c = .ok () ∧
        Stage temps (own.filter (·.1 ∉ temps)) sc'.shared) sc)
    (published : Published temps finals bytes r sc.shared) :
    Safe (atWork W temps bytes) k cleanup (fun c sc' => Keeps sc.shared sc'.shared ∧ c = .ok () ∧
      Settled finals bytes r sc'.shared) sc := by
  cases r with
  | ok _ =>
    obtain ⟨own, stage, each⟩ := published
    refine (removes own stage).mono ?_
    rintro c sc' ⟨kept, done, stage⟩
    refine ⟨kept, done, fun p mem => ?_⟩
    obtain ⟨i, listed, whole⟩ := each p mem
    have still : (p, i) ∈ own.filter (·.1 ∉ temps) :=
      List.mem_filter.mpr ⟨listed, decide_eq_true (apart p mem)⟩
    exact ⟨i, (stage.here _ still).1, kept.complete whole⟩
  | error x =>
    obtain ⟨own, stage, all⟩ := published
    refine (removes own stage).mono ?_
    rintro c sc' ⟨kept, done, stage⟩
    refine ⟨kept, done, fun p i f at_p here => ?_⟩
    by_contra ours
    have mem := stage.mine p i f at_p here (eq_true_of_ne_false ours)
    obtain ⟨mem, other⟩ := List.mem_filter.mp mem
    rcases all _ mem with none | temporary
    · cases none
    · exact of_decide_eq_true other temporary

omit [Platform] in
theorem safe_always {finals : List String} {code cleanup : Code Unit}
    (apart : ∀ p ∈ finals, p ∉ temps)
    (removes : ∀ (sc : Scene W Disk Deed Ask Ask.Answer Thrown) (own : List (String × Nat)),
      Stage temps own sc.shared → Safe (atWork W temps bytes) k cleanup
        (fun c sc' => Keeps sc.shared sc'.shared ∧ c = .ok () ∧
          Stage temps (own.filter (·.1 ∉ temps)) sc'.shared) sc)
    (publishes : Safe (atWork W temps bytes) k code (fun r sc' => Keeps sc.shared sc'.shared ∧
      Published temps finals bytes r sc'.shared) sc) :
    Safe (atWork W temps bytes) k (code.always cleanup) (fun r sc' =>
      Keeps sc.shared sc'.shared ∧ Settled finals bytes r sc'.shared) sc := by
  refine .always (publishes.mono ?_)
  rintro r sc' ⟨kept, published⟩
  refine (published.settled apart (removes sc')).mono ?_
  rintro c sc'' ⟨kept', rfl, settled⟩
  exact ⟨kept.trans kept', settled⟩

theorem safe_exclusive {nonce path : String} {temporary : String}
    (named : temporaryOf (resolve path) nonce = temporary)
    (stage : Stage [locate temporary] [] sc.shared)
    (apart : ∀ p ∈ [locate (resolve path)], p ∉ [locate temporary]) :
    Safe (atWork W [locate temporary] bytes) k
      (writePrivateFileExclusive nonce path bytes) (fun r sc' => Keeps sc.shared sc'.shared ∧
        Settled [locate (resolve path)] bytes r sc'.shared) sc := by
  unfold writePrivateFileExclusive
  simp only [named]
  generalize resolve path = final at apart ⊢
  refine safe_always apart ?_ (.bind ((safe_temporary stage List.mem_cons_self).mono ?_))
  · intro sc own stage
    refine .bind ((safe_exists stage).mono ?_)
    rintro _ sc' ⟨kept, stage, rfl⟩
    simp only [List.mem_singleton]
    by_cases listed : locate temporary ∈ own.map (·.1)
    · obtain ⟨e, mem, same⟩ := List.mem_map.mp listed
      have here := (stage.here e mem).1
      rw [same] at here
      simp only [here, Option.isSome_some]
      refine (safe_unlink stage (.inr listed)).mono ?_
      rintro r sc'' ⟨kept', stage, done⟩
      exact ⟨kept.trans kept', done listed, stage⟩
    · have absent := stage.free _ List.mem_cons_self listed
      simp only [absent, Option.isSome_none]
      refine ⟨kept, rfl, ?_⟩
      rw [← filter_unlisted listed] at stage
      exact stage
  · rintro (x | ⟨⟩) sc₁ ⟨kept, written⟩
    · exact ⟨kept, written⟩
    obtain ⟨i, stage, whole⟩ := written
    refine .bind ((safe_link stage List.mem_cons_self whole).mono ?_)
    rintro (x | ⟨⟩) sc₂ ⟨kept₂, linked⟩
    · exact ⟨kept.trans kept₂, .of linked (by simp)⟩
    obtain ⟨stage, -⟩ := linked
    have whole := kept₂.complete whole
    refine .orElse ((safe_ask stage).mono ?_)
    rintro (x | ⟨⟩) sc₃ ⟨stage, others, -⟩
    · refine .bind ((safe_unlink stage (.inr List.mem_cons_self)).mono ?_)
      rintro r sc₄ ⟨kept₄, stage, done⟩
      rw [done List.mem_cons_self]
      refine .bind ((safe_ask stage).mono ?_)
      rintro r sc₅ ⟨stage, others', -⟩
      have kept := (((kept.trans kept₂).trans others.keeps).trans kept₄).trans others'.keeps
      have left : Left [locate temporary] [] sc₅.shared := by
        refine .of stage fun e mem => ?_
        obtain ⟨mem, other⟩ := List.mem_filter.mp mem
        rcases List.mem_cons.mp mem with rfl | mem
        · exact absurd rfl (of_decide_eq_true other)
        · rw [List.mem_singleton.mp mem]
          exact List.mem_cons_self
      cases r <;> exact ⟨kept, left⟩
    · refine ⟨(kept.trans kept₂).trans others.keeps, _, stage, fun p mem => ?_⟩
      rw [List.mem_singleton.mp mem]
      exact ⟨i, List.mem_cons_self, others.file whole⟩

/-- The `try` of `writeBackupCopies` publishes both copies, or leaves temporary files only. -/
theorem safe_publish {first second firstTmp secondTmp : String}
    (stage : Stage [locate firstTmp, locate secondTmp] [] sc.shared) :
    Safe (atWork W [locate firstTmp, locate secondTmp] bytes) k
      (publishCopies bytes first second firstTmp secondTmp) (fun r sc' =>
        Keeps sc.shared sc'.shared ∧ Published [locate firstTmp, locate secondTmp]
          [locate first, locate second] bytes r sc'.shared) sc := by
  have rolls {own : List (String × Nat)} {finals : List String} {x : Thrown}
      {sc' : Scene W Disk Deed Ask Ask.Answer Thrown} (kept : Keeps sc.shared sc'.shared)
      (stage : Stage [locate firstTmp, locate secondTmp] own sc'.shared)
      (mine : Removable [locate firstTmp, locate secondTmp] own finals)
      (all : ∀ e ∈ own, e.1 ∈ finals.map locate ∨ e.1 ∈ [locate firstTmp, locate secondTmp]) :
      Safe (atWork W [locate firstTmp, locate secondTmp] bytes) k (rollBack finals x)
        (fun r sc'' => r = .error x ∧ Keeps sc.shared sc''.shared ∧
          Left [locate firstTmp, locate secondTmp] [] sc''.shared) sc' := by
    refine (safe_rollBack stage mine all).mono ?_
    rintro r sc'' ⟨kept', done, left⟩
    exact ⟨done, kept.trans kept', left⟩
  have rollsEmpty {own : List (String × Nat)} {x : Thrown}
      {sc' : Scene W Disk Deed Ask Ask.Answer Thrown} (kept : Keeps sc.shared sc'.shared)
      (left : Left [locate firstTmp, locate secondTmp] own sc'.shared)
      (all : ∀ e ∈ own, e.1 ∈ [locate firstTmp, locate secondTmp]) :
      Safe (atWork W [locate firstTmp, locate secondTmp] bytes) k (rollBack [] x)
        (fun r sc'' => r = .error x ∧ Keeps sc.shared sc''.shared ∧
          Left [locate firstTmp, locate secondTmp] [] sc''.shared) sc' := by
    obtain ⟨now, stage, temporary⟩ := left
    exact rolls kept stage trivial fun e mem => .inr ((temporary e mem).elim (all e) id)
  unfold publishCopies
  refine .bind (.orElse (.bind ((safe_temporary stage (by simp)).mono ?_)))
  rintro (x | ⟨⟩) sc₁ ⟨kept₁, written⟩
  · refine (rollsEmpty kept₁ written (by simp)).mono ?_
    rintro _ sc' ⟨rfl, settled⟩
    exact settled
  obtain ⟨i, stage, wholeFirst⟩ := written
  refine .bind ((safe_temporary stage (by simp)).mono ?_)
  rintro (x | ⟨⟩) sc₂ ⟨kept₂, written⟩
  · refine (rollsEmpty (kept₁.trans kept₂) written (by simp)).mono ?_
    rintro _ sc' ⟨rfl, settled⟩
    exact settled
  obtain ⟨j, stage, wholeSecond⟩ := written
  have wholeFirst := kept₂.complete wholeFirst
  have kept₂ := kept₁.trans kept₂
  refine (safe_link stage (List.mem_cons_of_mem _ List.mem_cons_self) wholeFirst).mono ?_
  rintro (x | ⟨⟩) sc₃ ⟨kept₃, linked⟩
  · refine (rollsEmpty (kept₂.trans kept₃) linked.left (by simp)).mono ?_
    rintro _ sc' ⟨rfl, settled⟩
    exact settled
  obtain ⟨stage, -⟩ := linked
  have wholeFirst := kept₃.complete wholeFirst
  have wholeSecond := kept₃.complete wholeSecond
  have kept₃ := kept₂.trans kept₃
  refine .bind (.orElse ((safe_link stage (List.mem_cons_of_mem _ List.mem_cons_self)
    wholeSecond).mono ?_))
  rintro (x | ⟨⟩) sc₄ ⟨kept₄, linked⟩
  · have removable : Removable [locate firstTmp, locate secondTmp]
        [(locate first, i), (locate secondTmp, j), (locate firstTmp, i)] [first] := by
      simp [Removable]
    refine (rolls (kept₃.trans kept₄) linked removable (by simp)).mono ?_
    rintro _ sc' ⟨rfl, settled⟩
    exact settled
  obtain ⟨stage, apart⟩ := linked
  have wholeFirst := kept₄.complete wholeFirst
  have wholeSecond := kept₄.complete wholeSecond
  have kept₄ := kept₃.trans kept₄
  refine .orElse ((safe_syncAll stage).mono ?_)
  rintro (x | ⟨⟩) sc₅ ⟨kept₅, stage⟩
  · have removable : Removable [locate firstTmp, locate secondTmp]
        [(locate second, j), (locate first, i), (locate secondTmp, j), (locate firstTmp, i)]
        [first, second] := by
      have other : locate second ≠ locate first := fun same => apart (by simp [same])
      simp [Removable, other]
    refine (rolls (kept₄.trans kept₅) stage removable (by simp)).mono ?_
    rintro _ sc' ⟨rfl, settled⟩
    exact settled
  · refine ⟨kept₄.trans kept₅, _, stage, fun p mem => ?_⟩
    rcases List.mem_pair.mp mem with rfl | rfl
    · exact ⟨i, by simp, kept₅.complete wholeFirst⟩
    · exact ⟨j, by simp, kept₅.complete wholeSecond⟩

theorem safe_copies {nonce firstPath secondPath firstTmp secondTmp : String}
    (firstNamed : temporaryOf (resolve firstPath) nonce = firstTmp)
    (secondNamed : temporaryOf (resolve secondPath) nonce = secondTmp)
    (stage : Stage [locate firstTmp, locate secondTmp] [] sc.shared)
    (apart : ∀ p ∈ [locate (resolve firstPath), locate (resolve secondPath)],
      p ∉ [locate firstTmp, locate secondTmp]) :
    Safe (atWork W [locate firstTmp, locate secondTmp] bytes) k
      (writeBackupCopies nonce bytes firstPath secondPath) (fun r sc' =>
        Keeps sc.shared sc'.shared ∧
          Settled [locate (resolve firstPath), locate (resolve secondPath)] bytes r sc'.shared)
      sc := by
  unfold writeBackupCopies
  simp only [firstNamed, secondNamed]
  have refuses {sc' : Scene W Disk Deed Ask Ask.Answer Thrown} {x : Thrown}
      (stage : Stage [locate firstTmp, locate secondTmp] [] sc'.shared) :
      Settled [locate (resolve firstPath), locate (resolve secondPath)] bytes (.error x)
        sc'.shared := by
    intro p i f at_p here
    by_contra ours
    cases stage.mine p i f at_p here (eq_true_of_ne_false ours)
  split
  · exact ⟨.refl _, refuses stage⟩
  refine .bind ((safe_exists stage).mono ?_)
  rintro _ sc₁ ⟨kept₁, stage, rfl⟩
  simp only
  split
  · exact ⟨kept₁, refuses stage⟩
  refine .bind ((safe_exists stage).mono ?_)
  rintro _ sc₂ ⟨kept₂, stage, rfl⟩
  simp only
  split
  · exact ⟨kept₁.trans kept₂, refuses stage⟩
  refine (safe_always apart ?_ (safe_publish stage)).mono ?_
  · intro sc own stage
    refine (safe_tryUnlinkAll stage (removable_temps (by simp))).mono ?_
    rintro c sc' ⟨kept, done, stage⟩
    exact ⟨kept, done, stage⟩
  · rintro r sc' ⟨kept, settled⟩
    exact ⟨(kept₁.trans kept₂).trans kept, settled⟩

/-! ## Whole runs -/

/-- A call of either function. -/
inductive Job where
  | exclusive (path : String)
  | copies (firstPath secondPath : String)

/-- The final paths, where they are on the disk. -/
def Job.finals : Job → List String
  | .exclusive path => [locate (resolve path)]
  | .copies firstPath secondPath => [locate (resolve firstPath), locate (resolve secondPath)]

/-- The temporary paths, where they are on the disk. -/
def Job.temporaries (nonce : String) : Job → List String
  | .exclusive path => [locate (temporaryOf (resolve path) nonce)]
  | .copies firstPath secondPath => [locate (temporaryOf (resolve firstPath) nonce),
      locate (temporaryOf (resolve secondPath) nonce)]

def Job.code (nonce : String) (bytes : List UInt8) : Job → Code Unit
  | .exclusive path => writePrivateFileExclusive nonce path bytes
  | .copies firstPath secondPath => writeBackupCopies nonce bytes firstPath secondPath

/-- What a location may hold after a crash: any entry it has or ever was given, or none, and of a
file of the call's what was synced. -/
inductive Crashed (sc : Scene W Disk Deed Ask Ask.Answer Thrown) (p : String) :
    Option (List UInt8) → Prop where
  | absent : Crashed sc p none
  | theirs {i : Nat} {f : File} (at_p : sc.shared.entries p = some i)
      (here : sc.shared.files[i]? = some f) (theirs : f.ours = false) : Crashed sc p (some f.bytes)
  | ours {j i : Nat} {f : File} {left : List UInt8} (placed : .did j (.placed p i) ∈ sc.trace)
      (here : sc.shared.files[i]? = some f) (durable : f.synced = true → left = f.bytes) :
      Crashed sc p (some left)

variable {job : Job} {nonce : String}

theorem safe_job (stage : Stage (job.temporaries nonce) [] sc.shared)
    (apart : ∀ p ∈ job.finals, p ∉ job.temporaries nonce) :
    Safe (atWork W (job.temporaries nonce) bytes) k (job.code nonce bytes) (fun r sc' =>
      Keeps sc.shared sc'.shared ∧ Settled job.finals bytes r sc'.shared) sc := by
  cases job with
  | exclusive path => exact safe_exclusive rfl stage apart
  | copies firstPath secondPath => exact safe_copies rfl rfl stage apart

/-- Backups are written all or nothing: from any point of a call on, no file that the call did not
make changes; when it returns every final path holds the complete content, when it throws it has
left nothing, and a crash leaves at a final path nothing, the complete content or another
process's file. -/
theorem backups_all_or_nothing {code : Code Unit}
    {mid : Scene W Disk Deed Ask Ask.Answer Thrown} (wf : sc.shared.Wf)
    (new : sc.trace = [] ∧ ∀ f ∈ sc.shared.files, f.ours = false)
    (fresh : ∀ t ∈ job.temporaries nonce, sc.shared.entries t = none ∧ t ∉ job.finals)
    (run : Reaches (atWork W (job.temporaries nonce) bytes) k (job.code nonce bytes) sc code mid) :
    (∀ r sc', Plays (atWork W (job.temporaries nonce) bytes) k code mid r sc' →
      Keeps mid.shared sc'.shared ∧ match r with
      | .ok _ => ∀ p ∈ job.finals, ∃ i, sc'.shared.entries p = some i ∧
        sc'.shared.Complete bytes i
      | .error _ => ∀ p i f, sc'.shared.entries p = some i → sc'.shared.files[i]? = some f →
        f.ours = false) ∧
    ∀ p ∈ job.finals, ∀ left, Crashed mid p left → left = none ∨ left = some bytes ∨
      ∃ i f, mid.shared.entries p = some i ∧ mid.shared.files[i]? = some f ∧ f.ours = false ∧
        left = some f.bytes := by
  have stage : Stage (job.temporaries nonce) [] sc.shared := by
    refine ⟨wf, by simp, fun p i f _ here ours => ?_, fun t mem _ => (fresh t mem).1⟩
    rw [new.2 f (List.mem_of_getElem? here)] at ours
    cases ours
  have safe : Safe (atWork W (job.temporaries nonce) bytes) k (job.code nonce bytes) (fun r sc' =>
      Keeps sc.shared sc'.shared ∧ Settled job.finals bytes r sc'.shared) sc :=
    safe_job stage fun p mem temporary => (fresh p temporary).2 mem
  refine ⟨fun r sc' play => ⟨?_, ?_⟩, ?_⟩
  · exact play.related (run.safe safe fun _ => trivial) (fun sc sc' => Keeps sc.shared sc'.shared)
      (fun _ => trivial) (fun _ => .refl _) (fun _ _ _ => .trans) (fun _ _ guar => guar.1)
      fun _ _ _ _ relied => relied.2.keeps
  · have settled := (play.post (fun _ => trivial) (run.safe safe fun _ => trivial)).2
    exact settled
  · intro p mem left crashed
    have whole := (run.sound (fun sc => ∀ j p i, .did j (.placed p i) ∈ sc.trace →
      p ∉ job.temporaries nonce → sc.shared.Complete bytes i) (by simp [new.1])
      (safe.mono fun _ _ _ => trivial) ?_ ?_ (fun _ _ _ => trivial)
      (fun _ _ relied => ⟨[], by simp [relied.1]⟩) trivial).1
    · cases crashed with
      | absent => exact .inl rfl
      | theirs at_p here theirs => exact .inr (.inr ⟨_, _, at_p, here, theirs, rfl⟩)
      | ours placed here durable =>
        have complete := whole _ _ _ placed fun temporary => (fresh p temporary).2 mem
        rw [Disk.Complete, here, Option.some.injEq] at complete
        subst complete
        exact .inr (.inl (congrArg some (durable rfl)))
    · rintro sc sc' held ⟨kept, later, same, placed⟩ j p i mem elsewhere
      rw [same] at mem
      rcases List.mem_append.mp mem with old | now
      · exact kept.complete (held j p i old elsewhere)
      · exact placed j p i now elsewhere
    · rintro sc sc' q a held ⟨same, others⟩ j p i mem elsewhere
      rw [Scene.got_trace, same] at mem
      rcases List.mem_append.mp mem with old | now
      · exact others.keeps.complete (held j p i old elsewhere)
      · cases List.mem_singleton.mp now

end

/-- Paths as they are, all in one directory. -/
@[reducible] def samplePlatform : Platform where
  resolve := id
  dirname _ := "/"
  basename := id
  join := (· ++ ·)
  locate := id

/-- Every operation succeeds, and another process makes a `b` once there is an `a`. -/
def sampleEnv (sc : Scene Unit Disk Deed Ask Ask.Answer Thrown) :
    Scene Unit Disk Deed Ask Ask.Answer Thrown × ((q : Ask) → Except Thrown q.Answer) :=
  (if sc.shared.entries "b" = none ∧ (sc.shared.entries "a").isSome then
      { sc with shared := sc.shared.create "b" { bytes := [9], synced := false, ours := false } }
    else sc,
    fun
    | .write .. => .ok none
    | .isThere _ | .create _ | .sync _ | .close _ | .link .. | .syncDirectory _ | .unlink _ =>
      .ok ())

/-- A copy that loses the race to its second path takes the first one back. -/
theorem backups_all_or_nothing_sample :
    letI := samplePlatform
    ∃ mid, Reaches (atWork Unit ((Job.copies "a" "b").temporaries "u") [7]) 0
        ((Job.copies "a" "b").code "u" [7]) ⟨[], (), ⟨fun _ => none, []⟩⟩
        (.throw (.failed "EEXIST")) mid ∧
      mid.shared.entries "b" = some 2 ∧
      ∀ p i f, mid.shared.entries p = some i → mid.shared.files[i]? = some f → f.ours = false := by
  let _ := samplePlatform
  have relied (sc : Scene Unit Disk Deed Ask Ask.Answer Thrown) :
      (atWork Unit ((Job.copies "a" "b").temporaries "u") [7]).rely 0 sc (sampleEnv sc).1 := by
    unfold sampleEnv
    split
    · next now => exact ⟨rfl, .create (.none _) (by decide) now.1 rfl⟩
    · exact ⟨rfl, .none _⟩
  have ready (sc : Scene Unit Disk Deed Ask Ask.Answer Thrown) (q : Ask) :
      (atWork Unit ((Job.copies "a" "b").temporaries "u") [7]).ready (sampleEnv sc).1.world
        (sampleEnv sc).1.shared q ((sampleEnv sc).2 q) := by
    intro tidy x failed
    obtain ⟨p, rfl | rfl⟩ := tidy <;> cases failed
  have began : Reaches (atWork Unit ((Job.copies "a" "b").temporaries "u") [7]) 0
      ((Job.copies "a" "b").code "u" [7]) ⟨[], (), ⟨fun _ => none, []⟩⟩ _ _ := .start
  have run := began.drive 80 relied ready
  have ends : (((Job.copies "a" "b").code "u" [7]).drive 0 sampleEnv 80
        ⟨[], (), ⟨fun _ => none, []⟩⟩).1.thrown? = some (.failed "EEXIST") ∧
      (((Job.copies "a" "b").code "u" [7]).drive 0 sampleEnv 80
        ⟨[], (), ⟨fun _ => none, []⟩⟩).2.shared.entries "b" = some 2 := by
    decide +kernel
  rw [Async.eq_throw ends.1] at run
  refine ⟨_, run, ends.2, ?_⟩
  exact ((backups_all_or_nothing (fun _ _ h => by cases h) ⟨rfl, by simp⟩ (by decide) run).1 _ _
    (.throw _ _)).2

end XochiSdk.Recipient.Backup
