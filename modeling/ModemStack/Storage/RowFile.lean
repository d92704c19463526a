import Mathlib.Logic.Function.Basic
import ModemStack.Storage.AtomicFile

/-!
A file of rows that many tasks rewrite: each loads the document, edits its own row and saves
the whole. No task waits for another, so what a task saves may be built on a document that is
no longer in the file.

`kept_run` says what the rows are where that does not happen: those of the start with every
write applied in order, except that a write whose load could not read the file starts from
none.
-/

namespace ModemStack.Storage

open ModemStack.Async ModemStack.Async.Program

/-- How documents are kept in a file, and their rows. -/
structure Format (J D K V : Type) where
  fresh : Nat → D
  write : D → J
  read : J → Option D
  /-- A load replaces a file it cannot read a document from. -/
  rewrites : Bool
  row : D → K → V
  blank : V
  read_write : ∀ document, read (write document) = some document
  row_fresh : ∀ now key, row (fresh now) key = blank

/-- What a task has found and means to write: whether its load could not read a file that was
there, what the file held when it began to save and what it saves. -/
structure Note (J : Type) where
  unread : Bool
  found : Option (Content J)
  document : Option J

/-- A save that has taken effect. -/
structure Write (K V : Type) where
  task : Nat
  unread : Bool
  key : K
  value : V
deriving DecidableEq

/-- A file and its writers; `log` lists the saves that have taken effect, newest first. -/
structure RowFile (J K V : Type) where
  disk : Disk J
  notes : Nat → Note J
  log : List (Write K V)

abbrev RowProgram (J K V ε : Type) := Program (RowFile J K V) (FileCall J) FileCall.Answer ε

variable {J D K V ε α κ : Type}

namespace RowFile

def empty (disk : Disk J) : RowFile J K V := ⟨disk, fun _ => ⟨false, none, none⟩, []⟩

def mount : Mount (RowFile J K V) J where
  disk := RowFile.disk
  modify change s := { s with disk := change s.disk }
  disk_modify _ _ := rfl

def noted (task : Nat) (note : Note J → Note J) (s : RowFile J K V) : RowFile J K V :=
  { s with notes := Function.update s.notes task (note (s.notes task)) }

def logged (task : Nat) (key : K) (value : V) (s : RowFile J K V) : RowFile J K V :=
  { s with log := ⟨task, (s.notes task).unread, key, value⟩ :: s.log }

end RowFile

namespace Format

variable (format : Format J D K V)

/-- The document of a file, if one can be read from it. -/
def decode (content : Content J) : Option D :=
  match content with
  | .whole document => format.read document
  | .damaged => none

def save (task : Nat) (document : D) : RowProgram J K V ε Unit := do
  modify fun s => s.noted task fun note =>
    { note with found := s.disk.file, document := some (format.write document) }
  writeAtomic RowFile.mount (format.write document)

def load (task nowMs : Nat) : RowProgram J K V ε D := do
  let content ← readContent RowFile.mount
  modify fun s => s.noted task fun note =>
    { note with unread := content.isNone && s.disk.file.isSome }
  match content with
  | none => pure (format.fresh nowMs)
  | some content =>
    match format.decode content with
    | some document => pure document
    | none =>
      if format.rewrites then format.save task (format.fresh nowMs)
      pure (format.fresh nowMs)

/-- Load, edit a row, save. -/
def rewrite (task nowMs : Nat) (key : K) (edit : D → D) : RowProgram J K V ε D := do
  let current ← format.load task nowMs
  format.save task (edit current)
  modify (RowFile.logged task key (format.row (edit current) key))
  pure current

end Format

/-! ### The rows a log leads to -/

section Replay

variable (format : Format J D K V)

/-- The rows of a file. A file that is absent or cannot be decoded has none. -/
def Format.rowsOf (file : Option (Content J)) (key : K) : V :=
  match file.bind format.decode with
  | some document => format.row document key
  | none => format.blank

variable [DecidableEq K]

/-- The rows after the writes of a log. -/
def Format.replay (start : K → V) : List (Write K V) → K → V
  | [] => start
  | write :: before =>
    Function.update (if write.unread then fun _ => format.blank else replay start before)
      write.key write.value

variable {format} {start : K → V}

omit [DecidableEq K] in
theorem Format.rowsOf_written (document : D) :
    format.rowsOf (some (.whole (format.write document))) = format.row document := by
  funext key
  simp [Format.rowsOf, Format.decode, format.read_write]

end Replay

/-! ### The contracts of the writers -/

namespace RowFile

section Contracts

variable {format : Format J D K V} {start : K → V} {keys : K → Prop}

/-- A task finds its note as it was, and no write forgotten. -/
def Leaves (task : Nat) (s s' : RowFile J K V) : Prop :=
  s'.notes task = s.notes task ∧ s.log <:+ s'.log

theorem leaves_refl (task : Nat) (s : RowFile J K V) : Leaves task s s :=
  ⟨rfl, List.suffix_refl _⟩

theorem Leaves.trans {task : Nat} {s s' s'' : RowFile J K V} (first : Leaves task s s')
    (second : Leaves task s' s'') : Leaves task s s'' :=
  ⟨second.1.trans first.1, first.2.trans second.2⟩

/-- What a task's rename finds: the file as when the task began to save, and in the
temporary file what the task wrote. -/
def Undisturbed (task : Nat) (s : RowFile J K V) : Prop :=
  s.disk.file = (s.notes task).found ∧ s.disk.tmp = (s.notes task).document.map .whole

def contract (task : Nat) : Contract (RowFile J K V) (FileCall J) FileCall.Answer ε where
  rely := Leaves task
  guarantee s s' := ∀ other, other ≠ task → Leaves other s s'
  fair s op answer :=
    match op, answer with
    | .rename, .ok _ => s.Undisturbed task
    | _, _ => True
  call _ _ := True

variable [DecidableEq K]

variable (format start keys) in
/-- The rows of the file are those the log leads to, and only some keys have been written. -/
structure Kept (s : RowFile J K V) : Prop where
  rows : format.rowsOf s.disk.file = format.replay start s.log
  keys : ∀ write ∈ s.log, keys write.key

/-- In a turn of a task: the invariant, and what the task owes the others. -/
structure Within (format : Format J D K V) (start : K → V) (keys : K → Prop) (task : Nat)
    (begun s : RowFile J K V) : Prop where
  kept : s.Kept format start keys
  leaves : ∀ other, other ≠ task → Leaves other begun s

variable {task : Nat} {begun s : RowFile J K V}

theorem Kept.within (kept : s.Kept format start keys) : Within format start keys task s s :=
  ⟨kept, fun other _ => leaves_refl other s⟩

theorem Within.noted (within : Within format start keys task begun s) (note : Note J → Note J) :
    Within format start keys task begun (s.noted task note) := by
  refine ⟨⟨within.kept.rows, within.kept.keys⟩, fun other differs => ?_⟩
  refine (within.leaves other differs).trans ⟨?_, List.suffix_refl _⟩
  simp only [RowFile.noted, Function.update_of_ne differs]

/-- Writing the temporary file changes no row. -/
theorem Within.tmp (within : Within format start keys task begun s) (document : J)
    (succeeds : Bool) : Within format start keys task begun
      (mount.modify (fun disk => disk.write document succeeds) s) :=
  ⟨⟨within.kept.rows, within.kept.keys⟩, within.leaves⟩

/-- A turn that ends in an await: the task's note is as it was when the turn goes on. -/
theorem Within.rests (within : Within format start keys task begun s) :
    (contract task : Contract (RowFile J K V) (FileCall J) FileCall.Answer ε).Rests
      (Kept format start keys) begun s fun now =>
        Within format start keys task now now ∧ now.notes task = s.notes task where
  invariant := within.kept
  guarantee := within.leaves
  later _ relies kept := ⟨kept.within, relies.1⟩

/-- What a save that succeeds leaves: the turn in which it is renamed begins with the file as
the save found it. -/
def Saved (format : Format J D K V) (start : K → V) (keys : K → Prop) (task : Nat)
    (document : D) (s begun s' : RowFile J K V) : Prop :=
  Within format start keys task begun begun ∧ begun.disk.file = s.disk.file ∧
    (begun.notes task).unread = (s.notes task).unread ∧
    s' = { begun with disk := ⟨some (.whole (format.write document)), none⟩ }

/-- Within a turn, with the task's note as it was made. -/
def Noted (format : Format J D K V) (start : K → V) (keys : K → Prop) (task : Nat)
    (note : Note J) (begun s : RowFile J K V) : Prop :=
  Within format start keys task begun s ∧ s.notes task = note

theorem Noted.rests {note : Note J} (noted : Noted format start keys task note begun s)
    (op : FileCall J) :
    (contract task : Contract (RowFile J K V) (FileCall J) FileCall.Answer ε).Rests
      (Kept format start keys) begun s fun now =>
        (contract task : Contract (RowFile J K V) (FileCall J) FileCall.Answer ε).call op now ∧
          Noted format start keys task note now now :=
  { noted.1.rests with later := fun _ relies kept =>
      ⟨trivial, kept.within, relies.1.trans noted.2⟩ }

theorem meets_save {document : D} (within : Within format start keys task begun s) :
    (format.save task document : RowProgram J K V ε Unit).Meets (Kept format start keys)
      (contract task) (fun outcome begun s' => match outcome with
        | .error _ => Within format start keys task begun s'
        | .ok _ => Saved format start keys task document s begun s') begun s := by
  have noted : Noted format start keys task
      ⟨(s.notes task).unread, s.disk.file, some (format.write document)⟩ begun
      (s.noted task fun note =>
        { note with found := s.disk.file, document := some (format.write document) }) :=
    ⟨within.noted _, Function.update_self _ _ _⟩
  simp only [Format.save, meets_monad_bind, meets_modify, onOutcome_ok]
  apply meets_writeAtomic noted id
  · intro begun s op noted
    exact noted.rests op
  · intro begun s op noted
    exact noted.rests op
  · intro s noted
    exact ⟨noted.1.tmp _ false, noted.2⟩
  · intro s noted
    exact ⟨noted.1.tmp _ true, noted.2⟩
  · intro begun s error noted
    exact noted.1
  · intro now noted fair
    obtain ⟨file, tmp⟩ := fair
    rw [noted.2] at file tmp
    refine ⟨noted.1, file, by rw [noted.2], ?_⟩
    simp only [mount, Disk.publish, tmp, Option.map_some]

/-- What a load answers: the rows of the file, or none where it could not be read. -/
structure Loaded (format : Format J D K V) (start : K → V) (keys : K → Prop) (task : Nat)
    (current : D) (begun s : RowFile J K V) : Prop where
  within : Within format start keys task begun s
  rows : format.row current =
    if (s.notes task).unread then fun _ => format.blank else format.rowsOf s.disk.file

end Contracts

/-! ### Runs -/

section Runs

variable [DecidableEq K]

/-- A write that a task reports has been made. -/
def Reported (reports : α → Option (K × V)) (task : Nat) (outcome : Except ε α)
    (s : RowFile J K V) : Prop :=
  ∀ result key value, outcome = .ok result → reports result = some (key, value) →
    ∃ write ∈ s.log, write.task = task ∧ write.key = key ∧ write.value = value

/-- No task's rename comes upon what another has written since. -/
def InTurn (loop : EventLoop (RowFile J K V) κ (FileCall J) FileCall.Answer ε α) :
    Turn κ (FileCall J) FileCall.Answer ε → Prop
  | .start _ => True
  | .resume task answer => loop.pending task = some .rename → (answer .rename).isOk = true →
      loop.shared.Undisturbed task

def discipline (format : Format J D K V) (start : K → V) (keys : K → Prop)
    (reports : α → Option (K × V)) :
    Discipline (RowFile J K V) κ (FileCall J) FileCall.Answer ε α where
  invariant := Kept format start keys
  fresh _ _ := True
  contract task _ := contract task
  done task _ outcome := Reported reports task outcome

variable {format : Format J D K V} {start : K → V} {keys : K → Prop}
  {reports : α → Option (K × V)} {addresses : κ → K → Prop}

theorem discipline_lawful :
    (discipline format start keys reports : Discipline _ κ _ _ ε α).Lawful where
  refl task _ := leaves_refl task
  trans _ _ _ _ _ := Leaves.trans
  others _ _ _ _ differs _ _ guarantee := guarantee _ (Ne.symm differs)
  fresh _ _ _ _ _ _ _ _ := trivial

/-- A task that meets this keeps its part in every run. -/
def Writes (format : Format J D K V) (addresses : κ → K → Prop) (reports : α → Option (K × V))
    (body : Nat → κ → RowProgram J K V ε α) : Prop :=
  ∀ {start keys} task call s, (∀ key, addresses call key → keys key) →
    Kept format start keys s → (body task call).Meets (Kept format start keys) (contract task)
      (fun outcome begun s =>
        Within format start keys task begun s ∧ Reported reports task outcome s) s s

theorem Writes.begins {body : Nat → κ → RowProgram J K V ε α}
    (writes : Writes format addresses reports body) {task : Nat} {call : κ} {s : RowFile J K V}
    (isKey : ∀ key, addresses call key → keys key) (kept : Kept format start keys s) :
    (discipline format start keys reports).Begins body task call s := by
  refine (writes task call s isKey kept).mono fun outcome begun s ⟨within, reported⟩ => ?_
  refine ⟨within.kept, within.leaves, fun now relies _ => ?_⟩
  intro result key value isResult reports
  obtain ⟨write, mem, isWrite⟩ := reported result key value isResult reports
  exact ⟨write, relies.2.mem mem, isWrite⟩

omit [DecidableEq K] in
theorem InTurn.fair {loop : EventLoop (RowFile J K V) κ (FileCall J) FileCall.Answer ε α}
    {task : Nat} {answer : (op : FileCall J) → Except ε op.Answer}
    (inTurn : InTurn loop (.resume task answer)) {call : κ} {op : FileCall J}
    {next : Except ε op.Answer → RowProgram J K V ε α}
    (awaits : loop.tasks[task]? = some (call, .await op next)) :
    (contract task).fair loop.shared op (answer op) := by
  have pending : loop.pending task = some op := by
    rw [EventLoop.pending, awaits]
    rfl
  cases op with
  | rename =>
    cases answered : answer .rename with
    | error => trivial
    | ok => exact inTurn pending (by rw [answered]; rfl)
  | _ => trivial

end Runs

end RowFile

end ModemStack.Storage
