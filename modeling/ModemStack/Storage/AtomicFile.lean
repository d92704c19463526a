import ModemStack.Async.EventLoop

/-!
Files that are replaced as a whole: a document is written to a temporary file, which is
then renamed over the target. All writers of a target share its temporary file.
-/

namespace ModemStack.Storage

open ModemStack.Async ModemStack.Async.Program

/-- What a file holds: a document, or something no document can be read from. -/
inductive Content (δ : Type) where
  | whole (document : δ)
  | damaged
deriving DecidableEq

/-- A target and its temporary file. -/
structure Disk (δ : Type) where
  file : Option (Content δ)
  tmp : Option (Content δ)
deriving DecidableEq

inductive FileCall (δ : Type) where
  | mkdir
  | writeFile (document : δ)
  | chmod
  | rename
  | readFile
deriving DecidableEq

abbrev FileCall.Answer {δ : Type} (_ : FileCall δ) : Type := Unit

namespace Disk

variable {δ : Type}

/-- A write that fails leaves a damaged file. -/
def write (disk : Disk δ) (document : δ) (succeeds : Bool) : Disk δ :=
  { disk with tmp := some (if succeeds then .whole document else .damaged) }

/-- Rename the temporary file over the target. -/
def publish (disk : Disk δ) : Disk δ :=
  match disk.tmp with
  | none => disk
  | some content => ⟨some content, none⟩

theorem publish_written {disk : Disk δ} {document : δ} (written : disk.tmp = some (.whole document)) :
    disk.publish.file = some (.whole document) := by
  rw [publish, written]

end Disk

/-- Where a shared state keeps its disk. -/
structure Mount (σ δ : Type) where
  disk : σ → Disk δ
  modify : (Disk δ → Disk δ) → σ → σ
  disk_modify : ∀ change s, disk (modify change s) = change (disk s)

variable {σ δ ε : Type}

/-- `writeAtomic(state)` -/
def writeAtomic (mount : Mount σ δ) (document : δ) :
    Program σ (FileCall δ) FileCall.Answer ε Unit := do
  perform .mkdir
  let written ← settle (.writeFile document)
  modify (mount.modify fun disk => disk.write document written.isOk)
  ofExcept written
  perform .chmod
  perform .rename
  modify (mount.modify Disk.publish)

/-- `readFile(path)`: nothing where the file is absent or cannot be read. -/
def readContent (mount : Mount σ δ) :
    Program σ (FileCall δ) FileCall.Answer ε (Option (Content δ)) := do
  let answer ← settle .readFile
  let s ← get
  pure (if answer.isOk then (mount.disk s).file else none)

/-! ### The rule of an atomic write -/

section Rules

variable {Inv : σ → Prop} {c : Contract σ (FileCall δ) FileCall.Answer ε} {mount : Mount σ δ}
  {document : δ} {begun s : σ}

/-- `Mid` holds from the first call on, and `Written` from the write to the rename. -/
theorem meets_writeAtomic {Done : Except ε Unit → σ → σ → Prop} {Mid Written : σ → σ → Prop}
    (mid : Mid begun s) (weaken : ∀ {begun s}, Written begun s → Mid begun s)
    (rests : ∀ {begun s} op, Mid begun s →
      c.Rests Inv begun s fun now => c.call op now ∧ Mid now now)
    (restsWritten : ∀ {begun s} op, Written begun s →
      c.Rests Inv begun s fun now => c.call op now ∧ Written now now)
    (tears : ∀ {s}, Mid s s → Mid s (mount.modify (fun disk => disk.write document false) s))
    (writes : ∀ {s}, Mid s s → Written s (mount.modify (fun disk => disk.write document true) s))
    (failed : ∀ {begun s} error, Mid begun s → Done (.error error) begun s)
    (published : ∀ {now}, Written now now → c.fair now .rename (.ok ()) →
      Done (.ok ()) now (mount.modify Disk.publish now)) :
    (writeAtomic mount document).Meets Inv c Done begun s := by
  have answered {begun s : σ} {op : FileCall δ} {Holds : σ → σ → Prop} {P : Except ε Unit → σ → Prop}
      (rests : c.Rests Inv begun s fun now => c.call op now ∧ Holds now now)
      (next : ∀ answer now, Holds now now → c.fair now op answer → P answer now) :
      c.Rests Inv begun s fun now =>
        c.call op now ∧ ∀ answer, c.fair now op answer → P answer now :=
    { rests with later := fun now relies inv =>
        ⟨(rests.later now relies inv).1, fun answer =>
          next answer now (rests.later now relies inv).2⟩ }
  simp only [writeAtomic, meets_monad_bind, meets_perform, meets_settle, onOutcome_ok,
    meets_modify, meets_ofExcept]
  apply answered (rests .mkdir mid)
  intro made now mid _
  cases made with
  | error error => exact failed error mid
  | ok =>
  apply answered (rests (.writeFile document) mid)
  intro written now mid _
  cases written with
  | error error => exact failed error (tears mid)
  | ok =>
  apply answered (restsWritten .chmod (writes mid))
  intro moded now written _
  cases moded with
  | error error => exact failed error (weaken written)
  | ok =>
  apply answered (restsWritten .rename written)
  intro renamed now written fair
  cases renamed with
  | error error => exact failed error (weaken written)
  | ok => exact published written fair

end Rules

end ModemStack.Storage
