import ModemStack.Async.Alone
import ModemStack.Storage.RowFile

/-!
A rewrite of a row that no other runs beside: what it finds in the file, and what it leaves there.
-/

namespace ModemStack.Storage

open ModemStack.Async ModemStack.Async.Program

variable {J D K V ε ω : Type}

/-- The file is absent, or a document can be read from it. -/
def Format.Stored (format : Format J D K V) (file : Option (Content J)) : Prop :=
  file = none ∨ (file.bind format.decode).isSome = true

/-- The rows a load finds: those of the file, or none where it cannot be read. -/
def Format.found (format : Format J D K V) (read : Except ε Unit) (file : Option (Content J)) :
    K → V :=
  if read.isOk then format.rowsOf file else fun _ => format.blank

/-- The file has the rows it had, and is what it was unless no document could be read from it. -/
structure Format.Leaves (format : Format J D K V) (file file' : Option (Content J)) : Prop where
  rows : format.rowsOf file' = format.rowsOf file
  same : format.Stored file → file' = file

theorem Format.leaves_refl (format : Format J D K V) (file : Option (Content J)) :
    format.Leaves file file := ⟨rfl, fun _ => rfl⟩

namespace RowFile

section Alone

variable (format : Format J D K V) (world : (op : FileCall J) → ω → Except ε Unit × ω) (task : Nat)

/-- An atomic write publishes its document, or leaves the file. -/
theorem alone_writeAtomic (document : J) (s : RowFile J K V) (w : ω) : ∃ outcome s' w',
    (writeAtomic mount document : RowProgram J K V ε Unit).alone world s w = (outcome, s', w') ∧
      s'.disk.file = match outcome with
        | .ok _ => some (.whole document)
        | .error _ => s.disk.file := by
  simp only [writeAtomic, alone_monad_bind, alone_perform, alone_settle, alone_modify,
    alone_ofExcept]
  cases (world .mkdir w).1 with
  | error => exact ⟨_, _, _, rfl, rfl⟩
  | ok =>
    simp only
    cases (world (.writeFile document) (world .mkdir w).2).1 with
    | error => exact ⟨_, _, _, rfl, rfl⟩
    | ok =>
      simp only
      generalize (world (.writeFile document) (world .mkdir w).2).2 = w₁
      cases (world .chmod w₁).1 with
      | error => exact ⟨_, _, _, rfl, rfl⟩
      | ok =>
        simp only
        cases (world .rename (world .chmod w₁).2).1 with
        | error => exact ⟨_, _, _, rfl, rfl⟩
        | ok => exact ⟨_, _, _, rfl, Disk.publish_written rfl⟩

/-- A save publishes its document, or leaves the file. -/
theorem alone_save (document : D) (s : RowFile J K V) (w : ω) : ∃ outcome s' w',
    (format.save task document : RowProgram J K V ε Unit).alone world s w = (outcome, s', w') ∧
      s'.disk.file = match outcome with
        | .ok _ => some (.whole (format.write document))
        | .error _ => s.disk.file := by
  simp only [Format.save, alone_monad_bind, alone_modify]
  exact alone_writeAtomic world (format.write document) _ w

/-- A save whose calls all succeed succeeds. -/
theorem alone_save_ok (succeeds : ∀ op w, (world op w).1 = .ok ()) (document : D)
    (s : RowFile J K V) (w : ω) :
    ((format.save task document : RowProgram J K V ε Unit).alone world s w).1 = .ok () := by
  simp only [Format.save, writeAtomic, alone_monad_bind, alone_perform, alone_settle,
    alone_modify, alone_ofExcept, succeeds]

theorem alone_load (nowMs : Nat) (s : RowFile J K V) (w : ω) : ∃ outcome s' w',
    (format.load task nowMs : RowProgram J K V ε D).alone world s w = (outcome, s', w') ∧
      format.Leaves s.disk.file s'.disk.file ∧
        ∀ current, outcome = .ok current →
          format.row current = format.found (world .readFile w).1 s.disk.file := by
  have fresh : format.row (format.fresh nowMs) = fun _ => format.blank :=
    funext (format.row_fresh nowMs)
  simp only [Format.load, readContent, alone_monad_bind, alone_settle, alone_get, alone_pure,
    alone_modify, Format.found]
  cases (world .readFile w).1 with
  | error =>
    refine ⟨_, _, _, rfl, format.leaves_refl _, ?_⟩
    rintro current ⟨⟩
    exact fresh
  | ok _ =>
    simp only [Except.isOk, Except.toBool, if_true]
    have isFile : (mount.disk s).file = s.disk.file := rfl
    rw [isFile]
    cases file : s.disk.file with
    | none =>
      refine ⟨_, _, _, rfl, ⟨congrArg format.rowsOf file, fun _ => file⟩, ?_⟩
      rintro current ⟨⟩
      exact fresh
    | some content =>
      cases decoded : format.decode content with
      | some =>
        simp only [decoded, alone_pure]
        refine ⟨_, _, _, rfl, ⟨congrArg format.rowsOf file, fun _ => file⟩, ?_⟩
        rintro current ⟨⟩
        funext key
        simp [Format.rowsOf, decoded]
      | none =>
        have noRow : format.rowsOf (some content) = fun _ => format.blank := by
          funext key
          simp [Format.rowsOf, decoded]
        have notStored : ¬ format.Stored (some content) := by
          simp [Format.Stored, decoded]
        simp only [decoded, noRow]
        cases format.rewrites with
        | false =>
          refine ⟨_, _, _, rfl, ⟨(congrArg format.rowsOf file).trans rfl, fun _ => file⟩, ?_⟩
          rintro current ⟨⟩
          exact fresh
        | true =>
          simp only [if_true, alone_monad_bind]
          generalize isNoted : noted task _ s = s₁, (world .readFile w).2 = w₁
          have sameFile : s₁.disk.file = some content := isNoted ▸ file
          obtain ⟨outcome, s', w', saves, left⟩ :=
            alone_save format world task (format.fresh nowMs) s₁ w₁
          rw [saves]
          cases outcome with
          | error =>
            refine ⟨_, _, _, rfl, ?_, by simp⟩
            rw [show s'.disk.file = s₁.disk.file from left, sameFile]
            exact format.leaves_refl _
          | ok _ =>
            refine ⟨_, _, _, rfl, ⟨?_, fun stored => absurd stored notStored⟩, ?_⟩
            · rw [show s'.disk.file = _ from left, Format.rowsOf_written, fresh, noRow]
            · rintro current ⟨⟩
              exact fresh

/-- A load whose calls all succeed succeeds. -/
theorem alone_load_ok (succeeds : ∀ op w, (world op w).1 = .ok ()) (nowMs : Nat)
    (s : RowFile J K V) (w : ω) : ∃ current,
      ((format.load task nowMs : RowProgram J K V ε D).alone world s w).1 = .ok current := by
  simp only [Format.load, readContent, alone_monad_bind, alone_settle, alone_get, alone_pure,
    alone_modify, succeeds, Except.isOk, Except.toBool, if_true]
  split
  · exact ⟨_, rfl⟩
  · split
    · exact ⟨_, rfl⟩
    · split
      · rw [alone_monad_bind]
        split
        · exact ⟨_, rfl⟩
        · next error _ _ fails =>
          have saves := alone_save_ok format world task succeeds (format.fresh nowMs)
          have impossible := (saves _ _).symm.trans (congrArg Prod.fst fails)
          cases impossible
      · exact ⟨_, rfl⟩

theorem alone_rewrite (nowMs : Nat) (key : K) (edit : D → D) (s : RowFile J K V) (w : ω) :
    ∃ outcome s' w',
      (format.rewrite task nowMs key edit : RowProgram J K V ε D).alone world s w =
        (outcome, s', w') ∧ match outcome with
        | .ok current =>
          format.row current = format.found (world .readFile w).1 s.disk.file ∧
            s'.disk.file = some (.whole (format.write (edit current)))
        | .error _ => format.Leaves s.disk.file s'.disk.file := by
  simp only [Format.rewrite, alone_monad_bind]
  obtain ⟨outcome, s₁, w₁, loads, leaves, found⟩ := alone_load format world task nowMs s w
  rw [loads]
  cases outcome with
  | error => exact ⟨_, _, _, rfl, leaves⟩
  | ok current =>
    obtain ⟨outcome, s', w', saves, left⟩ := alone_save format world task (edit current) s₁ w₁
    simp only [saves]
    cases outcome with
    | error =>
      refine ⟨_, _, _, rfl, ?_⟩
      rw [show s'.disk.file = s₁.disk.file from left]
      exact leaves
    | ok _ => exact ⟨_, _, _, rfl, found current rfl, left⟩

end Alone

end RowFile

end ModemStack.Storage
