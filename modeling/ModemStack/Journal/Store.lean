import ModemStack.Journal.Codec

/-!
The append-only journal file.

A store appends one line for each entry. Its first append probes the last byte
of the file, and as long as the probe has found none, each append opens with a
terminator. The environment decides which appends fail, and how much of their
line they have written by then.

Reading the file yields the entries that were there and those whose line was
written whole, in file order (`journal_durability`), as long as no store takes
a file for terminated that ends inside a line.
-/

namespace ModemStack.Journal

open ModemStack.Text

/-! ### Reading -/

inductive JournalDamageLocation where
  | line (line : Nat) (trailing : Bool)
  | file
deriving DecidableEq

structure JournalDamageRecord where
  location : JournalDamageLocation
  bytes : Nat
  failure : JournalDecodeFailure
deriving DecidableEq

/-- An entry with its line, counted from 1. -/
structure JournalLineRecord where
  line : Nat
  entry : JournalEntry
deriving DecidableEq

structure JournalReadResult where
  entries : List JournalLineRecord
  damage : List JournalDamageRecord
deriving DecidableEq

def byteLength (text : JsString) : Nat := (encodeUtf8 text).length

/-- The loop of `decodeJournalText` over lines with their indices. -/
def decodeLines (lastPopulated : Option Nat) : List (JsString × Nat) → JournalReadResult
  | [] => ⟨[], []⟩
  | (raw, index) :: rest =>
    let result := decodeLines lastPopulated rest
    if isBlank raw then result
    else match decodeJournalEntry raw with
      | .ok entry => { result with entries := ⟨index + 1, entry⟩ :: result.entries }
      | .error failure =>
        { result with damage := ⟨.line (index + 1) (lastPopulated = some index),
          byteLength raw, failure⟩ :: result.damage }

/-- The lines that are not blank, with their indices. -/
def populated (text : JsString) : List (JsString × Nat) :=
  (text.splitOn newline).zipIdx.filter fun line => !isBlank line.1

def decodeJournalText (text : JsString) : JournalReadResult :=
  decodeLines ((populated text).getLast?.map Prod.snd) (text.splitOn newline).zipIdx

/-! ### Appending -/

/-- How an append ends. -/
inductive AppendFate where
  | mkdirRejects
  /-- The file was opened, and a later call of the probe rejects. -/
  | probeRejects
  | openRejects
  /-- The write rejects, or the process dies, after some bytes. -/
  | writeStops (bytes : Nat)
  | chmodRejects
  | resolves
deriving DecidableEq

structure Attempt where
  entry : JournalEntry
  /-- The probe can open the file, if there is one. -/
  opens : Bool
  fate : AppendFate

/-- The file on the path, and the store that appends to it. -/
structure Store where
  file : Option (List UInt8)
  terminated : Option Bool
deriving DecidableEq

/-- Only an open file that has a last byte is found unterminated. -/
def probeTerminated (opens : Bool) (file : Option (List UInt8)) : Bool :=
  match opens, file with
  | true, some bytes => bytes.getLast?.all (· = 0x0A)
  | _, _ => true

namespace Store

variable (s : Store) (a : Attempt)

def bytes : List UInt8 := s.file.getD []

def text : JsString := decodeUtf8 s.bytes

/-- `#terminated` once the append has probed the file. -/
def takesTerminated : Bool := s.terminated.getD (probeTerminated a.opens s.file)

def lead : JsString := if s.takesTerminated a then [] else [newline]

def line : JsString := s.lead a ++ encodeJournalEntry a.entry ++ [newline]

/-- The bytes that reach the file. -/
def written : List UInt8 :=
  match a.fate with
  | .mkdirRejects | .probeRejects | .openRejects => []
  | .writeStops bytes => (encodeUtf8 (s.line a)).take bytes
  | .chmodRejects | .resolves => encodeUtf8 (s.line a)

def appendNow : Store :=
  match a.fate with
  | .mkdirRejects | .probeRejects => s
  | .openRejects => { s with terminated := some (s.takesTerminated a) }
  | .writeStops _ | .chmodRejects =>
    { file := some (s.bytes ++ s.written a), terminated := some (s.takesTerminated a) }
  | .resolves => { file := some (s.bytes ++ s.written a), terminated := some true }

end Store

/-- Appends are chained, so a store runs one at a time, in the order of the calls. -/
inductive JournalEvent where
  | append (attempt : Attempt)
  /-- Another store takes over the path. -/
  | restart

def Store.step (s : Store) : JournalEvent → Store
  | .append a => s.appendNow a
  | .restart => { s with terminated := none }

def Store.after (s : Store) (events : List JournalEvent) : Store := events.foldl Store.step s

/-! ### Lines of a text -/

/-- A text that ends in no unfinished line. -/
def Ended (text : JsString) : Prop := text = [] ∨ ∃ before, text = before ++ [newline]

/-- A line with its index, unless it is blank. -/
def populatedLine (line : JsString) (index : Nat) : List (JsString × Nat) :=
  if isBlank line then [] else [(line, index)]

theorem populatedLine_nil (index : Nat) : populatedLine [] index = [] := rfl

theorem splitOn_line {line : JsString} (one : newline ∉ line) : line.splitOn newline = [line] :=
  List.splitOn_eq_singleton one

theorem filter_line (line : JsString) (index : Nat) :
    ([(line, index)].filter fun line => !isBlank line.1) = populatedLine line index := by
  cases blank : isBlank line <;> simp [populatedLine, blank]

theorem populated_newline (before after : JsString) :
    populated (before ++ newline :: after) = populated before ++
      ((after.splitOn newline).zipIdx (before.splitOn newline).length).filter
        fun line => !isBlank line.1 := by
  rw [populated, List.splitOn_append_cons_self, List.zipIdx_append, List.filter_append,
    Nat.zero_add]
  rfl

variable (text : JsString)

/-- A line after a terminator. -/
theorem populated_append_line {line : JsString} (one : newline ∉ line) :
    populated (text ++ newline :: line) =
      populated text ++ populatedLine line (text.splitOn newline).length := by
  rw [populated_newline, splitOn_line one, List.zipIdx_singleton, filter_line]

theorem populated_terminator : populated (text ++ [newline]) = populated text := by
  rw [populated_append_line text (by simp), populatedLine_nil, List.append_nil]

/-- A line at the end of a text whose lines are finished. -/
theorem populated_ended {text line : JsString} (ended : Ended text) (one : newline ∉ line) :
    ∃ index, populated (text ++ line) = populated text ++ populatedLine line index := by
  rcases ended with rfl | ⟨before, rfl⟩
  · refine ⟨0, ?_⟩
    rw [List.nil_append, populated, splitOn_line one, List.zipIdx_singleton, filter_line]
    rfl
  · refine ⟨(before.splitOn newline).length, ?_⟩
    rw [populated_terminator, List.append_assoc, List.singleton_append]
    exact populated_append_line before one

/-! ### Entries and damage -/

/-- The entries of lines, in order. -/
def lineEntries (lines : List JsString) : List JournalEntry :=
  lines.filterMap fun line => (decodeJournalEntry line).toOption

def JournalReadResult.journaled (result : JournalReadResult) : List JournalEntry :=
  result.entries.map JournalLineRecord.entry

theorem decodeLines_journaled (last : Option Nat) (lines : List (JsString × Nat)) :
    (decodeLines last lines).journaled =
      lineEntries ((lines.filter fun line => !isBlank line.1).map Prod.fst) := by
  induction lines with
  | nil => rfl
  | cons line lines ih =>
    obtain ⟨raw, index⟩ := line
    cases blank : isBlank raw with
    | true => simpa [decodeLines, blank] using ih
    | false =>
      cases decoded : decodeJournalEntry raw with
      | ok | error =>
        simpa [decodeLines, blank, decoded, lineEntries, JournalReadResult.journaled,
          Except.toOption] using ih

/-- A decoded text lists the entries of its lines. -/
theorem decodeJournalText_journaled :
    (decodeJournalText text).journaled = lineEntries ((populated text).map Prod.fst) :=
  decodeLines_journaled _ _

/-- A damage record is about a line that does not decode. -/
structure DamagedLine (record : JournalDamageRecord) (raw : JsString) (index : Nat) : Prop where
  location : ∃ trailing, record.location = .line (index + 1) trailing
  bytes : record.bytes = byteLength raw
  failure : decodeJournalEntry raw = .error record.failure

theorem mem_decodeLines_damage {last : Option Nat} {lines : List (JsString × Nat)}
    {record : JournalDamageRecord} (mem : record ∈ (decodeLines last lines).damage) :
    ∃ line ∈ lines.filter fun line => !isBlank line.1, DamagedLine record line.1 line.2 := by
  induction lines with
  | nil => simp [decodeLines] at mem
  | cons line lines ih =>
    obtain ⟨raw, index⟩ := line
    cases blank : isBlank raw with
    | true =>
      have rest : record ∈ (decodeLines last lines).damage := by
        simpa [decodeLines, blank] using mem
      simpa [blank] using ih rest
    | false =>
      have later : record ∈ (decodeLines last lines).damage →
          ∃ line ∈ ((raw, index) :: lines).filter fun line => !isBlank line.1,
            DamagedLine record line.1 line.2 := by
        intro rest
        obtain ⟨line, inside, damaged⟩ := ih rest
        refine ⟨line, ?_, damaged⟩
        rw [List.filter_cons_of_pos (by simp [blank])]
        exact List.mem_cons_of_mem _ inside
      cases decoded : decodeJournalEntry raw with
      | ok => exact later (by simpa [decodeLines, blank, decoded] using mem)
      | error =>
        rw [decodeLines] at mem
        simp only [blank, decoded, Bool.false_eq_true, if_false, List.mem_cons] at mem
        rcases mem with rfl | rest
        · exact ⟨(raw, index), by simp [blank], ⟨_, rfl⟩, rfl, decoded⟩
        · exact later rest

theorem exists_damage_of_mem {last : Option Nat} {lines : List (JsString × Nat)}
    {line : JsString × Nat} (mem : line ∈ lines) (some : isBlank line.1 = false)
    {failure : JournalDecodeFailure} (fails : decodeJournalEntry line.1 = .error failure) :
    ∃ record ∈ (decodeLines last lines).damage, DamagedLine record line.1 line.2 := by
  induction lines with
  | nil => simp at mem
  | cons first lines ih =>
    obtain ⟨raw, index⟩ := first
    rcases List.mem_cons.mp mem with rfl | rest
    · refine ⟨⟨.line (index + 1) (last = Option.some index), byteLength raw, failure⟩, ?_,
        ⟨_, rfl⟩, rfl, fails⟩
      rw [decodeLines]
      simp [some, fails]
    · obtain ⟨record, inside, damaged⟩ := ih rest
      refine ⟨record, ?_, damaged⟩
      rw [decodeLines]
      split
      · exact inside
      · split
        · exact inside
        · exact List.mem_cons_of_mem _ inside

/-! ### One append -/

namespace Store

variable {s : Store} {a : Attempt}

/-- The bytes end in no unfinished line. -/
def Closed (bytes : List UInt8) : Prop := bytes = [] ∨ bytes.getLast? = some 0x0A

/-- The entry's own line has reached the file whole. -/
def Whole (s : Store) (a : Attempt) : Prop :=
  encodeUtf8 (s.lead a ++ encodeJournalEntry a.entry) <+: s.written a

instance (s : Store) (a : Attempt) : Decidable (s.Whole a) :=
  inferInstanceAs (Decidable (_ <+: _))

/-- The store takes no unfinished line for a finished one. -/
def Sound (s : Store) (a : Attempt) : Prop :=
  s.written a ≠ [] → s.takesTerminated a = true → Closed s.bytes

/-- What there is to read of the entry's line. -/
def ownLine (s : Store) (a : Attempt) : JsString :=
  if s.Whole a then encodeJournalEntry a.entry
  else decodeUtf8 ((s.written a).drop (encodeUtf8 (s.lead a)).length)

theorem line_bytes (s : Store) (a : Attempt) :
    encodeUtf8 (s.line a) =
      encodeUtf8 (s.lead a) ++ (encodeUtf8 (encodeJournalEntry a.entry) ++ [0x0A]) := by
  have leading : WellFormed (s.lead a) := by
    rw [lead]
    split
    · exact .nil
    · exact .unit rfl rfl .nil
  rw [line, List.append_assoc, encodeUtf8_append leading,
    encodeUtf8_append (onOneLine_encode a.entry).1]
  rfl

theorem lead_bytes (s : Store) (a : Attempt) :
    (s.takesTerminated a = true ∧ s.lead a = [] ∧ encodeUtf8 (s.lead a) = []) ∨
      (s.lead a = [newline] ∧ encodeUtf8 (s.lead a) = [0x0A]) := by
  rw [lead]
  cases s.takesTerminated a with
  | true => exact .inl ⟨rfl, rfl, rfl⟩
  | false => exact .inr ⟨rfl, rfl⟩

theorem written_prefix (s : Store) (a : Attempt) : s.written a <+: encodeUtf8 (s.line a) := by
  rw [written]
  split
  · exact List.nil_prefix
  · exact List.nil_prefix
  · exact List.nil_prefix
  · exact List.take_prefix _ _
  · exact List.prefix_refl _
  · exact List.prefix_refl _

/-- Either nothing is written, or the lead and some of what follows it. -/
theorem written_cases (s : Store) (a : Attempt) :
    s.written a = [] ∨ ∃ own, s.written a = encodeUtf8 (s.lead a) ++ own ∧
      (own <+: encodeUtf8 (encodeJournalEntry a.entry) ∨
        own = encodeUtf8 (encodeJournalEntry a.entry) ++ [0x0A]) := by
  have pre := s.written_prefix a
  rw [line_bytes] at pre
  have own_cases : ∀ own, own <+: encodeUtf8 (encodeJournalEntry a.entry) ++ [0x0A] →
      own <+: encodeUtf8 (encodeJournalEntry a.entry) ∨
        own = encodeUtf8 (encodeJournalEntry a.entry) ++ [0x0A] :=
    fun own inside => (List.prefix_concat_iff.mp inside).symm
  rcases s.lead_bytes a with ⟨-, -, none⟩ | ⟨-, one⟩
  · rw [none, List.nil_append] at pre
    exact .inr ⟨s.written a, by rw [none, List.nil_append], own_cases _ pre⟩
  · rw [one, List.singleton_append, List.prefix_cons_iff] at pre
    rcases pre with nothing | ⟨own, isOwn, inside⟩
    · exact .inl nothing
    · exact .inr ⟨own, by rw [one, isOwn, List.singleton_append], own_cases own inside⟩

theorem whole_iff {own : List UInt8} (isWritten : s.written a = encodeUtf8 (s.lead a) ++ own) :
    s.Whole a ↔ encodeUtf8 (encodeJournalEntry a.entry) <+: own := by
  have leading : WellFormed (s.lead a) := by
    rcases s.lead_bytes a with ⟨-, none, -⟩ | ⟨one, -⟩
    · exact none ▸ .nil
    · exact one ▸ .unit rfl rfl .nil
  rw [Whole, isWritten, encodeUtf8_append leading, List.prefix_append_right_inj]

theorem ended_text (ended : Closed s.bytes) : Ended s.text := by
  rcases ended with empty | last
  · exact .inl (by rw [text, empty]; rfl)
  · obtain ⟨before, isBytes⟩ := List.getLast?_eq_some_iff.mp last
    exact .inr ⟨decodeUtf8 before, by rw [text, isBytes, decodeUtf8_newline]; rfl⟩

/-- Decoding what an append adds starts afresh. -/
theorem text_append_lead (own : List UInt8)
    (ended : s.takesTerminated a = true → Closed s.bytes) :
    decodeUtf8 (s.bytes ++ (encodeUtf8 (s.lead a) ++ own)) =
      s.text ++ (s.lead a ++ decodeUtf8 own) := by
  rcases s.lead_bytes a with ⟨takes, noUnits, noBytes⟩ | ⟨oneUnit, oneByte⟩
  · rw [noBytes, noUnits, List.nil_append, List.nil_append, text]
    rcases ended takes with empty | last
    · rw [empty]
      rfl
    · obtain ⟨before, isBytes⟩ := List.getLast?_eq_some_iff.mp last
      rw [isBytes, List.append_assoc, List.singleton_append, decodeUtf8_newline,
        decodeUtf8_newline, List.append_assoc]
      rfl
  · rw [oneByte, oneUnit, List.singleton_append, List.singleton_append, decodeUtf8_newline]
    rfl

/-- A line behind the lead is a line of its own. -/
theorem populated_lead {line : JsString} (one : newline ∉ line)
    (ended : s.takesTerminated a = true → Closed s.bytes) :
    ∃ index, populated (s.text ++ (s.lead a ++ line)) =
      populated s.text ++ populatedLine line index := by
  rcases s.lead_bytes a with ⟨takes, noUnits, -⟩ | ⟨oneUnit, -⟩
  · rw [noUnits, List.nil_append]
    exact populated_ended (ended_text (ended takes)) one
  · rw [oneUnit, List.singleton_append]
    exact ⟨_, populated_append_line s.text one⟩

/-- A part of the line that is not whole is on one line, and no entry. -/
theorem torn_line {entry : JournalEntry} {own : List UInt8}
    (inside : own <+: encodeUtf8 (encodeJournalEntry entry))
    (proper : own ≠ encodeUtf8 (encodeJournalEntry entry)) :
    newline ∉ decodeUtf8 own ∧ ∃ failure, decodeJournalEntry (decodeUtf8 own) = .error failure := by
  obtain ⟨wf, one⟩ := onOneLine_encode entry
  obtain ⟨before, after, isLine, some, isText⟩ := decodeUtf8_torn wf inside proper
  obtain ⟨fails, failsReplaced⟩ := decode_torn isLine some
  have oneBefore : newline ∉ before := by
    intro mem
    exact one (isLine ▸ List.mem_append_left after mem)
  rcases isText with isText | isText
  · exact ⟨isText ▸ oneBefore, isText ▸ fails⟩
  · refine ⟨?_, isText ▸ failsReplaced⟩
    rw [isText, List.mem_append, List.mem_singleton]
    rintro (mem | eq)
    · exact oneBefore mem
    · exact absurd eq (by decide)

theorem not_whole_nil (nothing : s.written a = []) : ¬ s.Whole a := by
  intro whole
  rw [Whole, nothing, List.prefix_nil] at whole
  have text := congrArg decodeUtf8 whole
  rcases s.lead_bytes a with ⟨-, none, -⟩ | ⟨one, -⟩
  · rw [none, List.nil_append, decodeUtf8_encodeUtf8 (onOneLine_encode a.entry).1] at text
    have blank := congrArg List.head? text
    cases blank
  · rw [one, List.singleton_append, encodeUtf8_unit (by decide) (by decide)] at whole
    cases whole

/-- A line that was not written whole is on one line, and no entry. -/
theorem ownLine_torn (torn : ¬ s.Whole a) :
    newline ∉ s.ownLine a ∧ ∃ failure, decodeJournalEntry (s.ownLine a) = .error failure := by
  rw [ownLine, if_neg torn]
  rcases s.written_cases a with nothing | ⟨own, isWritten, part⟩
  · rw [nothing, List.drop_nil]
    exact ⟨by decide, .empty, rfl⟩
  · rw [whole_iff isWritten] at torn
    rw [isWritten, List.drop_left]
    rcases part with inside | rfl
    · exact torn_line inside fun eq => torn (eq ▸ List.prefix_refl _)
    · exact absurd (List.prefix_append _ _) torn

/-- An append adds one line at most, its own. -/
theorem populated_appendNow (sound : s.Sound a) :
    ∃ index, populated (s.appendNow a).text =
      populated s.text ++ populatedLine (s.ownLine a) index := by
  have isText : (s.appendNow a).text = decodeUtf8 (s.bytes ++ s.written a) := by
    rw [appendNow, text, bytes]
    split <;> simp_all [written, bytes]
  rw [isText]
  by_cases nothing : s.written a = []
  · refine ⟨0, ?_⟩
    rw [ownLine, if_neg (not_whole_nil nothing), nothing, List.append_nil, List.drop_nil]
    exact (List.append_nil _).symm
  · obtain nothing' | ⟨own, isWritten, part⟩ := s.written_cases a
    · exact absurd nothing' nothing
    have ended := sound nothing
    rw [isWritten, text_append_lead own ended]
    rcases part with inside | rfl
    · have isOwn : s.ownLine a = decodeUtf8 own := by
        rw [ownLine, isWritten, List.drop_left]
        split_ifs with whole
        · have all := inside.eq_of_length_le ((whole_iff isWritten).mp whole).length_le
          rw [all, decodeUtf8_encodeUtf8 (onOneLine_encode a.entry).1]
        · rfl
      have one : newline ∉ decodeUtf8 own := by
        by_cases whole : s.Whole a
        · rw [← isOwn, ownLine, if_pos whole]
          exact (onOneLine_encode a.entry).2
        · exact isOwn ▸ (ownLine_torn whole).1
      rw [isOwn]
      exact populated_lead one ended
    · have whole : s.Whole a := (whole_iff isWritten).mpr (List.prefix_append _ _)
      obtain ⟨wf, one⟩ := onOneLine_encode a.entry
      have isOwn : decodeUtf8 (encodeUtf8 (encodeJournalEntry a.entry) ++ [0x0A]) =
          encodeJournalEntry a.entry ++ [newline] := decodeUtf8_encodeUtf8_append wf [0x0A]
      rw [isOwn, ← List.append_assoc (s.lead a), ← List.append_assoc s.text,
        populated_terminator, ownLine, if_pos whole]
      exact populated_lead one ended

end Store

/-! ### Whole runs -/

namespace Store

/-- No append of the run takes an unfinished line for a finished one, and what is
written whole can be read. -/
def SoundRun : Store → List JournalEvent → Prop
  | _, [] => True
  | s, .append a :: events =>
    s.Sound a ∧ (s.Whole a → a.entry.Writable) ∧ (s.appendNow a).SoundRun events
  | s, .restart :: events => (s.step .restart).SoundRun events

/-- The entries whose line the run writes whole. -/
def stored : Store → List JournalEvent → List JournalEntry
  | _, [] => []
  | s, .append a :: events => (if s.Whole a then [a.entry] else []) ++ (s.appendNow a).stored events
  | s, .restart :: events => (s.step .restart).stored events

/-- What the run leaves to read of lines it does not write whole. -/
def torn : Store → List JournalEvent → List JsString
  | _, [] => []
  | s, .append a :: events =>
    (if s.Whole a then [] else [s.ownLine a]) ++ (s.appendNow a).torn events
  | s, .restart :: events => (s.step .restart).torn events

end Store

/-- The entries whose append resolves. -/
def resolved (events : List JournalEvent) : List JournalEntry :=
  events.filterMap fun
    | .append a => if a.fate = .resolves then some a.entry else none
    | .restart => none

namespace Store

theorem whole_of_resolves {s : Store} {a : Attempt} (resolves : a.fate = .resolves) :
    s.Whole a := by
  rw [Whole, written, resolves]
  have leading : WellFormed (s.lead a ++ encodeJournalEntry a.entry) := by
    rcases s.lead_bytes a with ⟨-, none, -⟩ | ⟨one, -⟩
    · rw [none]
      exact (onOneLine_encode a.entry).1
    · rw [one]
      exact .unit rfl rfl (onOneLine_encode a.entry).1
  rw [line, encodeUtf8_append leading]
  exact List.prefix_append _ _

/-- An entry whose append resolves is among those written whole, in the order of the appends. -/
theorem resolved_sublist (s : Store) (events : List JournalEvent) :
    (resolved events).Sublist (s.stored events) := by
  induction events generalizing s with
  | nil => exact .slnil
  | cons event events ih =>
    cases event with
    | restart => exact ih _
    | append a =>
      have rest := ih (s.appendNow a)
      rw [stored, resolved, List.filterMap_cons]
      by_cases resolves : a.fate = .resolves
      · simp only [resolves, if_true, if_pos (whole_of_resolves resolves)]
        exact rest.cons_cons _
      · simp only [resolves, if_false]
        exact rest.trans (List.sublist_append_right _ _)

theorem lineEntries_append (lines more : List JsString) :
    lineEntries (lines ++ more) = lineEntries lines ++ lineEntries more :=
  List.filterMap_append

theorem lineEntries_populatedLine (line : JsString) (index : Nat) :
    lineEntries ((populatedLine line index).map Prod.fst) = lineEntries [line] := by
  rw [populatedLine]
  split_ifs with blank
  · simp [lineEntries, decodeJournalEntry, blank, Except.toOption]
  · rfl

theorem lineEntries_encode {entry : JournalEntry} (writable : entry.Writable) :
    lineEntries [encodeJournalEntry entry] = [entry] := by
  simp [lineEntries, decode_encode writable, Except.toOption]

/-- What one append adds to the entries of the file. -/
theorem journaled_appendNow {s : Store} {a : Attempt} (sound : s.Sound a) :
    (decodeJournalText (s.appendNow a).text).journaled =
      (decodeJournalText s.text).journaled ++
        if s.Whole a then lineEntries [encodeJournalEntry a.entry] else [] := by
  obtain ⟨index, isText⟩ := populated_appendNow sound
  rw [decodeJournalText_journaled, decodeJournalText_journaled, isText, List.map_append,
    lineEntries_append, lineEntries_populatedLine]
  congr 1
  split_ifs with whole
  · rw [ownLine, if_pos whole]
  · obtain ⟨-, failure, fails⟩ := ownLine_torn whole
    simp [lineEntries, fails, Except.toOption]

/-- Every line of the file after one append was there, or is the entry's own. -/
theorem mem_populated_appendNow {s : Store} {a : Attempt} (sound : s.Sound a)
    {line : JsString × Nat} (mem : line ∈ populated (s.appendNow a).text) :
    line ∈ populated s.text ∨ line.1 = s.ownLine a := by
  obtain ⟨index, isText⟩ := populated_appendNow sound
  rw [isText, List.mem_append, populatedLine] at mem
  refine mem.imp_right fun own => ?_
  split_ifs at own with blank
  · simp at own
  · rw [List.mem_singleton.mp own]

/-- What a run adds to the entries of the file. -/
theorem journaled_after {s : Store} {events : List JournalEvent} (sound : s.SoundRun events) :
    (decodeJournalText (s.after events).text).journaled =
      (decodeJournalText s.text).journaled ++ s.stored events := by
  induction events generalizing s with
  | nil => exact (List.append_nil _).symm
  | cons event events ih =>
    cases event with
    | restart => exact ih sound
    | append a =>
      obtain ⟨ended, writable, rest⟩ := sound
      have first := journaled_appendNow ended
      have later : (decodeJournalText (s.after (.append a :: events)).text).journaled =
        (decodeJournalText (s.appendNow a).text).journaled ++ (s.appendNow a).stored events :=
        ih rest
      rw [later, first, stored, List.append_assoc]
      by_cases whole : s.Whole a
      · rw [if_pos whole, if_pos whole, lineEntries_encode (writable whole)]
      · rw [if_neg whole, if_neg whole]

/-- Every line of the file after a run was there, or can be read, or was torn. -/
theorem mem_populated_after {s : Store} {events : List JournalEvent} (sound : s.SoundRun events)
    {line : JsString × Nat} (mem : line ∈ populated (s.after events).text) :
    line ∈ populated s.text ∨ (∃ entry, decodeJournalEntry line.1 = .ok entry) ∨
      line.1 ∈ s.torn events := by
  induction events generalizing s with
  | nil => exact .inl mem
  | cons event events ih =>
    cases event with
    | restart => exact ih sound mem
    | append a =>
      obtain ⟨ended, writable, rest⟩ := sound
      rw [torn, List.mem_append]
      rcases ih rest mem with before | reads | isTorn
      · refine (mem_populated_appendNow ended before).imp_right fun own => ?_
        by_cases whole : s.Whole a
        · rw [ownLine, if_pos whole] at own
          exact .inl ⟨a.entry, own ▸ decode_encode (writable whole)⟩
        · exact .inr (.inl (by simp [whole, own]))
      · exact .inr (.inl reads)
      · exact .inr (.inr (.inr isTorn))

/-! ### The cached flag -/

/-- The cached flag is right about the file, if it is set. -/
def FlagRight (s : Store) : Prop := s.terminated = some true → Closed s.bytes

theorem probeTerminated_closed {file : Option (List UInt8)}
    (found : probeTerminated true file = true) : Closed (file.getD []) := by
  cases file with
  | none => exact .inl rfl
  | some bytes =>
    rcases List.eq_nil_or_concat bytes with empty | ⟨before, last, rfl⟩
    · exact .inl empty
    · refine .inr ?_
      simpa [probeTerminated] using found

theorem takesTerminated_closed {s : Store} {a : Attempt} (right : s.FlagRight)
    (opens : a.opens = true) (takes : s.takesTerminated a = true) : Closed s.bytes := by
  rw [takesTerminated, opens] at takes
  cases known : s.terminated with
  | none => exact probeTerminated_closed (by simpa [known] using takes)
  | some => exact right (by simpa [known] using takes)

theorem sound_of_flagRight {s : Store} {a : Attempt} (right : s.FlagRight)
    (opens : a.opens = true) : s.Sound a :=
  fun _ => takesTerminated_closed right opens

theorem flagRight_resolves {s : Store} {a : Attempt} (resolves : a.fate = .resolves) :
    (s.appendNow a).FlagRight := by
  intro _
  refine .inr ?_
  rw [appendNow, resolves]
  simp [bytes, written, resolves, line_bytes]

/-! ### Durability -/

/-- Reading the file after a run yields, in order, the entries that were there and
those whose line was written whole, with every entry whose append resolved among
them. Damage is reported where it was before the run, and for lines that a
failed append tore. -/
theorem journal_durability {s : Store} {events : List JournalEvent} (sound : s.SoundRun events) :
    (decodeJournalText (s.after events).text).journaled =
        (decodeJournalText s.text).journaled ++ s.stored events ∧
      (resolved events).Sublist (s.stored events) ∧
      ∀ record ∈ (decodeJournalText (s.after events).text).damage,
        (∃ raw index, DamagedLine record raw index ∧
          ∃ earlier ∈ (decodeJournalText s.text).damage, DamagedLine earlier raw index) ∨
        ∃ raw ∈ s.torn events, ∃ index, DamagedLine record raw index := by
  refine ⟨journaled_after sound, s.resolved_sublist events, fun record mem => ?_⟩
  obtain ⟨line, inside, damaged⟩ := mem_decodeLines_damage mem
  rcases mem_populated_after sound inside with before | ⟨entry, decodes⟩ | isTorn
  · obtain ⟨there, some⟩ := List.mem_filter.mp before
    obtain ⟨earlier, isEarlier, same⟩ := exists_damage_of_mem there (by simpa using some)
      damaged.failure
    exact .inl ⟨line.1, line.2, damaged, earlier, isEarlier, same⟩
  · rw [damaged.failure] at decodes
    cases decodes
  · exact .inr ⟨line.1, isTorn, line.2, damaged⟩

/-- A started reset. -/
def resetEntry (operationId : JsString) : JournalEntry where
  operationId
  physicalModemId := js "modem:imei:350000000000001"
  generation := 1
  recordedAtMs := 1000
  descriptor := ⟨js "usb.reset", js "modem-manager", .provider, .disruptive, [], [], .high⟩
  phase := .started

/-- A file that ends inside a line. -/
def tornStore : Store := ⟨some (encodeUtf8 (js "\x7b\"schema")), none⟩

/-- The second append is cut off by a crash; the next store closes what it left. -/
def restartedRun : List JournalEvent := [
  .append ⟨resetEntry (js "op-1"), true, .resolves⟩,
  .append ⟨resetEntry (js "op-2"), true, .writeStops 40⟩,
  .restart,
  .append ⟨resetEntry (js "op-3"), true, .resolves⟩]

theorem resetEntry_writable {operationId : JsString} (some : operationId ≠ []) :
    (resetEntry operationId).Writable where
  operationId := some
  physicalModemId := List.cons_ne_nil _ _
  generation := (by decide : 1 < 2 ^ 53)
  recordedAtMs := (by decide : 1000 < 2 ^ 53)
  descriptorId := List.cons_ne_nil _ _
  provider := List.cons_ne_nil _ _
  outcome := by rintro _ ⟨⟩

theorem journal_durability_restarted :
    (decodeJournalText (tornStore.after restartedRun).text).journaled =
      [resetEntry (js "op-1"), resetEntry (js "op-3")] := by
  have writable : ∀ n, (resetEntry (js "op-" ++ [n])).Writable :=
    fun n => resetEntry_writable (List.cons_ne_nil _ _)
  have sound : tornStore.SoundRun restartedRun := by
    have fresh : tornStore.FlagRight := nofun
    refine ⟨sound_of_flagRight fresh rfl, fun _ => writable _,
      sound_of_flagRight (flagRight_resolves rfl) rfl, fun _ => writable _, ?_⟩
    exact ⟨sound_of_flagRight nofun rfl, fun _ => writable _, trivial⟩
  rw [(journal_durability sound).1]
  decide +kernel

/-- The first append stops after one byte, and the store goes on taking the file for
terminated. -/
def gluedRun : List JournalEvent := [
  .append ⟨resetEntry (js "op-1"), true, .writeStops 1⟩,
  .append ⟨resetEntry (js "op-2"), true, .resolves⟩]

/-- The second line is glued to the torn one: its append resolves and its entry is
lost. -/
theorem journal_durability_fails :
    (∀ entry ∈ resolved gluedRun, entry.Writable) ∧
      ¬ (resolved gluedRun).Sublist
        (decodeJournalText (Store.after ⟨some [], none⟩ gluedRun).text).journaled := by
  refine ⟨fun entry mem => ?_, by decide +kernel⟩
  have isEntry : entry = resetEntry (js "op-2") := by simpa [resolved, gluedRun] using mem
  exact isEntry ▸ resetEntry_writable (by decide)

end Store

end ModemStack.Journal
