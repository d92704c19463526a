import ModemStack.ZteGoform.Session

/-!
When a login is sent to a ZTE device.

The device locks itself after too many rejected logins. A login that is sent on evidence read since
the one before was answered is sent to a device that is not locked; the runtime, however, takes what
its cache holds.
-/

namespace ModemStack.ZteGoform

open ModemStack.Async ModemStack.Async.Program ModemStack.Providers
open ModemStack.Text

abbrev ZteLoop (ε : Type) : Type :=
  EventLoop ZteShared ZteUse ZteCall ZteCall.Answer ε ZteOutcome

abbrev ZteTurn (ε : Type) : Type := Turn ZteUse ZteCall ZteCall.Answer ε

theorem ZteDevice.relaxes_refl (device : ZteDevice) : device.Relaxes device :=
  ⟨Nat.le_refl _, Nat.le_refl _⟩

theorem ZteDevice.Relaxes.trans {first second third : ZteDevice} (later : third.Relaxes second)
    (earlier : second.Relaxes first) : third.Relaxes first :=
  ⟨Nat.le_trans earlier.1 later.1, Nat.le_trans later.2 earlier.2⟩

/-- What the evidence shows is what the device reported. -/
def ZteEvidence.Truthful (evidence : ZteEvidence) : Prop :=
  ∀ remaining lockTime, evidence.remainingAttempts = some remaining →
    evidence.lockTime = some lockTime → evidence.reported = some ⟨remaining, lockTime⟩

namespace ZteGoformProvider

open ZteSessionRuntime

variable {ε : Type}

/-- What any calls and answers lead to from the start. -/
def run (self : ZteOptions) (device : ZteDevice) (turns : List (ZteTurn ε)) : ZteLoop ε :=
  EventLoop.run (body self) ⟨.new device, []⟩ turns

/-! ### The device -/

/-- The counters in a reply. -/
def counters (response : ZteHttpResponse) : Option ZteDevice := do
  let record ← parseZteRecord response.body
  let remaining ← evidenceNumber (record (js "psw_fail_num_str"))
  let lockTime ← evidenceNumber (record (js "login_lock_time"))
  some ⟨remaining, lockTime⟩

/-- The counters in the reply are those that the device reported. -/
def Truthful (ask : Ask) (response : ZteHttpResponse) : Prop :=
  ∀ device ∈ counters response, ask.reported = some device

instance (ask : Ask) (response : ZteHttpResponse) : Decidable (Truthful ask response) :=
  inferInstanceAs (Decidable (∀ device ∈ counters response, ask.reported = some device))

/-- The device takes attempts away and locks itself only while a login is under way, and reports
what is so. -/
def Honest (loop : ZteLoop ε) : ZteTurn ε → Prop
  | .start (.device next) => next.Relaxes loop.shared.device ∨ loop.shared.unanswered ≠ []
  | .start _ => True
  | .resume task answer =>
    match loop.pending task with
    | some (.evidence request) =>
      match answer (.evidence request) with
      | .ok response => Truthful (loop.shared.asks task) response
      | .error _ => True
    | _ => True

instance (loop : ZteLoop ε) (turn : ZteTurn ε) : Decidable (Honest loop turn) := by
  unfold Honest
  split
  · infer_instance
  · infer_instance
  · split
    · split <;> infer_instance
    · infer_instance

/-! ### The property -/

/-- The login was sent on evidence that was read after the login before it was answered and showed
remaining attempts and no lock, and to a device that was not locked. -/
structure Careful (login : LoginSent) : Prop where
  fresh : login.evidence.readAt = some login.before
  remaining : ∃ n, login.evidence.remainingAttempts = some n ∧ 0 < n
  noLock : login.evidence.lockTime = some 0
  unlocked : ¬ login.device.Locked

/-- A login is sent on the evidence for these candidates. -/
def loginDue (evidence : ZteEvidence) (candidates : List JsString) : Bool :=
  (ZteSessionRuntime.soleProfile candidates).any fun profile => (loginPlan evidence profile).sends

/-- Evidence that a login is due on was read after every login sent so far had been answered. -/
def FreshFor (s : ZteShared) (evidence : ZteEvidence) (candidates : List JsString) : Prop :=
  loginDue evidence candidates → evidence.readAt = some s.logins.length

instance (s : ZteShared) (evidence : ZteEvidence) (candidates : List JsString) :
    Decidable (FreshFor s evidence candidates) :=
  inferInstanceAs (Decidable (_ → _))

/-- The evidence that `authenticateProfile` takes, from the cache or from its own read, is fresh. -/
def Fresh (loop : ZteLoop ε) : ZteTurn ε → Prop
  | .start (.authenticateProfile request candidates) =>
    match loop.shared.evidence (sessionKey request) with
    | some evidence => FreshFor loop.shared evidence candidates
    | none => True
  | .start _ => True
  | .resume task _ =>
    match loop.tasks[task]?.map Prod.fst, loop.pending task with
    | some (.authenticateProfile _ candidates), some (.returned (some evidence)) =>
      FreshFor loop.shared evidence candidates
    | _, _ => True

instance (loop : ZteLoop ε) (turn : ZteTurn ε) : Decidable (Fresh loop turn) := by
  unfold Fresh
  split
  · split <;> infer_instance
  · infer_instance
  · split <;> infer_instance

/-! ### The invariant -/

/-- With these logins sent, these unanswered and such a device: unless a login was sent since the
read, the device has at most relaxed since it reported. -/
structure Current (sent : Nat) (unanswered : List Nat) (device : ZteDevice) (readAt : Option Nat)
    (reported : Option ZteDevice) : Prop where
  past : ∀ n, readAt = some n → n ≤ sent
  quiet : readAt = some sent → unanswered = []
  relaxes : readAt = some sent → ∀ before, reported = some before → device.Relaxes before

/-- A read is current. -/
abbrev CurrentIn (s : ZteShared) : Option Nat → Option ZteDevice → Prop :=
  Current s.logins.length s.unanswered s.device

structure Sound (s : ZteShared) : Prop where
  asks : ∀ task, CurrentIn s (s.asks task).readAt (s.asks task).reported
  known : ∀ evidence ∈ s.known, evidence.Truthful ∧ CurrentIn s evidence.readAt evidence.reported
  cached : ∀ key evidence, s.evidence key = some evidence → evidence ∈ s.known
  careful : ∀ login ∈ s.logins, Careful login

theorem sound_new (device : ZteDevice) : Sound (.new device) :=
  ⟨fun _ => ⟨nofun, nofun, nofun⟩, nofun, nofun, nofun⟩

section Steps

variable {s : ZteShared}

theorem Sound.ask (sound : Sound s) (task : Nat) : Sound (s.ask task) := by
  refine ⟨fun other => ?_, sound.known, sound.cached, sound.careful⟩
  simp only [ZteShared.ask]
  by_cases same : other = task
  · subst same
    rw [Function.update_self]
    by_cases quiet : s.unanswered = []
    · rw [if_pos quiet]
      exact ⟨fun n isAt => Nat.le_of_eq (Option.some.inj isAt).symm, fun _ => quiet, nofun⟩
    · rw [if_neg quiet]
      exact ⟨nofun, nofun, nofun⟩
  · rw [Function.update_of_ne same]
    exact sound.asks other

theorem Sound.report (sound : Sound s) (task : Nat) : Sound (s.report task) := by
  refine ⟨fun other => ?_, sound.known, sound.cached, sound.careful⟩
  simp only [ZteShared.report]
  by_cases same : other = task
  · subst same
    rw [Function.update_self]
    refine ⟨(sound.asks other).past, (sound.asks other).quiet, ?_⟩
    rintro - before ⟨⟩
    exact ZteDevice.relaxes_refl _
  · rw [Function.update_of_ne same]
    exact sound.asks other

/-- The device changes, and no more than relaxes while no login is under way. -/
theorem Sound.device (sound : Sound s) {next : ZteDevice}
    (honest : next.Relaxes s.device ∨ s.unanswered ≠ []) : Sound { s with device := next } := by
  have current {readAt : Option Nat} {reported : Option ZteDevice}
      (current : CurrentIn s readAt reported) :
      Current s.logins.length s.unanswered next readAt reported := by
    refine ⟨current.past, current.quiet, fun isAt before isReported => ?_⟩
    rcases honest with relaxes | inFlight
    · exact relaxes.trans (current.relaxes isAt before isReported)
    · exact absurd (current.quiet isAt) inFlight
  exact ⟨fun task => current (sound.asks task),
    fun evidence mem => ⟨(sound.known evidence mem).1, current (sound.known evidence mem).2⟩,
    sound.cached, sound.careful⟩

variable {evidence : ZteEvidence}

theorem Sound.learn (sound : Sound s) (truthful : evidence.Truthful)
    (current : CurrentIn s evidence.readAt evidence.reported) (key : JsString) :
    Sound (s.learn key evidence) := by
  refine ⟨sound.asks, List.forall_mem_cons.mpr ⟨⟨truthful, current⟩, sound.known⟩, ?_,
    sound.careful⟩
  intro other known isKnown
  simp only [ZteShared.learn] at isKnown
  by_cases same : other = key
  · subst same
    rw [Function.update_self] at isKnown
    cases isKnown
    exact List.mem_cons_self
  · rw [Function.update_of_ne same] at isKnown
    exact List.mem_cons_of_mem _ (sound.cached other known isKnown)

/-- After a login every read is in the past. -/
theorem Sound.send (sound : Sound s) (careful : Careful ⟨evidence, s.logins.length, s.device⟩)
    (task : Nat) : Sound (s.send task evidence) := by
  have current {readAt : Option Nat} {reported : Option ZteDevice}
      (current : CurrentIn s readAt reported) :
      Current (s.logins.length + 1) (task :: s.unanswered) s.device readAt reported := by
    have differs : readAt ≠ some (s.logins.length + 1) := by
      intro isAt
      have le := current.past _ isAt
      omega
    exact ⟨fun n isAt => Nat.le_succ_of_le (current.past n isAt), fun isAt => absurd isAt differs,
      fun isAt => absurd isAt differs⟩
  refine ⟨fun other => current (sound.asks other), ?_, sound.cached, ?_⟩
  · intro other mem
    exact ⟨(sound.known other mem).1, current (sound.known other mem).2⟩
  · exact List.forall_mem_cons.mpr ⟨careful, sound.careful⟩

theorem Sound.answer (sound : Sound s) (task : Nat) : Sound (s.answer task) := by
  have current {readAt : Option Nat} {reported : Option ZteDevice}
      (current : CurrentIn s readAt reported) :
      Current s.logins.length (s.unanswered.filter (· ≠ task)) s.device readAt reported := by
    refine ⟨current.past, fun isAt => ?_, current.relaxes⟩
    rw [current.quiet isAt]
    rfl
  exact ⟨fun other => current (sound.asks other),
    fun evidence mem => ⟨(sound.known evidence mem).1, current (sound.known evidence mem).2⟩,
    sound.cached, sound.careful⟩

theorem Sound.logIn (sound : Sound s) (key : JsString) (session : ZteSession) :
    Sound (s.logIn key session) :=
  ⟨sound.asks, sound.known, sound.cached, sound.careful⟩

/-- A login that is due on fresh evidence is careful. -/
theorem Sound.due (sound : Sound s) (isKnown : evidence ∈ s.known) {profile : ZteProfile}
    (sends : (loginPlan evidence profile).sends) (fresh : evidence.readAt = some s.logins.length) :
    Careful ⟨evidence, s.logins.length, s.device⟩ := by
  obtain ⟨truthful, current⟩ := sound.known evidence isKnown
  unfold loginPlan at sends
  split at sends
  · next remaining lockTime isRemaining isLockTime =>
    split at sends
    · cases sends
    · next unlocked =>
      have relaxes :=
        current.relaxes fresh _ (truthful remaining lockTime isRemaining isLockTime)
      obtain ⟨noLock, some⟩ := not_or.mp unlocked
      have positive := Nat.pos_of_ne_zero some
      obtain rfl := Nat.eq_zero_of_not_pos noLock
      refine ⟨fresh, ⟨remaining, isRemaining, positive⟩, isLockTime, ?_⟩
      have most : remaining ≤ s.device.remaining := relaxes.1
      have least : s.device.lockTime ≤ 0 := relaxes.2
      rintro (spent | locked)
      · exact absurd most (Nat.not_le_of_lt (by rw [show s.device.remaining = 0 from spent]; exact positive))
      · exact absurd locked (Nat.not_lt_of_le least)
  · cases sends

end Steps

/-! ### The contracts -/

/-- The answers that the device and the condition allow. -/
def fair (task : Nat) (use : ZteUse) (s : ZteShared) (op : ZteCall) (answer : Except ε op.Answer) :
    Prop :=
  match op, answer with
  | .evidence _, .ok response => Truthful (s.asks task) response
  | .returned (some evidence), _ => ∀ request candidates,
      use = .authenticateProfile request candidates → FreshFor s evidence candidates
  | _, _ => True

/-- What has been read stays read. -/
def discipline : Discipline ZteShared ZteUse ZteCall ZteCall.Answer ε ZteOutcome where
  invariant := Sound
  fresh _ _ := True
  contract task use :=
    { rely := fun s s' => s.known ⊆ s'.known
      guarantee := fun s s' => s.known ⊆ s'.known
      fair := fair task use
      call := fun _ _ => True }
  done _ _ _ _ := True

theorem discipline_lawful : (discipline : Discipline _ _ _ _ ε _).Lawful where
  refl _ _ _ := List.Subset.refl _
  trans _ _ _ _ _ first second := List.Subset.trans first second
  others _ _ _ _ _ _ _ guarantee := guarantee
  fresh _ _ _ _ _ _ _ _ := trivial

/-- In a turn of a task that holds some evidence. -/
structure Within (held : List ZteEvidence) (begun s : ZteShared) : Prop where
  sound : Sound s
  grows : begun.known ⊆ s.known
  holds : held ⊆ s.known

section Meets

variable {task : Nat} {use : ZteUse} {held : List ZteEvidence} {begun s : ZteShared}
  {self : ZteOptions}

/-- A turn that ends in an await. -/
theorem Within.rests (within : Within held begun s) (task : Nat) (use : ZteUse) :
    (discipline.contract task use : Contract _ _ _ ε).Rests Sound begun s fun now =>
      Within held now now where
  invariant := within.sound
  guarantee := within.grows
  later _ relies sound := ⟨sound, List.Subset.refl _, List.Subset.trans within.holds relies⟩

theorem Within.ends (within : Within held begun s) :
    (discipline.contract task use : Contract _ _ _ ε).Rests Sound begun s fun _ => True :=
  ⟨within.sound, within.grows, fun _ _ _ => trivial⟩

theorem meets_read (within : Within held begun s) (request : ZteHttpRequest) :
    (perform (ZteCall.read request) : ZteTask ε _).Meets Sound (discipline.contract task use)
      (fun _ begun s => Within held begun s) begun s := by
  have rest := within.rests (ε := ε) task use
  exact meets_perform.mpr { rest with later := fun now relies inv =>
    ⟨trivial, fun _ _ => rest.later now relies inv⟩ }

/-- What is read is known, and true. -/
theorem meets_probed (within : Within [] begun s) (request : ProviderMatchRequest) :
    (probed self task request : ZteTask ε _).Meets Sound (discipline.contract task use)
      (fun outcome begun s => Within [] begun s ∧ ∀ evidence, outcome = .ok (some evidence) →
        Within [evidence] begun s ∧ ∀ request candidates,
          use = .authenticateProfile request candidates → FreshFor s evidence candidates)
      begun s := by
  have asked : Within [] begun (s.ask task) :=
    ⟨within.sound.ask task, within.grows, List.nil_subset _⟩
  simp only [probed, meets_bind, meets_attempt, probeEvidence, meets_monad_bind, meets_modify,
    onOutcome_ok]
  have rest := asked.rests (ε := ε) task use
  refine meets_perform.mpr { rest with later := fun now relies inv => ⟨trivial, ?_⟩ }
  intro answer truthful
  have within := rest.later now relies inv
  have fails {now : ZteShared} (within : Within [] now now) (op : ZteCall)
      (outcome : Except ε (Option ZteEvidence)) (none : ∀ evidence, outcome ≠ .ok (some evidence)) :
      (Program.await op fun _ => ofExcept outcome : ZteTask ε _).Meets Sound
        (discipline.contract task use)
        (fun outcome begun s => Within [] begun s ∧ ∀ evidence, outcome = .ok (some evidence) →
          Within [evidence] begun s ∧ ∀ request candidates,
            use = .authenticateProfile request candidates → FreshFor s evidence candidates)
        now now := by
    have rest := within.rests (ε := ε) task use
    refine { rest with later := fun now relies inv => ⟨trivial, fun answer _ => ?_⟩ }
    rw [meets_ofExcept]
    exact ⟨rest.later now relies inv, fun evidence same => absurd same (none evidence)⟩
  cases answer with
  | error => exact fails within _ _ (by simp)
  | ok response =>
    simp only [onOutcome_ok, meets_get]
    split
    · exact fails within _ _ (by simp)
    · next record isRecord =>
      have parses : parseZteRecord response.body = some record := by
        split at isRecord
        · exact isRecord
        · cases isRecord
      simp only [meets_monad_bind, meets_modify, onOutcome_ok, meets_pure]
      generalize isEvidence : (⟨record, _, _, _⟩ : ZteEvidence) = evidence
      have learned : Within [evidence] now (now.learn (sessionKey request) evidence) := by
        subst isEvidence
        refine ⟨within.sound.learn ?_ (within.sound.asks task) _, List.subset_cons_self _ _, ?_⟩
        · intro remaining lockTime isRemaining isLockTime
          refine truthful ⟨remaining, lockTime⟩ ?_
          simp only [ZteEvidence.remainingAttempts, ZteEvidence.lockTime] at isRemaining isLockTime
          simp [counters, parses, isRemaining, isLockTime]
        · exact List.cons_subset_cons _ (List.nil_subset _)
      have rest := learned.rests (ε := ε) task use
      refine { rest with later := fun now relies inv => ⟨trivial, fun answer fresh => ?_⟩ }
      have within := rest.later now relies inv
      rw [meets_ofExcept]
      refine ⟨⟨within.sound, within.grows, List.nil_subset _⟩, ?_⟩
      rintro _ ⟨⟩
      exact ⟨within, fresh⟩

variable {evidence : ZteEvidence}

/-- A login on fresh evidence, or none. -/
theorem meets_post (within : Within held begun s)
    (careful : Careful ⟨evidence, s.logins.length, s.device⟩)
    (fields : List (JsString × JsString)) :
    (post self task evidence fields : ZteTask ε _).Meets Sound (discipline.contract task use)
      (fun _ begun s => Within held begun s) begun s := by
  have sent : Within held begun (s.send task evidence) :=
    ⟨within.sound.send careful task, within.grows, within.holds⟩
  have rest := sent.rests (ε := ε) task use
  simp only [post, meets_monad_bind, meets_modify, onOutcome_ok]
  refine meets_settle.mpr { rest with later := fun now relies inv => ⟨trivial, fun answer _ => ?_⟩ }
  have within := rest.later now relies inv
  rw [onOutcome_ok, meets_ofExcept]
  exact ⟨within.sound.answer task, within.grows, within.holds⟩

theorem meets_login (within : Within held begun s)
    (careful : Careful ⟨evidence, s.logins.length, s.device⟩) (request : ProviderMatchRequest)
    (profile : ZteProfile) (password : JsString) :
    (login self task request profile evidence password : ZteTask ε _).Meets Sound
      (discipline.contract task use) (fun _ begun s => Within held begun s) begun s := by
  rw [login, meets_monad_bind]
  refine (meets_post within careful _).mono fun outcome begun s within => ?_
  cases outcome with
  | error => exact within
  | ok =>
    rw [onOutcome_ok]
    split
    · exact within
    · exact ⟨within.sound.logIn _ _, within.grows, within.holds⟩

theorem meets_loginSalted (within : Within held begun s)
    (careful : Careful ⟨evidence, s.logins.length, s.device⟩) (request : ProviderMatchRequest)
    (profile : ZteProfile) (ld : JsString) :
    (loginSalted self task request profile evidence ld : ZteTask ε _).Meets Sound
      (discipline.contract task use) (fun _ begun s => Within held begun s) begun s := by
  rw [loginSalted, meets_monad_bind]
  refine (meets_post within careful _).mono fun outcome begun s within => ?_
  cases outcome with
  | error => exact within
  | ok =>
    rw [onOutcome_ok]
    split
    · exact within
    · refine meets_monad_bind.mpr ((meets_read within _).mono fun outcome begun s within => ?_)
      cases outcome with
      | error => exact within
      | ok =>
        rw [onOutcome_ok]
        dsimp only
        split
        · exact ⟨within.sound.logIn _ _, within.grows, within.holds⟩
        · exact within

/-- What is sent on evidence that is fresh for the candidates. -/
theorem meets_authenticateOn (within : Within [evidence] begun s) (request : ProviderMatchRequest)
    {candidates : List JsString} {profile : ZteProfile}
    (isProfile : ZteSessionRuntime.soleProfile candidates = some profile)
    (fresh : FreshFor s evidence candidates) :
    (authenticateOn self task request profile evidence : ZteTask ε _).Meets Sound
      (discipline.contract task use) (fun _ begun s => Within [evidence] begun s) begun s := by
  have careful (sends : (loginPlan evidence profile).sends) :
      Careful ⟨evidence, s.logins.length, s.device⟩ :=
    within.sound.due (within.holds List.mem_cons_self) sends (fresh (by rw [loginDue, isProfile]; exact sends))
  unfold authenticateOn
  cases plan : loginPlan evidence profile with
  | refuse => exact within
  | legacy | salted => exact meets_login within (careful (by rw [plan]; rfl)) request profile _
  | multiUser ld => exact meets_loginSalted within (careful (by rw [plan]; rfl)) request profile ld

/-- The condition on the cache, for a call that is begun. -/
theorem meets_authenticateProfile (within : Within [] begun s) (request : ProviderMatchRequest)
    (candidates : List JsString) (isUse : use = .authenticateProfile request candidates)
    (fresh : ∀ evidence, s.evidence (sessionKey request) = some evidence →
      FreshFor s evidence candidates) :
    (authenticateProfile self task request candidates : ZteTask ε _).Meets Sound
      (discipline.contract task use) (fun _ begun s => Within [] begun s) begun s := by
  have drops {held : List ZteEvidence} {begun s : ZteShared} (within : Within held begun s) :
      Within [] begun s := ⟨within.sound, within.grows, List.nil_subset _⟩
  unfold authenticateProfile
  split
  · exact within
  · split
    · exact within
    · next profile isProfile =>
      rw [meets_monad_bind, meets_get, onOutcome_ok]
      split
      · next evidence isCached =>
        have holds : Within [evidence] begun s :=
          ⟨within.sound, within.grows, List.cons_subset.mpr
            ⟨within.sound.cached _ _ isCached, List.nil_subset _⟩⟩
        refine (meets_authenticateOn holds request isProfile (fresh evidence isCached)).mono ?_
        exact fun _ begun s within => drops within
      · rw [meets_monad_bind]
        refine (meets_probed within request).mono ?_
        rintro outcome begun s ⟨within, read⟩
        cases outcome with
        | error => exact within
        | ok found =>
          rw [onOutcome_ok]
          cases found with
          | none => exact within
          | some evidence =>
            obtain ⟨holds, fresh⟩ := read evidence rfl
            refine (meets_authenticateOn holds request isProfile
              (fresh request candidates isUse)).mono ?_
            exact fun _ begun s within => drops within

end Meets

/-! ### Runs -/

variable {self : ZteOptions}

theorem begins {loop : ZteLoop ε} (sound : Sound loop.shared) {use : ZteUse}
    (honest : Honest loop (.start use)) (fresh : Fresh loop (.start use)) (task : Nat) :
    (discipline : Discipline _ _ _ _ ε _).Begins (body self) task use loop.shared := by
  have within : Within [] loop.shared loop.shared :=
    ⟨sound, List.Subset.refl _, List.nil_subset _⟩
  -- The result of a function is only wrapped.
  have wrapped {α : Type} {p : ZteTask ε α} {wrap : α → ZteOutcome}
      (meets : p.Meets Sound (discipline.contract task use) (fun _ begun s => Within [] begun s)
        loop.shared loop.shared) :
      (p >>= fun value => pure (wrap value) : ZteTask ε _).Meets Sound
        (discipline.contract task use) (fun _ begun s =>
          (discipline.contract task use : Contract _ _ _ ε).Rests Sound begun s fun _ => True)
        loop.shared loop.shared := by
    rw [meets_monad_bind]
    refine meets.mono fun outcome begun s within => ?_
    cases outcome <;> exact within.ends
  cases use with
  | fingerprint request =>
    refine wrapped (meets_monad_bind.mpr ((meets_probed within request).mono ?_))
    rintro outcome begun s ⟨within, -⟩
    cases outcome with
    | error => exact within
    | ok found => cases found <;> exact within
  | authenticateProfile request candidates =>
    refine wrapped (meets_authenticateProfile within request candidates rfl ?_)
    intro evidence isCached
    simpa only [Fresh, isCached] using fresh
  | capability =>
    refine wrapped (meets_monad_bind.mpr ((meets_read within _).mono ?_))
    intro outcome begun s within
    cases outcome <;> exact within
  | observe =>
    refine wrapped ?_
    rw [observe, meets_monad_bind, meets_get, onOutcome_ok]
    refine meets_monad_bind.mpr ((meets_read within _).mono ?_)
    intro outcome begun s within
    cases outcome <;> exact within
  | device => exact Within.ends ⟨sound.device honest, List.Subset.refl _, within.holds⟩
  | report task => exact Within.ends ⟨sound.report task, List.Subset.refl _, within.holds⟩

/-- Whatever the calls, the answers and their order: where `authenticateProfile` takes fresh
evidence, every login is careful. -/
theorem careful_of_fresh (self : ZteOptions) (device : ZteDevice) (turns : List (ZteTurn ε))
    (allows : EventLoop.Allows (body self) (fun loop turn => Honest loop turn ∧ Fresh loop turn)
      ⟨.new device, []⟩ turns) :
    ∀ login ∈ (run self device turns).shared.logins, Careful login := by
  have kept : discipline.Kept (run self device turns) := by
    refine (Discipline.kept_empty (sound_new device) fun _ => trivial).run discipline_lawful ?_ ?_
      allows
    · intro loop use kept allowed
      exact begins kept.invariant allowed.1 allowed.2 _
    · intro loop task answer kept allowed use op next awaits
      have pending : loop.pending task = some op := by rw [EventLoop.pending, awaits]; rfl
      obtain ⟨honest, fresh⟩ := allowed
      simp only [Honest, pending] at honest
      change fair task use loop.shared op (answer op)
      cases op with
      | evidence request =>
        cases answered : answer (.evidence request) with
        | error => trivial
        | ok =>
          simp only [answered] at honest
          exact honest
      | login | read => trivial
      | returned evidence =>
        cases evidence with
        | none => trivial
        | some =>
          rintro request candidates rfl
          have used : loop.tasks[task]?.map Prod.fst =
              some (.authenticateProfile request candidates) := by rw [awaits]; rfl
          simpa only [Fresh, used, pending] using fresh
  exact kept.invariant.careful

end ZteGoformProvider

end ModemStack.ZteGoform
