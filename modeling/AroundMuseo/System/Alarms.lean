import AroundMuseo.Core.Phases
import AroundMuseo.System.Operations

/-!
# Alarms

What is still to be told of the failures of an operation, read off its answers one by one: a call
that throws has to be announced by a later message or thrown in the end, unless it is one of those
that the app keeps to itself.
-/

namespace AroundMuseo

open Async Firestore

/-- The calls that tell the user that something has failed. -/
def Call.announces : Call → Bool
  | .snackBar .warning _ _ | .snackBar .error _ _ => true
  | .snackBar .plain title _ => title = "Error"
  | _ => false

/-- `PlatformException`. -/
def Exn.isPlatform : Exn → Bool
  | .platform _ _ => true
  | _ => false

namespace AppOperation

/-- The operation signs in with Google to log in. -/
def isGoogleSignIn : AppOperation → Bool
  | googleSignIn => true
  | _ => false

/-- The operations that do not look at what the sign-in with Google has returned. -/
def goesOn : AppOperation → Bool
  | deleteUserAccount | resetEmailAddress => true
  | _ => false

/-- The operations that show the prompt of Google. -/
def prompts (op : AppOperation) : Bool := op.isGoogleSignIn || op.goesOn

/-- The operation logs out and does not wait for it. -/
def leaves : AppOperation → Bool
  | updateEmailAddress _ _ => true
  | _ => false

/-- The operation keeps it to itself that the call has thrown the exception: a connection that
cannot be checked, a prompt that fails in an unknown way, a record that cannot be read or is
brought up to date on the side, an account that is taken back, and a logout at the end. -/
def swallows (op : AppOperation) (c : Call) (e : Exn) : Bool :=
  match c with
  | .checkConnectivity => !op.isGoogleSignIn && e.isPlatform
  | .googleSignOut => op.leaves || op.prompts && !e.isMapped
  | .authSignOut => op.leaves
  | .googleSignIn | .googleAuthentication _ | .signInWithCredential _ | .setMerge _ _ _ =>
    !e.isMapped
  | .get .users _ => true
  | .update .users _ _ => op.redirects
  | .deleteUser _ => op.isGoogleSignIn
  | _ => false

end AppOperation

/-- What is still to be told of the failures so far: nothing, the last of them, or nothing because
the last one is kept quiet. It is wrong to announce that one. -/
inductive Alarm where
  | quiet | due | muted | wrong
  deriving DecidableEq

/-- Nothing is to be announced. -/
def Alarm.Free (a : Alarm) : Prop := a = .quiet ∨ a = .muted

/-- A failure. Where it makes no difference whether the prompt has failed, that is passed over. -/
def AppOperation.fail (op : AppOperation) (c : Call) (e : Exn) (a : Alarm) : Alarm :=
  if op.swallows c e then
    if op.goesOn then a else if a = .due then .wrong else .muted
  else .due

/-- The answer to a call. -/
def AppOperation.alarm (op : AppOperation) (a : Alarm) (ev : Event) : Alarm :=
  if a = .wrong then .wrong
  else if ev.call.announces then if a = .muted then .wrong else .quiet
  else match ev.reply with
    | .ok _ => a
    | .error e => op.fail ev.call e a

section Alarms

variable {op : AppOperation} {c : Call} {a : Alarm} {w : World} {e : Exn}

/-- A call that announces nothing and is answered changes nothing. -/
theorem alarm_answered (hc : c.announces = false) (v : Reply c) : op.alarm a ⟨w, c, .ok v⟩ = a := by
  simp only [AppOperation.alarm, hc]
  split
  · symm
    assumption
  · simp

/-- An announcement tells the failure that is due. -/
theorem alarm_announced (hc : c.announces = true) (ha : a = .quiet ∨ a = .due)
    (r : Except Exn (Reply c)) : op.alarm a ⟨w, c, r⟩ = .quiet := by
  rcases ha with rfl | rfl <;> simp [AppOperation.alarm, hc]

/-- A failure is due or kept quiet. -/
theorem alarm_failed (hc : c.announces = false) (ha : a ≠ .wrong) :
    op.alarm a ⟨w, c, .error e⟩ = op.fail c e a := by
  simp [AppOperation.alarm, hc, ha]

theorem ne_wrong_of_free (ha : a.Free) : a ≠ .wrong := by
  rcases ha with rfl | rfl <;> simp

/-- A failure that is to be announced. -/
theorem alarm_loud (hc : c.announces = false) (hloud : op.swallows c e = false) (ha : a ≠ .wrong) :
    op.alarm a ⟨w, c, .error e⟩ = .due := by
  rw [alarm_failed hc ha]
  simp [AppOperation.fail, hloud]

/-- A failure that is kept quiet. -/
theorem alarm_swallowed (hc : c.announces = false) (hquiet : op.swallows c e = true) (ha : a.Free) :
    (op.alarm a ⟨w, c, .error e⟩).Free ∧
      (op.goesOn = true → op.alarm a ⟨w, c, .error e⟩ = a) := by
  rw [alarm_failed hc (ne_wrong_of_free ha)]
  have hdue : a ≠ .due := by rcases ha with rfl | rfl <;> simp
  simp only [AppOperation.fail, hquiet, if_true, if_neg hdue]
  split
  case isTrue => exact ⟨ha, fun _ => rfl⟩
  case isFalse hgoes => exact ⟨.inr rfl, fun h => absurd h hgoes⟩

/-- Nothing that is waited for announces a failure. -/
theorem announces_of_awaited (hc : c.awaited = true) : c.announces = false := by
  cases c <;> first | rfl | cases hc

end Alarms

section Traces

variable {op : AppOperation} {ev : Event} {tr : List Event}

/-- What was wrong stays wrong. -/
theorem foldl_alarm_wrong : tr.foldl op.alarm .wrong = .wrong := by
  induction tr with
  | nil => rfl
  | cons ev tr ih => exact ih

/-- Until something is announced, a failure stays to be told. -/
theorem foldl_alarm_due (h : ∀ ev ∈ tr, ev.call.announces = false) :
    tr.foldl op.alarm .due = .due ∨ tr.foldl op.alarm .due = .wrong := by
  induction tr with
  | nil => exact .inl rfl
  | cons ev tr ih =>
    obtain ⟨hev, htr⟩ := List.forall_mem_cons.mp h
    obtain ⟨w, c, e | v⟩ := ev
    · rw [List.foldl_cons, alarm_failed hev (by simp), AppOperation.fail]
      split
      · split
        · exact ih htr
        · exact .inr foldl_alarm_wrong
      · exact ih htr
    · rw [List.foldl_cons, alarm_answered hev]
      exact ih htr

/-- After a failure that is kept quiet nothing is announced unless something else fails. -/
theorem foldl_alarm_muted (h : AllAnswered tr) : tr.foldl op.alarm .muted = .wrong ∨
    tr.foldl op.alarm .muted = .muted ∧ ∀ ev ∈ tr, ev.call.announces = false := by
  induction tr with
  | nil => exact .inr ⟨rfl, List.forall_mem_nil _⟩
  | cons ev tr ih =>
    obtain ⟨hev, htr⟩ := allAnswered_cons.mp h
    obtain ⟨w, c, e | v⟩ := ev
    · obtain ⟨v, hv⟩ := hev
      cases hv
    · rw [List.foldl_cons]
      cases hannounces : c.announces with
      | true =>
        have hwrong : op.alarm .muted ⟨w, c, .ok v⟩ = .wrong := by
          simp [AppOperation.alarm, hannounces]
        rw [hwrong]
        exact .inl foldl_alarm_wrong
      | false =>
        rw [alarm_answered hannounces]
        exact (ih htr).imp_right fun h => ⟨h.1, List.forall_mem_cons.mpr ⟨hannounces, h.2⟩⟩

end Traces

/-- The answers to the calls of an operation as a monitor reads them. -/
def AppOperation.monitor (op : AppOperation) : Monitor Reply World Exn Alarm where
  first := .quiet
  next := op.alarm
  allowed _ _ := True

/-- From `a` the program leads to where `Q` holds, on every platform on which the calls wait that
may fail, or fewer. -/
def Watched {α : Type} (op : AppOperation) (p : App α) (Q : Except Exn α → Alarm → Prop)
    (a : Alarm) : Prop :=
  ∀ P : Async.Platform Reply World, (∀ c, P.awaited c = true → c.awaited = true) → ∀ w,
    p.Follows P op.monitor (fun _ => True) (fun r a _ => Q r a) a w

section Watched

variable {op : AppOperation} {α β : Type} {p : App α} {Q Q' : Except Exn α → Alarm → Prop}
  {a : Alarm} {c : Call}

theorem Watched.mono (h : Watched op p Q' a) (hQ : ∀ r a, Q' r a → Q r a) : Watched op p Q a :=
  fun P hP w => Prog.follows_mono (h P hP w) fun r a _ => hQ r a

theorem watched_done {r : Except Exn α} (h : Q r a) : Watched op (Prog.done r : App α) Q a :=
  fun _ _ _ => h

theorem watched_read {f : World → α} (h : ∀ v, Q (.ok v) a) : Watched op (Prog.read f) Q a :=
  fun _ _ w => h (f w)

theorem watched_modify {u : World → World} {Q : Except Exn Unit → Alarm → Prop} (h : Q (.ok ()) a) :
    Watched op (Prog.modify u) Q a :=
  fun _ _ _ => h

/-- The second program goes on with what is left to be told. -/
theorem watched_andThen {f : Except Exn α → App β} {Q : Except Exn β → Alarm → Prop}
    (hp : Watched op p Q' a) (hf : ∀ r a, Q' r a → Watched op (f r) Q a) :
    Watched op (p.andThen f) Q a := by
  intro P hP w
  apply Prog.follows_andThen
  apply Prog.follows_mono (hp P hP w)
  exact fun r a w h => hf r a h P hP w

theorem watched_bind {f : α → App β} {Q : Except Exn β → Alarm → Prop} (hp : Watched op p Q' a)
    (hok : ∀ v a, Q' (.ok v) a → Watched op (f v) Q a)
    (herror : ∀ e a, Q' (.error e) a → Q (.error e) a) : Watched op (p >>= f) Q a := by
  apply watched_andThen hp
  rintro (e | v) a h
  · exact watched_done (herror e a h)
  · exact hok v a h

/-- The handler goes on with what is left to be told. -/
theorem watched_handle {h : Exn → App α} (hp : Watched op p Q' a)
    (hok : ∀ v a, Q' (.ok v) a → Q (.ok v) a)
    (herror : ∀ e a, Q' (.error e) a → Watched op (h e) Q a) : Watched op (tryCatch p h) Q a := by
  apply watched_andThen hp
  rintro (e | v) a hr
  · exact herror e a hr
  · exact watched_done (hok v a hr)

/-- A last update tells nothing. -/
theorem watched_ensure {u : World → World} (hp : Watched op p Q a) :
    Watched op (p.ensure (Prog.modify u)) Q a := by
  apply watched_andThen hp
  exact fun r a h => fun _ _ _ => h

theorem watched_unawaited {Q : Except Exn Unit → Alarm → Prop} (hp : Watched op p Q' a)
    (hQ : ∀ r a, Q' r a → Q (.ok ()) a) : Watched op p.unawaited Q a := by
  apply watched_andThen hp
  exact fun r a h => watched_done (hQ r a h)

/-- A call is answered or, if it waits, fails. -/
theorem watched_call {Q : Except Exn (Reply c) → Alarm → Prop}
    (hok : ∀ w v, Q (.ok v) (op.alarm a ⟨w, c, .ok v⟩))
    (herror : c.awaited = true → ∀ w e, Q (.error e) (op.alarm a ⟨w, c, .error e⟩)) :
    Watched op (await c) Q a := by
  intro P hP w
  by_cases ha : P.awaited c = true
  · apply Prog.follows_invoke ha trivial trivial
    rintro (e | v) w₁ w₂ - -
    · exact herror (hP c ha) w₁ e
    · exact hok w₁ v
  · apply Prog.follows_invoke_sync (by simpa using ha) trivial
    exact fun v w' _ => hok w v

/-- A synchronous call that announces nothing. -/
theorem watched_sync {Q : Except Exn (Reply c) → Alarm → Prop} (hc : c.awaited = false)
    (hquiet : c.announces = false) (h : ∀ v, Q (.ok v) a) : Watched op (await c) Q a := by
  apply watched_call
  · intro w v
    rw [alarm_answered hquiet]
    exact h v
  · exact fun ha => Bool.noConfusion (ha.symm.trans hc)

end Watched

/-- How a program may end: no failure that is to be told is left unless it is thrown, and after one
that is kept quiet there is no exception. -/
inductive Resolved {α : Type} : Except Exn α → Alarm → Prop
  | quiet (r : Except Exn α) : Resolved r .quiet
  | due (e : Exn) : Resolved (.error e) .due
  | muted (v : α) : Resolved (.ok v) .muted

/-- The program ends well. -/
abbrev Loud {α : Type} (op : AppOperation) (p : App α) : Prop := Watched op p Resolved .quiet

/-- Moreover it keeps nothing quiet. -/
abbrev Strict {α : Type} (op : AppOperation) (p : App α) : Prop :=
  Watched op p (fun r a => Resolved r a ∧ a ≠ .muted) .quiet

/-- The program ends well also if the failure before it is kept quiet. -/
abbrev Gentle {α : Type} (op : AppOperation) (p : App α) : Prop :=
  ∀ a : Alarm, a.Free → Watched op p Resolved a

/-- The program keeps all its failures quiet. -/
abbrev Hushed {α : Type} (op : AppOperation) (p : App α) : Prop :=
  ∀ a : Alarm, a.Free → Watched op p (fun _ a => a.Free) a

/-- Moreover it catches them. -/
abbrev Calm {α : Type} (op : AppOperation) (p : App α) : Prop :=
  ∀ a : Alarm, a.Free → Watched op p (fun r a => (∃ v, r = .ok v) ∧ a.Free) a

/-- The program leaves nothing to be told. -/
abbrev Ends {α : Type} (op : AppOperation) (p : App α) : Prop :=
  Watched op p (fun r a => (∃ v, r = .ok v) ∧ a.Free) .quiet

/-- The program announces a failure. -/
abbrev Warns {α : Type} (op : AppOperation) (p : App α) : Prop :=
  ∀ a : Alarm, a = .quiet ∨ a = .due → Watched op p (fun r a => (∃ v, r = .ok v) ∧ a = .quiet) a

section Families

variable {op : AppOperation} {α β : Type} {p : App α} {f : α → App β} {c : Call}

theorem resolved_of_free {r : Except Exn α} {a : Alarm} (hr : ∃ v, r = .ok v) (ha : a.Free) :
    Resolved r a := by
  obtain ⟨v, rfl⟩ := hr
  rcases ha with rfl | rfl
  · exact .quiet _
  · exact .muted v

/-- After a value nothing is left to be told. -/
theorem free_of_resolved {v : α} {a : Alarm} (h : Resolved (.ok v : Except Exn α) a) : a.Free := by
  cases h with
  | quiet => exact .inl rfl
  | muted => exact .inr rfl

/-- What is thrown may be thrown in another form. -/
theorem Resolved.error {e e' : Exn} {a : Alarm} (h : Resolved (.error e : Except Exn α) a) :
    Resolved (.error e' : Except Exn β) a := by
  cases h with
  | quiet => exact .quiet _
  | due => exact .due _

/-- What is thrown can be announced. -/
theorem Resolved.thrown {e : Exn} {a : Alarm} (h : Resolved (.error e : Except Exn α) a) :
    a = .quiet ∨ a = .due := by
  cases h with
  | quiet => exact .inl rfl
  | due => exact .inr rfl

theorem free_quiet : Alarm.quiet.Free := .inl rfl

/-- A program that keeps nothing quiet ends well. -/
theorem loud_of_strict (h : Strict op p) : Loud op p := h.mono fun _ _ h => h.1

/-- So does one that leaves nothing to be told. -/
theorem loud_of_ends (h : Ends op p) : Loud op p := h.mono fun _ _ h => resolved_of_free h.1 h.2

theorem gentle_of_calm (h : Calm op p) : Gentle op p :=
  fun a ha => (h a ha).mono fun _ _ h => resolved_of_free h.1 h.2

/-- A program that keeps its failures quiet leaves nothing to be told. -/
theorem ends_of_calm (h : Calm op p) : Ends op p := h .quiet free_quiet

theorem loud_of_calm (h : Calm op p) : Loud op p := loud_of_ends (ends_of_calm h)

theorem strict_done (r : Except Exn α) : Strict op (Prog.done r : App α) :=
  watched_done ⟨.quiet r, by simp⟩

theorem strict_read (f : World → α) : Strict op (Prog.read f) :=
  watched_read fun v => ⟨.quiet _, by simp⟩

theorem strict_modify (u : World → World) : Strict op (Prog.modify u) :=
  watched_modify ⟨.quiet _, by simp⟩

/-- A call whose failures are to be told. -/
theorem strict_call (hc : c.announces = false) (hloud : ∀ e, op.swallows c e = false) :
    Strict op (await c) := by
  apply watched_call
  · intro w v
    rw [alarm_answered hc]
    exact ⟨.quiet _, by simp⟩
  · intro _ w e
    rw [alarm_loud hc (hloud e) (by simp)]
    exact ⟨.due e, by simp⟩

/-- A synchronous call, which may be an announcement. -/
theorem strict_sync (hc : c.awaited = false) : Strict op (await c) := by
  apply watched_call
  · intro w v
    cases hannounces : c.announces with
    | true =>
      rw [alarm_announced hannounces (.inl rfl)]
      exact ⟨.quiet _, by simp⟩
    | false =>
      rw [alarm_answered hannounces]
      exact ⟨.quiet _, by simp⟩
  · exact fun ha => Bool.noConfusion (ha.symm.trans hc)

/-- The first exception ends the program. -/
theorem strict_bind (hp : Strict op p) (hf : ∀ v, Strict op (f v)) : Strict op (p >>= f) := by
  apply watched_bind hp
  · rintro v a ⟨hresolved, hmuted⟩
    rcases free_of_resolved hresolved with rfl | rfl
    · exact hf v
    · exact absurd rfl hmuted
  · exact fun e a h => ⟨h.1.error, h.2⟩

/-- An exception that gets its text is still to be told. -/
theorem strict_rethrow (hp : Strict op p) (g : Exn → Exn) :
    Strict op (tryCatch p fun e => throw (g e)) := by
  apply watched_handle hp fun v a h => h
  exact fun e a h => watched_done ⟨h.1.error, h.2⟩

/-- Up to here nothing has been kept quiet. -/
theorem loud_bind (hp : Strict op p) (hf : ∀ v, Loud op (f v)) : Loud op (p >>= f) := by
  apply watched_bind hp
  · rintro v a ⟨hresolved, hmuted⟩
    rcases free_of_resolved hresolved with rfl | rfl
    · exact hf v
    · exact absurd rfl hmuted
  · exact fun e a h => h.1.error

/-- What follows has to end well also if a failure was kept quiet. -/
theorem loud_then (hp : Loud op p) (hf : ∀ v, Gentle op (f v)) : Loud op (p >>= f) := by
  apply watched_bind hp
  · exact fun v a h => hf v a (free_of_resolved h)
  · exact fun e a h => h.error

theorem loud_rethrow (hp : Loud op p) (g : Exn → Exn) :
    Loud op (tryCatch p fun e => throw (g e)) := by
  apply watched_handle hp fun v a h => h
  exact fun e a h => watched_done h.error

theorem gentle_bind (hp : Gentle op p) (hf : ∀ v, Gentle op (f v)) : Gentle op (p >>= f) := by
  intro a ha
  apply watched_bind (hp a ha)
  · exact fun v a h => hf v a (free_of_resolved h)
  · exact fun e a h => h.error

theorem gentle_rethrow (hp : Gentle op p) (g : Exn → Exn) :
    Gentle op (tryCatch p fun e => throw (g e)) := by
  intro a ha
  apply watched_handle (hp a ha) fun v a h => h
  exact fun e a h => watched_done h.error

/-- A call whose failures are all told. -/
theorem gentle_call (hc : c.announces = false) (hloud : ∀ e, op.swallows c e = false) :
    Gentle op (await c) := by
  intro a ha
  apply watched_call
  · intro w v
    rw [alarm_answered hc]
    exact resolved_of_free ⟨v, rfl⟩ ha
  · intro _ w e
    rw [alarm_loud hc (hloud e) (ne_wrong_of_free ha)]
    exact .due e

/-- Keeping the failures quiet follows the structure. -/
theorem closed_hushed (op : AppOperation) : Prog.Closed fun {α} (p : App α) => Hushed op p where
  done _ _ ha := watched_done ha
  read _ _ ha := watched_read fun _ => ha
  andThen hp hf a ha := watched_andThen (hp a ha) hf

/-- A call whose failures are kept quiet. -/
theorem hushed_call (hc : c.awaited = true) (hquiet : ∀ e, op.swallows c e = true) :
    Hushed op (await c) := by
  intro a ha
  apply watched_call
  · intro w v
    rw [alarm_answered (announces_of_awaited hc)]
    exact ha
  · exact fun _ w e => (alarm_swallowed (announces_of_awaited hc) (hquiet e) ha).1

theorem calm_sync (hc : c.awaited = false) (hquiet : c.announces = false) :
    Calm op (await c) :=
  fun _ ha => watched_sync hc hquiet fun v => ⟨⟨v, rfl⟩, ha⟩

theorem hushed_of_calm (h : Calm op p) : Hushed op p :=
  fun a ha => (h a ha).mono fun _ _ h => h.2

theorem calm_pure (v : α) : Calm op (pure v : App α) :=
  fun _ ha => watched_done ⟨⟨v, rfl⟩, ha⟩

theorem calm_read (f : World → α) : Calm op (Prog.read f) :=
  fun _ ha => watched_read fun v => ⟨⟨v, rfl⟩, ha⟩

theorem calm_modify (u : World → World) : Calm op (Prog.modify u) :=
  fun _ ha => watched_modify ⟨⟨(), rfl⟩, ha⟩

theorem calm_bind (hp : Calm op p) (hf : ∀ v, Calm op (f v)) : Calm op (p >>= f) := by
  intro a ha
  apply watched_bind (hp a ha)
  · exact fun v a h => hf v a h.2
  · rintro e a ⟨⟨v, hv⟩, -⟩
    cases hv

/-- The handler catches what was kept quiet. -/
theorem calm_handle {h : Exn → App α} (hp : Hushed op p) (hh : ∀ e, Calm op (h e)) :
    Calm op (tryCatch p h) := by
  intro a ha
  apply watched_handle (hp a ha)
  · exact fun v a h => ⟨⟨v, rfl⟩, h⟩
  · exact fun e a h => hh e a h

/-- A program that keeps its failures quiet need not be awaited. -/
theorem calm_unawaited (hp : Hushed op p) : Calm op p.unawaited :=
  fun a ha => watched_unawaited (hp a ha) fun _ _ h => ⟨⟨(), rfl⟩, h⟩

/-- A message is an announcement. -/
theorem warns_call (hc : c.announces = true) (hsync : c.awaited = false) : Warns op (await c) := by
  intro a ha
  apply watched_call
  · exact fun w v => ⟨⟨v, rfl⟩, alarm_announced hc ha _⟩
  · exact fun h => Bool.noConfusion (h.symm.trans hsync)

theorem watched_stopLoading {Q : Except Exn Unit → Alarm → Prop} {a : Alarm} (h : Q (.ok ()) a) :
    Watched op FullScreenLoader.stopLoading Q a := by
  have hpop : Watched op (await .stopLoading) (fun r a' => (∃ v, r = .ok v) ∧ a' = a) a :=
    watched_sync rfl rfl fun v => ⟨⟨v, rfl⟩, rfl⟩
  apply watched_bind hpop
  · rintro v a' ⟨-, rfl⟩
    exact watched_done h
  · rintro e a' ⟨⟨v, hv⟩, -⟩
    cases hv

theorem strict_stopLoading : Strict op FullScreenLoader.stopLoading :=
  watched_stopLoading ⟨.quiet _, by simp⟩

theorem calm_stopLoading : Calm op FullScreenLoader.stopLoading :=
  fun _ ha => watched_stopLoading ⟨⟨(), rfl⟩, ha⟩

/-- A loader is closed in front of a program. -/
theorem watched_stopLoading_bind {f : Unit → App α} {Q : Except Exn α → Alarm → Prop} {a : Alarm}
    (h : Watched op (f ()) Q a) : Watched op (FullScreenLoader.stopLoading >>= f) Q a := by
  have hclose : Watched op FullScreenLoader.stopLoading (fun r a' => (∃ v, r = .ok v) ∧ a' = a) a :=
    watched_stopLoading ⟨⟨(), rfl⟩, rfl⟩
  apply watched_bind hclose
  · rintro v a' ⟨-, rfl⟩
    exact h
  · rintro e a' ⟨⟨v, hv⟩, -⟩
    cases hv

/-- What is thrown is announced. -/
theorem ends_handle {h : Exn → App α} (hp : Loud op p) (hh : ∀ e, Warns op (h e)) :
    Ends op (tryCatch p h) := by
  apply watched_handle hp
  · exact fun v a h => ⟨⟨v, rfl⟩, free_of_resolved h⟩
  · intro e a h
    exact (hh e a h.thrown).mono fun _ _ h => ⟨h.1, h.2 ▸ free_quiet⟩

end Families

section Shapes

variable {op : AppOperation} {α : Type} {body : App Unit}

/-- The loader announces the exception that its body throws. -/
theorem loud_withLoader {kind : SnackBarKind} (hkind : kind = .warning ∨ kind = .error)
    (hbody : Loud op body) (text : String) : Loud op (withLoader text kind body) := by
  apply loud_of_ends
  apply ends_handle
  · apply loud_bind _ fun _ => hbody
    exact strict_bind (strict_sync rfl) fun _ => strict_done _
  · intro e a ha
    apply watched_stopLoading_bind
    rcases hkind with rfl | rfl <;> exact warns_call rfl rfl a ha

/-- A connection that cannot be checked counts as none. -/
theorem watched_isConnected : Watched op NetworkManager.isConnected
    (fun r a => (∃ e, r = .error e) ∧ a = .due ∨ (∃ v, r = .ok v) ∧ a = .quiet ∨
      r = .ok false ∧ if op.isGoogleSignIn = true then a = .due else a.Free) .quiet := by
  have hcheck : Watched op (await .checkConnectivity) (fun r a => (∃ v, r = .ok v) ∧ a = .quiet ∨
      ∃ e, r = .error e ∧ a = op.fail .checkConnectivity e .quiet) .quiet := by
    apply watched_call
    · exact fun w v => .inl ⟨⟨v, rfl⟩, alarm_answered rfl v⟩
    · exact fun _ w e => .inr ⟨e, rfl, alarm_failed rfl (by simp)⟩
  have hresult (f : List ConnectivityResult → Bool) :
      Watched op (await .checkConnectivity >>= fun result => pure (f result))
        (fun r a => (∃ v, r = .ok v) ∧ a = .quiet ∨
          ∃ e, r = .error e ∧ a = op.fail .checkConnectivity e .quiet) .quiet := by
    apply watched_bind hcheck
    · rintro v a (⟨-, rfl⟩ | ⟨e, he, -⟩)
      · exact watched_done (.inl ⟨⟨_, rfl⟩, rfl⟩)
      · cases he
    · rintro e a (⟨⟨v, hv⟩, -⟩ | ⟨e', he', rfl⟩)
      · cases hv
      · cases he'
        exact .inr ⟨e, rfl, rfl⟩
  apply watched_handle (hresult _)
  · rintro v a (⟨-, rfl⟩ | ⟨e, he, -⟩)
    · exact .inr (.inl ⟨⟨v, rfl⟩, rfl⟩)
    · cases he
  · rintro e a (⟨⟨v, hv⟩, -⟩ | ⟨e', he', rfl⟩)
    · cases hv
    · cases he'
      cases e with
      | platform code message =>
        apply watched_done
        refine .inr (.inr ⟨rfl, ?_⟩)
        cases hop : op.isGoogleSignIn with
        | true => simp [AppOperation.fail, AppOperation.swallows, hop]
        | false =>
          simp only [AppOperation.fail, AppOperation.swallows, hop, Exn.isPlatform]
          cases op.goesOn with
          | true => exact .inl rfl
          | false => exact .inr rfl
      | _ =>
        apply watched_done
        refine .inl ⟨⟨_, rfl⟩, ?_⟩
        simp [AppOperation.fail, AppOperation.swallows, Exn.isPlatform]

/-- A missing connection is announced. -/
theorem loud_whenConnected (hop : op.isGoogleSignIn = false) (hbody : Loud op body) :
    Loud op (whenConnected body) := by
  apply watched_bind watched_isConnected
  · rintro v a (⟨⟨e, he⟩, -⟩ | ⟨-, rfl⟩ | ⟨hv, ha⟩)
    · cases he
    · cases v with
      | true => exact hbody
      | false => exact loud_of_calm calm_stopLoading
    · cases hv
      simp only [hop, Bool.false_eq_true, if_false] at ha
      exact gentle_of_calm calm_stopLoading a ha
  · rintro e a (⟨-, rfl⟩ | ⟨⟨v, hv⟩, -⟩ | ⟨hv, -⟩)
    · exact .due e
    · cases hv
    · cases hv

theorem loud_whenValid (hbody : Loud op body) (form : Option Bool) :
    Loud op (whenValid form body) := by
  cases form with
  | none => exact loud_of_strict (strict_done _)
  | some valid =>
    cases valid with
    | true => exact hbody
    | false => exact loud_of_strict strict_stopLoading

/-- The checks of the connection and of the form, inside a loader. -/
theorem loud_checked {kind : SnackBarKind} (hkind : kind = .warning ∨ kind = .error)
    (hop : op.isGoogleSignIn = false) (hbody : Loud op body) (text : String) (form : Option Bool) :
    Loud op (withLoader text kind (whenConnected (whenValid form body))) :=
  loud_withLoader hkind (loud_whenConnected hop (loud_whenValid hbody form)) text

/-- What is thrown is shown in a message. -/
theorem ends_reported {kind : SnackBarKind} {title : String} {message : Exn → String} {p : App Unit}
    (hp : Loud op p) (hkind : ∀ e, (Call.snackBar kind title (message e)).announces = true) :
    Ends op (tryCatch p fun e => await (.snackBar kind title (message e))) :=
  ends_handle hp fun e => warns_call (hkind e) rfl

/-- A fetch shows what is thrown, and hides the spinner. -/
theorem loud_loading {p : App Unit} {u : World → World} (hp : Strict op p) :
    Loud op (Prog.ensure (tryCatch p fun e => await (.snackBar .error "Oh Snap!" e.toText))
      (Prog.modify u)) :=
  watched_ensure (loud_of_ends (ends_reported (loud_of_strict hp) fun _ => rfl))

end Shapes

end AroundMuseo
