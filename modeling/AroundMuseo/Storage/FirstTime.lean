import AroundMuseo.Core.Vetted
import AroundMuseo.Locations.Calendar
import AroundMuseo.Storage.DeviceStorage

/-!
# The first start

The redirection sends nobody to the onboarding as long as the mark of the first start says so. The
mark is written by the redirection itself when it is missing, and taken back by the button of the
last page of the onboarding.
-/

namespace AroundMuseo

open Async Async.Prog Firestore

/-- How far the introduction has come, as the mark of the first start tells. -/
inductive Introduction where
  | pending | shown | finished
  deriving DecidableEq, Repr

/-- The mark in the storage. -/
def introduction (storage : AList fun _ : String => Scalar) : Introduction :=
  match storage.lookup "isFirstTime" with
  | none => .pending
  | some v => if v = .bool true then .shown else .finished

/-- The button of the last page is pressed: the introduction is over. -/
def finishesIntroduction (op : StorageOperation) (m : Moment Reply World Exn) : Bool :=
  match op with
  | .nextPage _ => m.call = .getOffAll .login
  | .app _ => false

/-- The introduction as the history tells it. -/
def introduceAct (op : StorageOperation) (v : Introduction) (m : Moment Reply World Exn) :
    Introduction :=
  if finishesIntroduction op m then .finished
  else if v = .pending ∧ m.call = .getOffAll .onBoarding then .shown
  else v

/-- In a history the introduction is over when it was before or the button was pressed. -/
theorem foldl_introduceAct {v : Introduction} (ms : NamedHistory (Nat × StorageOperation)) :
    ms.foldl (fun v m => introduceAct m.call.1.2 v (m.seen (Parts.whole _ World))) v = .finished ↔
      v = .finished ∨
        ∃ m ∈ ms, finishesIntroduction m.call.1.2 (m.seen (Parts.whole _ World)) = true := by
  induction ms generalizing v with
  | nil => simp
  | cons m ms ih =>
    have hstep : introduceAct m.call.1.2 v (m.seen (Parts.whole _ World)) = .finished ↔
        v = .finished ∨ finishesIntroduction m.call.1.2 (m.seen (Parts.whole _ World)) = true := by
      unfold introduceAct
      by_cases hfinish : finishesIntroduction m.call.1.2 (m.seen (Parts.whole _ World)) = true
      · simp [hfinish]
      · rw [if_neg hfinish]
        split
        case isTrue h => simp [h.1, hfinish]
        case isFalse => simp [hfinish]
    rw [List.foldl_cons, ih, hstep, or_assoc]
    simp

theorem introduction_insert (storage : AList fun _ : String => Scalar) (v : Scalar) :
    introduction (storage.insert "isFirstTime" v) = if v = .bool true then .shown
      else .finished := by
  rw [introduction, AList.lookup_insert]

/-- The redirection of nobody makes sure that there is a mark. -/
theorem introduction_writeIfNull (w : World) :
    introduction (w.writeIfNull "isFirstTime" (.bool true)).deviceStorage =
      if introduction w.deviceStorage = .finished then .finished else .shown := by
  unfold World.writeIfNull
  by_cases hmem : "isFirstTime" ∈ w.deviceStorage
  · rw [if_pos hmem]
    obtain ⟨v, hv⟩ := Option.isSome_iff_exists.mp (AList.lookup_isSome.mpr hmem)
    rw [introduction, hv]
    dsimp only
    split <;> simp
  · rw [if_neg hmem]
    have hnone := AList.lookup_eq_none.mpr hmem
    show introduction (w.deviceStorage.insert _ _) = _
    rw [introduction_insert, introduction, hnone]
    rfl

theorem introduction_eq_shown {storage : AList fun _ : String => Scalar} :
    introduction storage = .shown ↔ storage.lookup "isFirstTime" = some (.bool true) := by
  unfold introduction
  split
  case h_1 h => simp [h]
  case h_2 v h =>
    rw [h, Option.some.injEq]
    split <;> simp [*]

/-- What the redirection of nobody finds depends on whether the introduction was over. -/
theorem isFirstTime_writeIfNull (w : World) :
    (w.writeIfNull "isFirstTime" (.bool true)).deviceStorage.lookup "isFirstTime" =
      some (.bool true) ↔ introduction w.deviceStorage ≠ .finished := by
  rw [← introduction_eq_shown, introduction_writeIfNull]
  split <;> simp [*]

section Announced

variable {op : StorageOperation}

theorem introduceAct_of_call {m : Moment Reply World Exn}
    (hfinish : finishesIntroduction op m = false)
    (hcall : m.call ≠ .getOffAll .onBoarding) (v : Introduction) : introduceAct op v m = v := by
  rw [introduceAct, if_neg (by simp [hfinish]), if_neg]
  exact fun h => hcall h.2

/-- The other calls tell nothing of the introduction. -/
theorem introduceAct_of_ordinary {m : Moment Reply World Exn} (hm : m.call.isFirstScreen = false)
    (v : Introduction) : introduceAct op v m = v := by
  apply introduceAct_of_call
  · rw [← Bool.not_eq_true]
    intro hfinish
    cases op with
    | app op => cases hfinish
    | nextPage s =>
      rw [of_decide_eq_true hfinish] at hm
      cases hm
  · intro hintroduction
    rw [hintroduction] at hm
    cases hm

theorem announces_introduceCall {c : Call} (hc : c.isFirstScreen = false) :
    Announces introduction (introduceAct op) (await c) := by
  have hkeeps (v : Introduction) (m : Moment Reply World Exn) (hm : m.call = c) :
      introduceAct op v m = v := introduceAct_of_ordinary (hm ▸ hc) v
  exact announces_call (fun v w => hkeeps v _ rfl) fun v w r => hkeeps v _ rfl

/-- The login of anything but the button leaves the introduction as it is. -/
theorem introduceAct_login {op : AppOperation} {m : Moment Reply World Exn}
    (hm : m.call = .getOffAll .login) (v : Introduction) : introduceAct (.app op) v m = v := by
  apply introduceAct_of_call rfl
  rw [hm]
  exact nofun

theorem introduceAct_onBoarding {op : AppOperation} {v : Introduction} {m : Moment Reply World Exn}
    (hm : m.call = .getOffAll .onBoarding) (hv : v ≠ .finished) :
    introduceAct (.app op) v m = .shown := by
  rw [introduceAct, if_neg (show ¬ finishesIntroduction (.app op) m = true from nofun)]
  cases v with
  | pending => exact if_pos ⟨rfl, hm⟩
  | shown => rfl
  | finished => exact absurd rfl hv

theorem announces_login (op : AppOperation) :
    Announces introduction (introduceAct (.app op)) (await (.getOffAll .login)) :=
  announces_call (fun v _ => introduceAct_login rfl v) fun v _ _ => introduceAct_login rfl v

/-- An app that opens a screen changes nothing of the introduction after that. -/
theorem introduction_of_opened {screen : Screen} {w w' : World} {a : Unit}
    (h : overlapping.effect (.getOffAll screen) w a = some w') :
    introduction w'.deviceStorage = introduction w.deviceStorage :=
  congrArg introduction (deviceStorage_of_overlapping (r := .ok a) h)

theorem announces_introduceRedirect (op : AppOperation) :
    Announces introduction (introduceAct (.app op)) AuthenticationRepository.screenRedirect := by
  apply closed_announces.bind (closed_announces.read _)
  intro user
  cases user with
  | some user =>
    refine closed_announces.bind (closed_announces.unawaited ?_) fun _ => ?_
    · exact closed_updateLastActive closed_announces.toSequential (announces_introduceCall rfl)
        (fun _ _ _ => announces_introduceCall rfl) _
    · split
      · exact announces_introduceCall rfl
      · exact closed_announces.bind (closed_announces.read _) fun _ => announces_introduceCall rfl
  | none =>
    intro w
    rw [records_modify_bind, records_read_bind]
    split
    case isTrue hfirst =>
      have hfinished := not_not.mp (mt (isFirstTime_writeIfNull w).mpr hfirst)
      apply records_invoke_sync rfl
      · intro a
        rw [introduceAct_login rfl, introduction_writeIfNull, if_pos hfinished]
        exact hfinished.symm
      · exact fun a w' h => introduction_of_opened h
    case isFalse hfirst =>
      have hpending := (isFirstTime_writeIfNull w).mp (not_not.mp hfirst)
      apply records_invoke_sync rfl
      · intro a
        rw [introduceAct_onBoarding rfl hpending, introduction_writeIfNull, if_neg hpending]
      · exact fun a w' h => introduction_of_opened h

/-- A remembered login is kept under other keys. -/
theorem introduction_rememberLogin (form : LoginForm) (w : World) :
    introduction (LoginController.rememberLogin form w).deviceStorage =
      introduction w.deviceStorage := by
  have hemail : "isFirstTime" ≠ "REMEMBER_ME_EMAIL" := by decide
  have hpassword : "isFirstTime" ≠ "REMEMBER_ME_PASSWORD" := by decide
  have hlookup : (LoginController.rememberLogin form w).deviceStorage.lookup "isFirstTime" =
      w.deviceStorage.lookup "isFirstTime" := by
    unfold LoginController.rememberLogin
    split
    · simp only [World.writeStorage, AList.lookup_insert_ne hemail,
        AList.lookup_insert_ne hpassword]
    · simp only [World.removeStorage, AList.lookup_erase_ne hemail,
        AList.lookup_erase_ne hpassword]
  rw [introduction, hlookup, introduction]

theorem announces_introduceSignIn (form : LoginForm) :
    Announces introduction (introduceAct (.app (.emailAndPasswordSignIn form)))
      (LoginController.emailAndPasswordSignIn form) := by
  apply closed_emailAndPasswordSignIn closed_announces.toSequential
  · intro c hc
    apply announces_introduceCall
    cases c <;> first | rfl | cases hc
  · exact Prog.journaled_modify (introduction_rememberLogin form)
  · apply closed_loginWithEmailAndPassword closed_announces.toSequential
    exact fun _ hc _ =>
      announces_introduceCall (Bool.or_eq_false_iff.mp (isFirstScreen_of_not_isReserved hc)).1
  · exact announces_introduceRedirect _

theorem StorageOperation.announcesIntroduction (intl : Intl) (repository : LocationRepository)
    (op : StorageOperation) :
    Announces introduction (introduceAct op) (op.body intl repository) := by
  cases op with
  | nextPage s =>
    show Announces _ _ s.nextPage.2
    unfold OnBoardingController.nextPage
    split
    · intro w
      rw [records_modify_bind]
      apply records_invoke_sync rfl
      · intro a
        exact introduction_insert _ _
      · exact fun a w' h => introduction_of_opened h
    · exact closed_announces.done _
  | app op =>
    apply closed_body closed_announces
    · exact fun c hc _ => announces_introduceCall (Bool.or_eq_false_iff.mp hc).1
    · exact fun u hu => announces_update fun w => congrArg Prod.fst (hu w)
    · exact announces_introduceRedirect _
    · rintro form rfl
      exact announces_introduceSignIn form
    · exact fun _ => announces_login _
    · exact fun _ _ _ => announces_introduceCall rfl

end Announced

/-- The operations that end with the redirection. -/
def StorageOperation.redirects : StorageOperation → Bool
  | app op => op.redirects
  | nextPage _ => false

/-- The onboarding is opened while the introduction is not over, and the login of a redirection
when it is. -/
def FirstScreenRight (op : StorageOperation) (w : World) : Call → Prop
  | .getOffAll .onBoarding => introduction w.deviceStorage = .shown
  | .getOffAll .login => op.redirects = true → introduction w.deviceStorage = .finished
  | _ => True

section OpensRightly

/-- The program opens the first screens only as the mark says. -/
abbrev OpensRightly {α : Type} (op : StorageOperation) (p : App α) : Prop :=
  p.Safe overlapping (fun _ => (∅ : Set Unit)) fun _ w c => FirstScreenRight op w c

theorem closed_opensRightly (op : StorageOperation) :
    Prog.Closed fun {α} (p : App α) => OpensRightly op p := closed_safe _ _ _

variable {op : StorageOperation}

theorem opensRightly_call {c : Call} (hc : c.isFirstScreen = false) :
    OpensRightly op (await c) := by
  apply safe_invoke
  intro _ w
  unfold FirstScreenRight
  split
  case h_1 => cases hc
  case h_2 => cases hc
  case h_3 => trivial

theorem opensRightly_screenRedirect : OpensRightly op AuthenticationRepository.screenRedirect := by
  apply (closed_opensRightly op).bind ((closed_opensRightly op).read _)
  intro user
  cases user with
  | some user =>
    refine (closed_opensRightly op).bind ((closed_opensRightly op).unawaited ?_) fun _ => ?_
    · exact closed_updateLastActive (closed_opensRightly op).toSequential (opensRightly_call rfl)
        (fun _ _ _ => opensRightly_call rfl) _
    · split
      · exact opensRightly_call rfl
      · apply (closed_opensRightly op).bind ((closed_opensRightly op).read _)
        exact fun _ => opensRightly_call rfl
  | none =>
    intro known w
    rw [vetted_modify_bind, vetted_read_bind]
    split
    case isTrue hfirst =>
      have hfinished := not_not.mp (mt (isFirstTime_writeIfNull w).mpr hfirst)
      apply vetted_invoke
      · intro _
        rw [introduction_writeIfNull, if_pos hfinished]
      · exact fun _ _ _ _ _ => trivial
    case isFalse hfirst =>
      apply vetted_invoke
      · exact introduction_eq_shown.mpr (not_not.mp hfirst)
      · exact fun _ _ _ _ _ => trivial

theorem StorageOperation.opensRightly (intl : Intl) (repository : LocationRepository)
    (op : StorageOperation) : OpensRightly op (op.body intl repository) := by
  have hlogin (h : op.redirects = false) : OpensRightly op (await (.getOffAll .login)) := by
    apply safe_invoke
    intro _ w hredirects
    rw [h] at hredirects
    cases hredirects
  cases op with
  | nextPage s =>
    show OpensRightly _ s.nextPage.2
    unfold OnBoardingController.nextPage
    split
    · exact (closed_opensRightly _).bind (safe_modify _) fun _ => hlogin rfl
    · exact (closed_opensRightly _).done _
  | app op =>
    apply closed_body (closed_opensRightly _)
    · exact fun c hc _ => opensRightly_call (Bool.or_eq_false_iff.mp hc).1
    · exact fun u _ => safe_modify u
    · exact opensRightly_screenRedirect
    · rintro form rfl
      apply closed_emailAndPasswordSignIn (closed_opensRightly _).toSequential
      · intro c hc
        apply opensRightly_call
        cases c <;> first | rfl | cases hc
      · exact safe_modify _
      · apply closed_loginWithEmailAndPassword (closed_opensRightly _).toSequential
        exact fun _ hc _ =>
          opensRightly_call (Bool.or_eq_false_iff.mp (isFirstScreen_of_not_isReserved hc)).1
      · exact opensRightly_screenRedirect
    · exact hlogin
    · exact fun _ _ _ => opensRightly_call rfl

end OpensRightly

/-- The screens are opened at once. -/
theorem not_awaited_of_isFirstScreen {c : Call} (hc : c.isFirstScreen = true) :
    overlapping.awaited c = false := by
  unfold Call.isFirstScreen at hc
  split at hc
  case h_1 => rfl
  case h_2 => rfl
  case h_3 => cases hc

section Runs

variable {intl : Intl} {repository : LocationRepository} {w₀ : World}
  {ms pre post : NamedHistory (Nat × StorageOperation)} {c : NamedPool (Nat × StorageOperation)}
  {m : Moment (NamedReply (Nat × StorageOperation) Reply) World Exn}

/-- When a first screen is opened, the mark says whether the button has been pressed. -/
theorem introduction_of_history (hfresh : introduction w₀.deviceStorage ≠ .finished)
    (hrun : Pool.Run (namedPlatform (Nat × StorageOperation))
      (namedBody fun i => i.2.body intl repository) ⟨w₀, []⟩ ms c)
    (hms : ms = pre ++ m :: post) (hfirst : m.call.2.isFirstScreen = true) :
    introduction m.state.deviceStorage = .finished ↔ ∃ m' ∈ pre ++ [m],
      finishesIntroduction m'.call.1.2 (m'.seen (Parts.whole _ World)) = true := by
  have hserved (i : Nat × StorageOperation) (v : Introduction) (w : World) (call : Call)
      (r : Except Exn (Reply call)) (h : overlapping.awaited call = true) :
      introduceAct i.2 v (.answered ⟨w, call, r⟩) = v := by
    apply introduceAct_of_ordinary
    rw [← Bool.not_eq_true]
    intro hfirst
    have hsync : overlapping.awaited call = false := not_awaited_of_isFirstScreen hfirst
    rw [h] at hsync
    cases hsync
  have hsync : ∀ ev, m = .answered ev →
      (namedPlatform (Nat × StorageOperation)).awaited ev.call = false := by
    rintro ev rfl
    exact not_awaited_of_isFirstScreen hfirst
  have hjournal := storage_journal (fun i : Nat × StorageOperation =>
    i.2.announcesIntroduction intl repository) hserved hrun
  have hview : introduction m.state.deviceStorage = _ := hjournal.each pre m post hms hsync
  rw [hview, foldl_introduceAct, or_iff_right hfresh]

/-- In every interleaving a redirection that sends nobody to one of the first screens chooses the
onboarding, unless the button of its last page was pressed before: then it chooses the login. -/
theorem onBoarding_until_finished (hfresh : introduction w₀.deviceStorage ≠ .finished)
    (hrun : Pool.Run (namedPlatform (Nat × StorageOperation))
      (namedBody fun i => i.2.body intl repository) ⟨w₀, []⟩ ms c)
    (hms : ms = pre ++ m :: post) (hfirst : m.call.2.isFirstScreen = true)
    (hredirects : m.call.1.2.redirects = true) :
    m.call.2 = .getOffAll (if ∃ m' ∈ pre,
        finishesIntroduction m'.call.1.2 (m'.seen (Parts.whole _ World)) = true
      then .login else .onBoarding) := by
  have hmono : ∀ (known known' : Set Unit) (w : World) (c : (Nat × StorageOperation) × Call),
      known ⊆ known' → FirstScreenRight c.1.2 w c.2 → FirstScreenRight c.1.2 w c.2 :=
    fun _ _ _ _ _ h => h
  have hnamed (i : Nat × StorageOperation) : (namedBody (fun i : Nat × StorageOperation =>
      i.2.body intl repository) i).Confined (fun c => c.1 = i) fun _ => () :=
    Prog.confined_named _ i
  have hrequests : m.Requests (namedPlatform (Nat × StorageOperation)) := by
    cases m with
    | issued => trivial
    | answered ev => exact not_awaited_of_isFirstScreen hfirst
  have hright : FirstScreenRight m.call.1.2 m.state m.call.2 :=
    hrun.vetted hmono hnamed (fun i => safe_named (fun i _ => FirstScreenRight i.2) i
      (i.2.opensRightly intl repository)) pre m post hms hrequests
  have hother : finishesIntroduction m.call.1.2 (m.seen (Parts.whole _ World)) ≠ true := by
    unfold StorageOperation.redirects at hredirects
    unfold finishesIntroduction
    split at hredirects
    case h_1 => simp [*]
    case h_2 => cases hredirects
  have hmark := introduction_of_history hfresh hrun hms hfirst
  simp only [List.mem_append, List.mem_singleton, or_and_right, exists_or, exists_eq_left,
    or_iff_left hother] at hmark
  unfold Call.isFirstScreen at hfirst
  split at hfirst
  case h_1 hcall =>
    rw [hcall] at hright ⊢
    have hshown : introduction m.state.deviceStorage = .shown := hright
    rw [if_neg (mt hmark.mpr (by simp [hshown]))]
  case h_2 hcall =>
    rw [hcall] at hright ⊢
    rw [if_pos (hmark.mp (hright hredirects))]
  case h_3 => cases hfirst

end Runs

/-- The first start: the onboarding is shown, its last button is pressed, and the next redirection
opens the login. -/
theorem onBoarding_until_finished_login : ∃ (pre : NamedHistory (Nat × StorageOperation))
    (m : Moment (NamedReply (Nat × StorageOperation) Reply) World Exn)
    (c : NamedPool (Nat × StorageOperation)),
    Pool.Run (namedPlatform (Nat × StorageOperation))
      (namedBody fun i => i.2.body Intl.utc ⟨none⟩) ⟨World.withUsers [], []⟩ (pre ++ [m]) c ∧
    pre.head?.any (fun m' => m'.call.2 = .getOffAll .onBoarding) = true ∧
    m.call.1 = (2, .app .screenRedirect) ∧ m.call.2 = .getOffAll .login := by
  obtain ⟨ms, c, hrun, hq⟩ := named_pool_run
    (fun i : Nat × StorageOperation => i.2.body Intl.utc ⟨none⟩) (World.withUsers [])
    (fun _ _ => none)
    [.start (0, .app .screenRedirect), .start (1, .nextPage ⟨2, 2⟩),
      .start (2, .app .screenRedirect)]
    (fun out => match out.1.getLast? with
      | some m => (m.call.1 = (2, .app .screenRedirect) && m.call.2.isFirstScreen) &&
        (out.1.dropLast.head?.any (fun m' => m'.call.2 = .getOffAll .onBoarding) &&
          out.1.dropLast.any fun m' =>
            finishesIntroduction m'.call.1.2 (m'.seen (Parts.whole _ World)))
      | none => false)
    (by decide +kernel)
  dsimp only at hq
  split at hq
  case h_1 m hlast =>
    obtain ⟨pre, rfl⟩ := List.getLast?_eq_some_iff.mp hlast
    rw [List.dropLast_concat] at hq
    obtain ⟨hm, hpre⟩ := Bool.and_eq_true_iff.mp hq
    obtain ⟨hcaller, hfirst⟩ := Bool.and_eq_true_iff.mp hm
    obtain ⟨hhead, hfinish⟩ := Bool.and_eq_true_iff.mp hpre
    have hcaller := of_decide_eq_true hcaller
    refine ⟨pre, m, c, hrun, hhead, hcaller, ?_⟩
    have hfresh : introduction (World.withUsers []).deviceStorage ≠ .finished := by decide
    have hredirects : m.call.1.2.redirects = true := by
      rw [hcaller]
      rfl
    rw [onBoarding_until_finished hfresh hrun rfl hfirst hredirects,
      if_pos (List.any_eq_true.mp hfinish)]
  case h_2 => cases hq

end AroundMuseo
