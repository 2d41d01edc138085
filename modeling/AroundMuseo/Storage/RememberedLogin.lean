import AroundMuseo.Locations.Calendar
import AroundMuseo.Storage.DeviceStorage

/-!
# The remembered login

The switch "Remember Me" makes the login screen show the email and the password the next time.
They are written before the sign-in is tried, so that the last form that was submitted counts,
whether it was accepted or not.
-/

namespace AroundMuseo

open Async Async.Prog Firestore

/-- The remembered email and password, as they are stored. -/
def rememberedLogin (storage : AList fun _ : String => Scalar) : Option Scalar × Option Scalar :=
  (storage.lookup "REMEMBER_ME_EMAIL", storage.lookup "REMEMBER_ME_PASSWORD")

/-- What a form leaves to be remembered. -/
def LoginForm.remembered (form : LoginForm) : Option Scalar × Option Scalar :=
  if form.rememberMe then
    (some (.string (Dart.trim form.email)), some (.string (Dart.trim form.password)))
  else (none, none)

/-- The fields of the login screen that opens after a form was submitted. -/
def LoginForm.prefilled (form : LoginForm) : LoginFields :=
  if form.rememberMe then
    ⟨Dart.trim form.email, Dart.trim form.password,
      !(Dart.trim form.email).isEmpty && !(Dart.trim form.password).isEmpty⟩
  else ⟨"", "", false⟩

/-- The form that an operation submits with a call: that of the login screen. -/
def submission : StorageOperation → Moment Reply World Exn → Option LoginForm
  | .app (.emailAndPasswordSignIn form), .issued _ (.signInWithEmailAndPassword _ _) => some form
  | _, _ => none

/-- The forms that were submitted, in the order in which they were. -/
def submissions (ms : NamedHistory (Nat × StorageOperation)) : List LoginForm :=
  ms.filterMap fun m => submission m.call.1.2 (m.seen (Parts.whole _ World))

/-- The remembered login as the history tells it. -/
def rememberAct (op : StorageOperation) (v : Option Scalar × Option Scalar)
    (m : Moment Reply World Exn) : Option Scalar × Option Scalar :=
  ((submission op m).map (·.remembered)).getD v

/-- The stored login decides what the fields show. -/
theorem onInit_congr {w w' : World}
    (h : rememberedLogin w.deviceStorage = rememberedLogin w'.deviceStorage) :
    LoginController.onInit w = LoginController.onInit w' := by
  obtain ⟨hemail, hpassword⟩ := Prod.mk.inj h
  simp only [LoginController.onInit, World.readText, hemail, hpassword]

theorem onInit_of_remembered {w : World} {form : LoginForm}
    (h : rememberedLogin w.deviceStorage = form.remembered) :
    LoginController.onInit w = .ok form.prefilled := by
  unfold LoginForm.remembered at h
  unfold LoginForm.prefilled
  by_cases hremember : form.rememberMe = true
  · rw [if_pos hremember] at h ⊢
    obtain ⟨hemail, hpassword⟩ := Prod.mk.inj h
    simp only [LoginController.onInit, World.readText, hemail, hpassword]
    rfl
  · rw [if_neg hremember] at h ⊢
    obtain ⟨hemail, hpassword⟩ := Prod.mk.inj h
    simp only [LoginController.onInit, World.readText, hemail, hpassword]
    rfl

/-- A form is remembered as the switch says. -/
theorem rememberedLogin_rememberLogin (form : LoginForm) (w : World) :
    rememberedLogin (LoginController.rememberLogin form w).deviceStorage = form.remembered := by
  unfold LoginController.rememberLogin LoginForm.remembered
  split
  · have hne : "REMEMBER_ME_EMAIL" ≠ "REMEMBER_ME_PASSWORD" := by decide
    simp [rememberedLogin, World.writeStorage, AList.lookup_insert_ne hne]
  · have hne : "REMEMBER_ME_EMAIL" ≠ "REMEMBER_ME_PASSWORD" := by decide
    simp [rememberedLogin, World.removeStorage, AList.lookup_erase_ne hne]

/-- The mark of the first start is kept under another key. -/
theorem rememberedLogin_insert (storage : AList fun _ : String => Scalar) (v : Scalar) :
    rememberedLogin (storage.insert "isFirstTime" v) = rememberedLogin storage := by
  have hemail : "REMEMBER_ME_EMAIL" ≠ "isFirstTime" := by decide
  have hpassword : "REMEMBER_ME_PASSWORD" ≠ "isFirstTime" := by decide
  simp only [rememberedLogin, AList.lookup_insert_ne hemail, AList.lookup_insert_ne hpassword]

section Operations

variable {op : StorageOperation}

theorem announces_rememberCall {c : Call}
    (hc : ∀ form email password, op = .app (.emailAndPasswordSignIn form) →
      c ≠ .signInWithEmailAndPassword email password) :
    Announces rememberedLogin (rememberAct op) (await c) := by
  apply announces_call
  · intro v w
    unfold rememberAct submission
    split
    case h_1 hm =>
      cases hm
      exact absurd rfl (hc _ _ _ rfl)
    case h_2 => rfl
  · intro v w r
    unfold rememberAct submission
    split
    case h_1 hm => cases hm
    case h_2 => rfl

theorem announces_rememberUpdate {u : World → World}
    (hu : ∀ w, rememberedLogin (u w).deviceStorage = rememberedLogin w.deviceStorage) :
    Announces rememberedLogin (rememberAct op) (Prog.modify u) :=
  Prog.journaled_modify hu

theorem announces_rememberRedirect :
    Announces rememberedLogin (rememberAct op) AuthenticationRepository.screenRedirect := by
  apply closed_screenRedirect closed_announces.toSequential (readsHave_of_closed closed_announces)
  · apply closed_updateLastActive closed_announces.toSequential
    · exact announces_rememberCall nofun
    · exact fun _ _ _ => announces_rememberCall nofun
  · exact fun _ _ => announces_rememberCall nofun
  · apply announces_rememberUpdate
    intro w
    unfold World.writeIfNull
    split
    · rfl
    · exact rememberedLogin_insert _ _
  · exact announces_rememberCall nofun

/-- The call of the sign-in tells which form has been remembered. -/
theorem records_loginWithEmailAndPassword {form : LoginForm} {w : World}
    (hw : rememberedLogin w.deviceStorage = form.remembered)
    (v : Option Scalar × Option Scalar) (email password : String) :
    (AuthenticationRepository.loginWithEmailAndPassword email password).Records overlapping
      (fun w => rememberedLogin w.deviceStorage)
      (rememberAct (.app (.emailAndPasswordSignIn form)))
      (fun _ v w => rememberedLogin w.deviceStorage = v) v w := by
  have hafter (userCredential : UserCredential) : Announces rememberedLogin
      (rememberAct (.app (.emailAndPasswordSignIn form))) (do
        AuthenticationRepository.updateFirestoreEmailIfNeeded userCredential.user.uid email
        return userCredential) := by
    refine closed_announces.bind ?_ fun _ => closed_announces.done _
    apply closed_updateFirestoreEmailIfNeeded closed_announces.toSequential
    · exact fun _ => announces_rememberCall nofun
    · exact fun _ _ _ => announces_rememberCall nofun
  apply records_andThen
  apply records_andThen
  apply records_invoke rfl
  · exact hw
  · intro r w'
    cases r with
    | error e => rfl
    | ok userCredential =>
      apply records_mono (hafter userCredential w')
      intro r v w hview
      cases r <;> exact hview

/-- The sign-in announces the form that it remembers with the call that submits it. -/
theorem announces_emailAndPasswordSignIn (form : LoginForm) :
    Announces rememberedLogin (rememberAct (.app (.emailAndPasswordSignIn form)))
      (LoginController.emailAndPasswordSignIn form) := by
  have hnotice (c : Call) (hc : c.isNotice = true) : Announces rememberedLogin
      (rememberAct (.app (.emailAndPasswordSignIn form))) (await c) := by
    apply announces_rememberCall
    rintro form email password - rfl
    cases hc
  apply closed_withLoader closed_announces.toSequential hnotice (by decide)
  apply closed_whenConnected closed_announces.toSequential hnotice
  apply closed_whenValid closed_announces.toSequential hnotice
  intro w
  rw [records_modify_bind]
  apply records_andThen
  apply records_mono
    (records_loginWithEmailAndPassword (rememberedLogin_rememberLogin form w) _ _ _)
  intro r v w hview
  subst hview
  cases r with
  | error e => exact closed_announces.done (Except.error e) w
  | ok userCredential =>
    have hrest :=
      closed_announces.bind (closed_stopLoading closed_announces.toSequential hnotice) fun _ =>
      closed_announces.unawaited announces_rememberRedirect
    exact hrest w

theorem StorageOperation.announcesLogin (intl : Intl) (repository : LocationRepository)
    (op : StorageOperation) :
    Announces rememberedLogin (rememberAct op) (op.body intl repository) := by
  cases op with
  | nextPage s =>
    show Announces _ _ s.nextPage.2
    unfold OnBoardingController.nextPage
    split
    · refine closed_announces.bind ?_ fun _ => announces_rememberCall nofun
      exact announces_rememberUpdate fun w => rememberedLogin_insert _ _
    · exact closed_announces.done _
  | app op =>
    by_cases hform : ∃ form, op = .emailAndPasswordSignIn form
    · obtain ⟨form, rfl⟩ := hform
      exact announces_emailAndPasswordSignIn form
    · apply closed_body closed_announces
      · intro c hc _
        apply announces_rememberCall
        rintro form email password heq -
        cases heq
        exact hform ⟨form, rfl⟩
      · exact fun u hu => announces_update fun w => congrArg Prod.fst (hu w)
      · exact announces_rememberRedirect
      · intro form heq
        exact absurd ⟨form, heq⟩ hform
      · exact fun _ => announces_rememberCall nofun
      · exact fun _ _ _ => announces_rememberCall nofun

end Operations

/-- Whatever overlaps, the login screen shows the login of the last form that was submitted, if
that was to be remembered, and empty fields else; the answer to the form does not matter. -/
theorem remembered_login {intl : Intl} {repository : LocationRepository} {w₀ : World}
    {ms : NamedHistory (Nat × StorageOperation)} {c : NamedPool (Nat × StorageOperation)}
    (hrun : Pool.Run (namedPlatform (Nat × StorageOperation))
      (namedBody fun i => i.2.body intl repository) ⟨w₀, []⟩ ms c) :
    LoginController.onInit c.state = match (submissions ms).getLast? with
      | none => LoginController.onInit w₀
      | some form => .ok form.prefilled := by
  have hserved (i : Nat × StorageOperation) (v : Option Scalar × Option Scalar) (w : World)
      (call : Call) (r : Except Exn (Reply call)) (_ : overlapping.awaited call = true) :
      rememberAct i.2 v (.answered ⟨w, call, r⟩) = v := by
    have hnone : submission i.2 (.answered ⟨w, call, r⟩) = none := by
      unfold submission
      split
      case h_1 hm => cases hm
      case h_2 => rfl
    rw [rememberAct, hnone]
    rfl
  have hjournal := storage_journal (fun i : Nat × StorageOperation =>
    i.2.announcesLogin intl repository) hserved hrun
  have hlast : rememberedLogin c.state.deviceStorage =
      (ms.filterMap fun m => (submission m.call.1.2 (m.seen (Parts.whole _ World))).map
        (·.remembered)).getLast?.getD (rememberedLogin w₀.deviceStorage) :=
    hjournal.last.trans (foldl_overwrite _ _ _)
  rw [← List.map_filterMap, List.getLast?_map] at hlast
  change _ = ((submissions ms).getLast?.map _).getD _ at hlast
  cases hsubmitted : (submissions ms).getLast? with
  | none =>
    rw [hsubmitted] at hlast
    exact onInit_congr hlast
  | some form =>
    rw [hsubmitted] at hlast
    exact onInit_of_remembered hlast

/-- Two forms are under way at once and both are rejected. The second is what is shown, without the
blanks that were typed around the email. -/
theorem remembered_login_rejected : ∃ (ms : NamedHistory (Nat × StorageOperation))
    (c : NamedPool (Nat × StorageOperation)),
    Pool.Run (namedPlatform (Nat × StorageOperation))
      (namedBody fun i => i.2.body Intl.utc ⟨none⟩) ⟨World.withUsers [], []⟩ ms c ∧
    (submissions ms).length = 2 ∧ c.state.currentUser = none ∧
    LoginController.onInit c.state = .ok ⟨"b@x", "two", true⟩ := by
  obtain ⟨ms, c, hrun, hq⟩ := named_pool_run
    (fun i : Nat × StorageOperation => i.2.body Intl.utc ⟨none⟩) (World.withUsers [])
    (throwing (fun c => c = .signInWithEmailAndPassword "a@x" "one" ∨
      c = .signInWithEmailAndPassword "b@x" "two") (.firebaseAuth "wrong-password" ""))
    [.start (0, .app (.emailAndPasswordSignIn ⟨"a@x", "one", false, some true⟩)),
      .start (1, .app (.emailAndPasswordSignIn ⟨" b@x ", "two", true, some true⟩)),
      .go 0, .go 1, .go 0, .go 1, .go 1, .go 1, .go 0, .go 0]
    (fun out => decide ((submissions out.1).length = 2) &&
      decide ((submissions out.1).getLast? = some ⟨" b@x ", "two", true, some true⟩) &&
        out.2.state.currentUser.isNone)
    (by decide +kernel)
  obtain ⟨hforms, hnobody⟩ := Bool.and_eq_true_iff.mp hq
  obtain ⟨hlength, hlast⟩ := Bool.and_eq_true_iff.mp hforms
  refine ⟨ms, c, hrun, of_decide_eq_true hlength, Option.isNone_iff_eq_none.mp hnobody, ?_⟩
  rw [remembered_login hrun, of_decide_eq_true hlast]
  rfl

end AroundMuseo
