import AroundMuseo.System.Alarms

/-!
# What the accounts announce

The failures of the operations on the account and the user's record. The side tasks keep theirs to
themselves, and so does the prompt of Google with those that no `on` clause names.
-/

namespace AroundMuseo

open Async Firestore

section Repositories

variable {op : AppOperation}

/-- A failure to note the last activity is kept quiet and caught. -/
theorem calm_updateLastActive (hop : op.redirects = true) (uid : String) :
    Calm op (AuthenticationRepository.updateLastActive uid) := by
  rw [AuthenticationRepository.updateLastActive]
  split
  · apply calm_handle _ fun _ => calm_pure ()
    apply (closed_hushed op).bind (hushed_of_calm (calm_sync rfl rfl))
    exact fun _ => hushed_call rfl fun _ => hop
  · exact calm_pure ()

/-- What fails in the redirection is kept quiet and caught. -/
theorem calm_screenRedirect (hop : op.redirects = true) :
    Calm op AuthenticationRepository.screenRedirect := by
  apply calm_bind (calm_read _)
  intro user
  cases user with
  | some user =>
    apply calm_bind (calm_unawaited (hushed_of_calm (calm_updateLastActive hop _)))
    intro _
    split
    · exact calm_sync rfl rfl
    · exact calm_bind (calm_read _) fun _ => calm_sync rfl rfl
  | none =>
    refine calm_bind (calm_modify _) fun _ => calm_bind (calm_read _) fun isFirstTime => ?_
    split <;> exact calm_sync rfl rfl

theorem calm_redirect (hop : op.redirects = true) :
    Calm op AuthenticationRepository.screenRedirect.unawaited :=
  calm_unawaited (hushed_of_calm (calm_screenRedirect hop))

/-- A failure to copy the email is kept quiet and caught. -/
theorem calm_updateFirestoreEmail (hop : op.redirects = true) (uid email : String) :
    Calm op (AuthenticationRepository.updateFirestoreEmailIfNeeded uid email) := by
  apply calm_handle _ fun _ => calm_pure ()
  refine (closed_hushed op).bind (hushed_call rfl fun _ => rfl) fun userDoc => ?_
  refine (closed_hushed op).bind ((closed_hushed op).done _) fun firestoreEmail => ?_
  split
  · exact hushed_call rfl fun _ => hop
  · exact hushed_of_calm (calm_pure ())

/-- A failure to take an account back is kept quiet and caught. -/
theorem calm_deleteUser (hop : op.isGoogleSignIn = true) (uid : Option String) :
    Calm op (AuthenticationRepository.deleteUser uid) := by
  cases uid with
  | none => exact calm_pure ()
  | some uid =>
    apply calm_handle _ fun _ => calm_pure ()
    apply (closed_hushed op).bind ((closed_hushed op).read _)
    intro user
    cases user with
    | none => exact hushed_of_calm (calm_pure ())
    | some user => exact hushed_call rfl fun _ => hop

theorem strict_docRef (n : CollectionName) (path : Option String) : Strict op (docRef n path) := by
  cases path with
  | none => exact strict_sync rfl
  | some path => exact strict_done _

/-- What goes wrong while a field is written goes on to the controller. -/
theorem strict_updateSingleField (hop : op.redirects = false) (json : Doc) :
    Strict op (UserRepository.updateSingleField json) := by
  apply strict_rethrow
  apply strict_bind (strict_read _)
  intro user
  exact strict_bind (strict_docRef _ _) fun id => strict_call rfl fun _ => hop

/-- A password that is not accepted goes on to the controller. -/
theorem strict_reAuthenticate (email password : String) :
    Strict op (AuthenticationRepository.reAuthenticateWithEmailAndPassword email password) := by
  apply strict_rethrow
  apply strict_bind (strict_read _)
  intro user
  cases user with
  | none => exact strict_done _
  | some user => exact strict_call rfl fun _ => rfl

/-- What goes wrong while an account is deleted goes on to the controller. -/
theorem strict_deleteAccount (hop : op.isGoogleSignIn = false) :
    Strict op AuthenticationRepository.deleteAccount := by
  apply strict_rethrow
  apply strict_bind (strict_read _)
  intro user
  cases user with
  | none => exact strict_done _
  | some user =>
    apply strict_bind (strict_rethrow (strict_call rfl fun _ => rfl) _)
    intro _
    apply strict_bind (strict_read _)
    intro user
    cases user with
    | none => exact strict_done _
    | some user => exact strict_call rfl fun _ => hop

theorem strict_sendPasswordReset (email : String) :
    Strict op (AuthenticationRepository.sendPasswordResetEmail email) :=
  strict_rethrow (strict_call rfl fun _ => rfl) _

/-- The logout, where its failures are to be told. -/
theorem strict_logout (hleaves : op.leaves = false) (hprompts : op.prompts = false) :
    Strict op AuthenticationRepository.logout := by
  apply strict_rethrow
  apply strict_bind
  · apply strict_call rfl
    intro e
    simp [AppOperation.swallows, hleaves, hprompts]
  · exact fun _ => strict_bind (strict_call rfl fun _ => hleaves) fun _ => strict_sync rfl

/-- The logout, where nobody waits for it. -/
theorem calm_logout (hleaves : op.leaves = true) :
    Calm op AuthenticationRepository.logout.unawaited := by
  apply calm_unawaited
  apply (closed_hushed op).handle _ fun _ => (closed_hushed op).done _
  apply (closed_hushed op).bind
  · apply hushed_call rfl
    intro e
    simp [AppOperation.swallows, hleaves]
  · intro _
    apply (closed_hushed op).bind
    · exact hushed_call rfl fun _ => hleaves
    · exact fun _ => hushed_of_calm (calm_sync rfl rfl)

end Repositories

section Prompts

variable {op : AppOperation} {α β : Type} {c : Call}

/-- How the calls to Google and to its accounts end. -/
def PromptEnds (op : AppOperation) (r : Except Exn α) (a : Alarm) : Prop :=
  (∃ v, r = .ok v) ∧ a = .quiet ∨ ∃ e, r = .error e ∧
    if e.isMapped = true then a = .due else a.Free ∧ (op.goesOn = true → a = .quiet)

abbrev Prompting (op : AppOperation) (p : App α) : Prop := Watched op p (PromptEnds op) .quiet

/-- The prompt swallows exactly what it has no text for. -/
theorem prompting_call (hc : c.awaited = true) (hunmapped : ∀ e, op.swallows c e = !e.isMapped) :
    Prompting op (await c) := by
  have hannounces := announces_of_awaited hc
  apply watched_call
  · exact fun w v => .inl ⟨⟨v, rfl⟩, alarm_answered hannounces v⟩
  · intro _ w e
    refine .inr ⟨e, rfl, ?_⟩
    cases hmapped : e.isMapped with
    | true =>
      rw [if_pos rfl]
      exact alarm_loud hannounces (by rw [hunmapped, hmapped]; rfl) (by simp)
    | false =>
      rw [if_neg (by simp)]
      exact alarm_swallowed hannounces (by rw [hunmapped, hmapped]; rfl) free_quiet

theorem prompting_sync (hc : c.awaited = false) (hquiet : c.announces = false) :
    Prompting op (await c) :=
  watched_sync hc hquiet fun v => .inl ⟨⟨v, rfl⟩, rfl⟩

theorem prompting_pure (v : α) : Prompting op (pure v : App α) :=
  watched_done (.inl ⟨⟨v, rfl⟩, rfl⟩)

theorem prompting_bind {p : App α} {f : α → App β} (hp : Prompting op p)
    (hf : ∀ v, Prompting op (f v)) : Prompting op (p >>= f) := by
  apply watched_bind hp
  · rintro v a (⟨-, rfl⟩ | ⟨e, he, -⟩)
    · exact hf v
    · cases he
  · rintro e a (⟨⟨v, hv⟩, -⟩ | ⟨e', he', h⟩)
    · cases hv
    · cases he'
      exact .inr ⟨e, rfl, h⟩

/-- An operation that shows the prompt waits for its logout, if it has one. -/
theorem leaves_of_prompts (hop : op.prompts = true) : op.leaves = false := by
  cases op <;> first | rfl | cases hop

/-- What is not named by an `on` clause ends like a cancelled prompt. -/
theorem watched_prompting {p : App (Option UserCredential)} (hp : Prompting op p) :
    Watched op (tryCatch p fun e => if e.isMapped then throw (e.authRethrown "") else pure none)
      (fun r a => (∃ e, r = .error e) ∧ a = .due ∨ (∃ v, r = .ok v) ∧ a = .quiet ∨
        r = .ok none ∧ a.Free ∧ op.goesOn = false) .quiet := by
  apply watched_handle hp
  · rintro v a (⟨-, rfl⟩ | ⟨e, he, -⟩)
    · exact .inr (.inl ⟨⟨v, rfl⟩, rfl⟩)
    · cases he
  · rintro e a (⟨⟨v, hv⟩, -⟩ | ⟨e', he', h⟩)
    · cases hv
    · cases he'
      split
      case isTrue hmapped =>
        rw [if_pos hmapped] at h
        exact watched_done (.inl ⟨⟨_, rfl⟩, h⟩)
      case isFalse hmapped =>
        rw [if_neg hmapped] at h
        apply watched_done
        cases hgoes : op.goesOn with
        | true => exact .inr (.inl ⟨⟨none, rfl⟩, h.2 hgoes⟩)
        | false => exact .inr (.inr ⟨rfl, h.1, rfl⟩)

/-- The prompt throws a failure that has a text, and returns nothing after any other. -/
theorem watched_signInWithGoogle (hop : op.prompts = true) :
    Watched op AuthenticationRepository.signInWithGoogle
      (fun r a => (∃ e, r = .error e) ∧ a = .due ∨ (∃ v, r = .ok v) ∧ a = .quiet ∨
        r = .ok none ∧ a.Free ∧ op.goesOn = false) .quiet := by
  have hsignOut : ∀ e, op.swallows .googleSignOut e = !e.isMapped := by
    intro e
    simp [AppOperation.swallows, leaves_of_prompts hop, hop]
  apply watched_prompting
  refine prompting_bind (prompting_call rfl hsignOut) fun _ => ?_
  apply prompting_bind (prompting_call rfl fun _ => rfl)
  intro account
  cases account with
  | none => exact prompting_pure none
  | some account =>
    refine prompting_bind (prompting_call rfl fun _ => rfl) fun googleAuth => ?_
    refine prompting_bind (prompting_call rfl fun _ => rfl) fun userCredential => ?_
    refine prompting_bind (prompting_sync rfl rfl) fun now => ?_
    refine prompting_bind (prompting_call rfl fun _ => rfl) fun _ => ?_
    exact prompting_pure (some userCredential)

/-- Where the operation goes on anyway, no failure of the prompt is left to be told. -/
theorem strict_signInWithGoogle (hop : op.goesOn = true) :
    Strict op AuthenticationRepository.signInWithGoogle := by
  have hprompts : op.prompts = true := by simp [AppOperation.prompts, hop]
  apply (watched_signInWithGoogle hprompts).mono
  rintro r a (⟨⟨e, rfl⟩, rfl⟩ | ⟨-, rfl⟩ | ⟨-, -, hgoes⟩)
  · exact ⟨.due e, by simp⟩
  · exact ⟨.quiet r, by simp⟩
  · exact Bool.noConfusion (hop.symm.trans hgoes)

/-- A failed search counts as an email that is not registered. -/
theorem watched_isRegisteredEmail (email : Option String) :
    Watched op (AuthenticationRepository.isRegisteredEmail email) (fun r a =>
      (∃ v, r = .ok v) ∧ a = .quiet ∨ r = .ok false ∧ a = .due) .quiet := by
  cases email with
  | none => exact watched_done (.inl ⟨⟨false, rfl⟩, rfl⟩)
  | some email =>
    have hsearch : Strict op (do
        let querySnapshot ← await (.whereEq .users "Email" (Scalar.string email))
        pure !querySnapshot.isEmpty) :=
      strict_bind (strict_call rfl fun _ => rfl) fun _ => strict_done _
    apply watched_handle hsearch
    · rintro v a ⟨h, hmuted⟩
      rcases free_of_resolved h with rfl | rfl
      · exact .inl ⟨⟨v, rfl⟩, rfl⟩
      · exact absurd rfl hmuted
    · rintro e a ⟨h, -⟩
      rcases h.thrown with rfl | rfl
      · exact watched_done (.inl ⟨⟨false, rfl⟩, rfl⟩)
      · exact watched_done (.inr ⟨rfl, rfl⟩)

/-- The search decides; if it has failed, the announcement is that of an unknown email. -/
theorem loud_redirectOrDelete (userCredential : UserCredential) :
    Loud .googleSignIn (LoginController.redirectOrDelete userCredential) := by
  have hunknown : ∀ a : Alarm, a = .quiet ∨ a = .due → Watched .googleSignIn (do
      FullScreenLoader.stopLoading
      await (.snackBar .error "Unregistered Email"
        "This Google account is not registered. Please sign up first.")
      AuthenticationRepository.deleteUser (some userCredential.user.uid)) Resolved a := by
    intro a ha
    apply watched_stopLoading_bind
    apply watched_bind (warns_call rfl rfl a ha)
    · rintro v a' ⟨-, rfl⟩
      exact loud_of_calm (calm_deleteUser rfl _)
    · rintro e a' ⟨⟨v, hv⟩, -⟩
      cases hv
  apply watched_bind (watched_isRegisteredEmail _)
  · rintro v a (⟨-, rfl⟩ | ⟨hv, rfl⟩)
    · cases v with
      | true => exact loud_of_calm (calm_bind calm_stopLoading fun _ => calm_redirect rfl)
      | false => exact hunknown _ (.inl rfl)
    · cases hv
      exact hunknown _ (.inr rfl)
  · rintro e a (⟨⟨v, hv⟩, -⟩ | ⟨hv, -⟩) <;> cases hv

end Prompts

section Operations

variable {op : AppOperation}

/-- The sign-in with Google announces the failures that it does not keep quiet. -/
theorem loud_googleSignIn : Loud .googleSignIn LoginController.googleSignIn := by
  apply loud_withLoader (.inr rfl)
  have hoffline : ∀ a : Alarm, a = .quiet ∨ a = .due → Watched .googleSignIn (do
      FullScreenLoader.stopLoading
      await (.snackBar .error "No Internet" "Please check your internet connection."))
      Resolved a := by
    intro a ha
    apply watched_stopLoading_bind
    exact (warns_call rfl rfl a ha).mono fun _ _ h => resolved_of_free h.1 (.inl h.2)
  apply watched_bind watched_isConnected
  · rintro v a (⟨⟨e, he⟩, -⟩ | ⟨-, rfl⟩ | ⟨hv, ha⟩)
    · cases he
    · cases v with
      | false => exact hoffline _ (.inl rfl)
      | true =>
        apply watched_bind (watched_signInWithGoogle rfl)
        · rintro credential a (⟨⟨e, he⟩, -⟩ | ⟨-, rfl⟩ | ⟨hnone, ha, -⟩)
          · cases he
          · cases credential with
            | none => exact loud_of_calm calm_stopLoading
            | some credential => exact loud_redirectOrDelete credential
          · cases hnone
            exact gentle_of_calm calm_stopLoading a ha
        · rintro e a (⟨-, rfl⟩ | ⟨⟨v, hv⟩, -⟩ | ⟨hnone, -⟩)
          · exact .due e
          · cases hv
          · cases hnone
    · cases hv
      exact hoffline a (.inr ha)
  · rintro e a (⟨-, rfl⟩ | ⟨⟨v, hv⟩, -⟩ | ⟨hv, -⟩)
    · exact .due e
    · cases hv
    · cases hv

/-- The sign-in by password announces every failure. -/
theorem loud_emailAndPasswordSignIn (form : LoginForm) :
    Loud (.emailAndPasswordSignIn form) (LoginController.emailAndPasswordSignIn form) := by
  apply loud_checked (.inr rfl) rfl
  apply loud_bind (strict_modify _)
  intro _
  apply loud_then
  · apply loud_rethrow
    apply loud_bind (strict_call rfl fun _ => rfl)
    intro userCredential
    apply loud_of_calm
    exact calm_bind (calm_updateFirestoreEmail rfl _ _) fun _ => calm_pure userCredential
  · intro _
    apply gentle_of_calm
    exact calm_bind calm_stopLoading fun _ => calm_redirect rfl

theorem strict_firstProvider : Strict op UserController.firstProvider := by
  apply strict_bind (strict_read _)
  intro user
  cases user with
  | none => exact strict_done _
  | some user =>
    dsimp only
    split <;> exact strict_done _

/-- The deletion announces the failures of its prompt and of the removal. -/
theorem loud_deleteUserAccount : Loud .deleteUserAccount UserController.deleteUserAccount := by
  apply loud_withLoader (.inl rfl)
  apply loud_of_strict
  apply strict_bind strict_firstProvider
  intro provider
  split
  · split
    · refine strict_bind (strict_signInWithGoogle rfl) fun _ => ?_
      refine strict_bind (strict_deleteAccount rfl) fun _ => ?_
      exact strict_bind strict_stopLoading fun _ => strict_sync rfl
    · split
      · exact strict_bind strict_stopLoading fun _ => strict_sync rfl
      · exact strict_done _
  · exact strict_done _

/-- The change of the email announces the failures of its prompt. -/
theorem loud_resetEmailAddress : Loud .resetEmailAddress UserController.resetEmailAddress := by
  apply loud_withLoader (.inl rfl)
  apply loud_of_strict
  refine strict_bind (strict_read _) fun currentUser => ?_
  refine strict_bind strict_firstProvider fun provider => ?_
  split
  · split
    · refine strict_bind (strict_signInWithGoogle rfl) fun _ => ?_
      refine strict_bind strict_stopLoading fun _ => strict_bind (strict_read _) fun user => ?_
      split
      · exact strict_bind (strict_sync rfl) fun _ => strict_sync rfl
      · exact strict_sync rfl
    · split
      · exact strict_bind strict_stopLoading fun _ => strict_sync rfl
      · exact strict_done _
  · exact strict_done _

/-- A sign-up announces every failure. -/
theorem loud_signup (form : SignupForm) : Loud (.signup form) (SignupController.signup form) := by
  apply loud_checked (.inr rfl) rfl
  apply loud_of_strict
  split
  · refine strict_bind (strict_rethrow (strict_call rfl fun _ => rfl) _) fun userCredential => ?_
    apply strict_bind
    · apply strict_rethrow
      refine strict_bind (strict_sync rfl) fun _ => strict_bind (strict_sync rfl) fun _ => ?_
      exact strict_bind (strict_sync rfl) fun _ => strict_call rfl fun _ => rfl
    · refine fun _ => strict_bind strict_stopLoading fun _ => ?_
      exact strict_bind (strict_sync rfl) fun _ => strict_sync rfl
  · exact strict_bind (strict_sync rfl) fun _ => strict_stopLoading

/-- An update of the profile announces every failure, whatever page it leaves for. -/
theorem loud_updateProfile {leave : App Unit} (hredirects : op.redirects = false)
    (hleave : Strict op leave) (form : Option Bool) (fields : Doc)
    (assign : UserModel → UserModel) :
    Loud op (updateProfile form fields assign leave) := by
  have hop : op.isGoogleSignIn = false := by
    cases op <;> first | rfl | cases hredirects
  apply loud_checked (.inr rfl) hop
  apply loud_of_strict
  refine strict_bind (strict_updateSingleField hredirects _) fun _ => ?_
  refine strict_bind (strict_modify _) fun _ => strict_bind strict_stopLoading fun _ => hleave

theorem strict_reportAndLeave (message : String) : Strict op (reportAndLeave message) :=
  strict_bind (strict_sync rfl) fun _ => strict_sync rfl

/-- The change announces that the mail could not be sent. -/
theorem loud_updateEmailAddress (email : String) (form : Option Bool) :
    Loud (.updateEmailAddress email form)
      (UpdateEmailController.updateEmailAddress email form) := by
  have hreport (title message : String) : Loud (.updateEmailAddress email form) (do
      await (.snackBar .success title message)
      AuthenticationRepository.logout.unawaited) :=
    loud_bind (strict_sync rfl) fun _ => loud_of_calm (calm_logout rfl)
  apply loud_checked (.inr rfl) rfl
  apply loud_bind (strict_read _)
  intro currentUser
  split
  · refine loud_bind strict_stopLoading fun _ => loud_bind (strict_read _) fun user => ?_
    cases user with
    | none => exact hreport _ _
    | some user => exact loud_bind (strict_call rfl fun _ => rfl) fun _ => hreport _ _
  · exact loud_of_strict (strict_bind strict_stopLoading fun _ => strict_sync rfl)

/-- The upload announces the failures of the picker, the storage and the record. -/
theorem loud_uploadUserProfilePicture :
    Loud .uploadUserProfilePicture UserController.uploadUserProfilePicture := by
  apply watched_ensure
  apply loud_of_ends
  apply ends_handle
  · apply loud_of_strict
    apply strict_bind (strict_call rfl fun _ => rfl)
    intro source
    cases source with
    | none => exact strict_done _
    | some source =>
      apply strict_bind (strict_call rfl fun _ => rfl)
      intro image
      cases image with
      | none => exact strict_done _
      | some image =>
        refine strict_bind (strict_modify _) fun _ => ?_
        apply strict_bind
        · apply strict_rethrow
          exact strict_bind (strict_call rfl fun _ => rfl) fun _ => strict_call rfl fun _ => rfl
        · refine fun imageUrl => strict_bind (strict_updateSingleField rfl _) fun _ => ?_
          exact strict_bind (strict_modify _) fun _ => strict_sync rfl
  · intro e a ha
    exact watched_stopLoading_bind (warns_call rfl rfl a ha)

/-- A record that cannot be read is kept quiet. -/
theorem calm_fetchUserRecord : Calm op UserController.fetchUserRecord := by
  have hclosed := closed_hushed op
  have hsync (c : Call) (hc : c.awaited = false) (hquiet : c.announces = false) :
      Hushed op (await c) :=
    hushed_of_calm (calm_sync hc hquiet)
  have hfetch : Hushed op UserRepository.fetchUserDetails := by
    apply hclosed.handle _ fun _ => hclosed.done _
    apply hclosed.bind (hclosed.read _)
    intro user
    apply hclosed.bind
    · cases user with
      | none => exact hsync _ rfl rfl
      | some user => exact hclosed.done _
    · intro id
      refine hclosed.bind (hushed_call rfl fun _ => rfl) fun data => ?_
      refine hclosed.bind (hsync _ rfl rfl) fun _ => hclosed.bind (hsync _ rfl rfl) fun _ => ?_
      refine hclosed.bind (hsync _ rfl rfl) fun _ => ?_
      cases data <;> exact hclosed.done _
  intro a ha
  apply watched_ensure
  revert a ha
  apply calm_handle
  · refine hclosed.bind (hushed_of_calm (calm_modify _)) fun _ => ?_
    exact hclosed.bind hfetch fun _ => hushed_of_calm (calm_modify _)
  · intro e
    refine calm_bind (calm_sync rfl rfl) fun _ => calm_bind (calm_sync rfl rfl) fun _ => ?_
    exact calm_bind (calm_sync rfl rfl) fun _ => calm_modify _

/-- A mail that could not be sent is announced. -/
theorem loud_sendEmailVerification : Loud op VerifyEmailController.sendEmailVerification := by
  apply loud_of_ends
  apply ends_reported _ fun _ => rfl
  apply loud_of_strict
  apply strict_bind _ fun _ => strict_sync rfl
  apply strict_rethrow
  apply strict_bind (strict_read _)
  intro user
  cases user with
  | none => exact strict_done _
  | some user => exact strict_call rfl fun _ => rfl

/-- A reload that throws ends the callback. -/
theorem strict_timerCallback (screen : Nat) :
    Strict op (VerifyEmailController.timerCallback screen) := by
  refine strict_bind (strict_call rfl fun _ => rfl) fun _ => ?_
  refine strict_bind (strict_read _) fun user => ?_
  split
  · exact strict_bind (strict_modify _) fun _ => strict_sync rfl
  · exact strict_done _

theorem strict_checkEmailVerificationStatus :
    Strict op VerifyEmailController.checkEmailVerificationStatus := by
  apply strict_bind (strict_read _)
  intro user
  cases user with
  | none => exact strict_done _
  | some user =>
    dsimp only
    split
    · exact strict_sync rfl
    · exact strict_done _

end Operations

end AroundMuseo
