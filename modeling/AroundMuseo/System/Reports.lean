import AroundMuseo.Core.Vetted
import AroundMuseo.Locations.Calendar
import AroundMuseo.System.Parts

/-!
# Reports of a success

Some operations end with a message that something was done: a mail was sent, a record written, an
account deleted. Whatever the calls are answered and whatever overlaps, the message is shown
exactly when the call that it is about was answered, and no other call has failed before. Three
operations look for the user first, and report a success if nobody is signed in.
-/

namespace AroundMuseo

open Async Firestore

/-- The call writes the fields to the record of a user. -/
def Call.updatesRecord (fields : Doc) : Call → Bool
  | .update .users _ d => d = fields
  | _ => false

/-- The call writes the picture to the record of a user. -/
def Call.updatesPicture : Call → Bool
  | .update .users _ d => (d.lookup "ProfilePicture").isSome
  | _ => false

/-- The call stores a record. -/
def Call.createsRecord : Call → Bool
  | .set .users _ _ => true
  | _ => false

/-- The call asks for a mail that verifies the email of an account. -/
def Call.sendsVerification : Call → Bool
  | .sendEmailVerification _ => true
  | _ => false

/-- The call asks for a mail that verifies a new email. -/
def Call.changesEmail (email : String) : Call → Bool
  | .verifyBeforeUpdateEmail _ email' => email' = email
  | _ => false

/-- The call that the report of an operation is about. -/
def AppOperation.deed (op : AppOperation) (c : Call) : Bool :=
  match op with
  | sendPasswordResetEmail email _ => c = .sendPasswordResetEmail (Dart.trim email)
  | resendPasswordResetEmail email => c = .sendPasswordResetEmail email
  | sendEmailVerification => c.sendsVerification
  | signup _ => c.createsRecord
  | reAuthenticateForDeletion _ => c.deletesAccount
  | uploadUserProfilePicture => c.updatesPicture
  | updateUserName firstName lastName _ => c.updatesRecord (Doc.ofFields [
      ("FirstName", Scalar.string (Dart.trim firstName)),
      ("LastName", Scalar.string (Dart.trim lastName))])
  | updateAddress city provState country _ => c.updatesRecord (Doc.ofFields [
      ("AddressCity", Scalar.string (Dart.trim city)),
      ("AddressProvState", Scalar.string (Dart.trim provState)),
      ("AddressCountry", Scalar.string (Dart.trim country))])
  | updateBirthYear birthYear _ =>
    c.updatesRecord (Doc.ofFields [("BirthYear", Scalar.string (Dart.trim birthYear))])
  | updateGender gender _ =>
    c.updatesRecord (Doc.ofFields [("Gender", Scalar.string (Dart.trim gender))])
  | updateEmailAddress email _ => c.changesEmail (Dart.trim email)
  | _ => false

/-- The operations whose call is about the user who is signed in then. -/
def AppOperation.needsUser : AppOperation → Bool
  | sendEmailVerification | reAuthenticateForDeletion _ | updateEmailAddress _ _ => true
  | _ => false

/-- The call that the report is about was answered. -/
def AppOperation.Done (op : AppOperation) (ev : Event) : Prop :=
  op.deed ev.call = true ∧ ∃ v, ev.reply = .ok v

/-- What the calls of an operation tell of it. -/
inductive News where
  | failure | deed | report

/-- What an answered call tells. -/
def AppOperation.news (op : AppOperation) (ev : Event) : Set News
  | .failure => ¬ ∃ v, ev.reply = .ok v
  | .deed => op.Done ev
  | .report => ev.call.reportsSuccess = true

/-- A report is in order. -/
def AppOperation.MayReport (op : AppOperation) (known : Set News) (w : World) : Prop :=
  .failure ∉ known ∧ (.deed ∈ known ∨ op.needsUser = true ∧ w.currentUser = none)

/-- What is done is reported. -/
def Told (known : Set News) : Prop := .deed ∈ known → .report ∈ known

/-- The operation goes on with reports that are in order, and ends in `Q`. -/
abbrev Leads {α : Type} (op : AppOperation) (p : App α)
    (Q : Except Exn α → Set News → World → Prop) : Set News → World → Prop :=
  p.Vetted overlapping op.news (fun known w c => c.reportsSuccess = true → op.MayReport known w) Q

/-- The program does not do what is to be reported, and reports nothing. -/
abbrev Harmless {α : Type} (op : AppOperation) (p : App α) : Prop :=
  ∀ known w, Leads op p
    (fun _ known' _ => known ⊆ known' ∧ (.deed ∈ known' → .deed ∈ known)) known w

/-- Moreover it ends with an exception if one of its calls fails. -/
abbrev Smooth {α : Type} (op : AppOperation) (p : App α) : Prop :=
  ∀ known w, Leads op p (fun r known' _ => (known ⊆ known' ∧ (.deed ∈ known' → .deed ∈ known)) ∧
    ∀ a, r = .ok a → known' = known) known w

section Harmless

variable {op : AppOperation} {c : Call} {α β : Type} {p : App α} {f : α → App β}

/-- Doing and reporting nothing follows the structure. -/
theorem closed_harmless (op : AppOperation) : Prog.Closed fun {α} (p : App α) => Harmless op p where
  done _ _ _ := ⟨subset_rfl, id⟩
  read _ _ _ := ⟨subset_rfl, id⟩
  andThen hp hf known w := by
    apply Prog.vetted_andThen
    apply Prog.vetted_mono (hp known w)
    intro r known₁ w₁ h₁
    apply Prog.vetted_mono (hf r known₁ w₁)
    intro r' known₂ w₂ h₂
    exact ⟨h₁.1.trans h₂.1, h₁.2 ∘ h₂.2⟩

/-- An answered call that is neither tells nothing. -/
theorem news_eq_empty {w : World} (hdeed : op.deed c = false) (hreport : c.reportsSuccess = false)
    (v : Reply c) : op.news ⟨w, c, .ok v⟩ = ∅ := by
  ext n
  apply iff_of_false _ (Set.notMem_empty n)
  cases n with
  | failure => exact fun h => h ⟨v, rfl⟩
  | deed => exact fun h => Bool.noConfusion (hdeed.symm.trans h.1)
  | report => exact fun h => Bool.noConfusion (hreport.symm.trans h)

/-- A call that is neither the deed nor a report. -/
theorem smooth_call (hdeed : op.deed c = false) (hreport : c.reportsSuccess = false) :
    Smooth op (await c) := by
  intro known w
  apply Prog.vetted_invoke fun h => absurd h (by simp [hreport])
  intro r w₁ w₂ _ w₃
  refine ⟨⟨Set.subset_union_left, ?_⟩, ?_⟩
  · rintro (h | h)
    · exact h
    · exact absurd h.1 (by simp [hdeed])
  · rintro v rfl
    rw [news_eq_empty hdeed hreport, Set.union_empty]

theorem smooth_done (r : Except Exn α) : Smooth op (Prog.done r : App α) :=
  fun _ _ => ⟨⟨subset_rfl, id⟩, fun _ _ => rfl⟩

theorem smooth_read (f : World → α) : Smooth op (Prog.read f : App α) :=
  fun _ _ => ⟨⟨subset_rfl, id⟩, fun _ _ => rfl⟩

theorem smooth_modify (u : World → World) : Smooth op (Prog.modify u) :=
  fun _ _ => ⟨⟨subset_rfl, id⟩, fun _ _ => rfl⟩

/-- A failure in the first part ends the program. -/
theorem smooth_bind (hp : Smooth op p) (hf : ∀ a, Smooth op (f a)) : Smooth op (p >>= f) := by
  intro known w
  apply Prog.vetted_bind
  apply Prog.vetted_mono (hp known w)
  rintro (e | a) known₁ w₁ ⟨h₁, hok⟩
  · exact ⟨h₁, nofun⟩
  · obtain rfl := hok a rfl
    exact hf a _ w₁

/-- An exception that gets its text is still one. -/
theorem smooth_rethrow (hp : Smooth op p) (g : Exn → Exn) :
    Smooth op (tryCatch p fun e => throw (g e)) := by
  intro known w
  apply Prog.vetted_handle
  apply Prog.vetted_mono (hp known w)
  rintro (e | a) known₁ w₁ h
  · exact ⟨h.1, nofun⟩
  · exact h

theorem harmless_of_smooth (hp : Smooth op p) : Harmless op p :=
  fun known w => Prog.vetted_mono (hp known w) fun _ _ _ h => h.1

theorem harmless_call (hdeed : op.deed c = false) (hreport : c.reportsSuccess = false) :
    Harmless op (await c) :=
  harmless_of_smooth (smooth_call hdeed hreport)

/-- No notice is what a report is about. -/
theorem deed_of_isNotice (hc : c.isNotice = true) : op.deed c = false := by
  cases c with
  | checkConnectivity | openLoadingDialog | stopLoading | snackBar => cases op <;> rfl
  | _ => cases hc

theorem report_of_isNotice (hc : c.isNotice = true) : c.reportsSuccess = false := by
  simpa using (Bool.and_eq_true_iff.mp hc).2

theorem smooth_notice (hc : c.isNotice = true) : Smooth op (await c) :=
  smooth_call (deed_of_isNotice hc) (report_of_isNotice hc)

theorem harmless_notice (c : Call) (hc : c.isNotice = true) : Harmless op (await c) :=
  harmless_of_smooth (smooth_notice hc)

end Harmless

/-- The operation reports what it has done, and nothing else. -/
abbrev Truthful (op : AppOperation) (p : App Unit) : Prop :=
  ∀ w, Leads op p (fun _ known _ => Told known) ∅ w

/-- The program does what is to be reported, unless it ends with an exception. -/
abbrev Does {α : Type} (op : AppOperation) (p : App α) : Prop :=
  ∀ w, Leads op p (fun r known w' => (∃ a, r = .ok a) ∧ op.MayReport known w' ∨
    (∃ e, r = .error e) ∧ .deed ∉ known) ∅ w

/-- The program reports what has been done. -/
abbrev ReportsIt (op : AppOperation) (p : App Unit) : Prop :=
  ∀ known w, op.MayReport known w → Leads op p (fun _ known _ => Told known) known w

section Truthful

variable {op : AppOperation} {c : Call} {α : Type} {p : App α} {f : α → App Unit} {body : App Unit}

/-- Where nothing is done there is nothing to report. -/
theorem truthful_of_harmless (h : Harmless op body) : Truthful op body := by
  intro w
  apply Prog.vetted_mono (h ∅ w)
  intro r known w' h hdeed
  exact (h.2 hdeed).elim

/-- Before the call the operation only waits. -/
theorem truthful_bind (hp : Smooth op p) (hf : ∀ a, Truthful op (f a)) : Truthful op (p >>= f) := by
  intro w
  apply Prog.vetted_bind
  apply Prog.vetted_mono (hp ∅ w)
  rintro (e | a) known w' ⟨h, hok⟩
  · exact fun hdeed => (h.2 hdeed).elim
  · obtain rfl := hok a rfl
    exact hf a w'

/-- What catches every exception harmlessly. -/
theorem truthful_handle {h : Exn → App Unit} (hbody : Truthful op body)
    (hh : ∀ e, Harmless op (h e)) : Truthful op (tryCatch body h) := by
  intro w
  apply Prog.vetted_handle
  apply Prog.vetted_mono (hbody w)
  rintro (e | a) known w' htold
  · apply Prog.vetted_mono (hh e known w')
    intro r known' w'' h hdeed
    exact h.1 (htold (h.2 hdeed))
  · exact htold

theorem truthful_ensure {q : App Unit} (hbody : Truthful op body) (hq : Harmless op q) :
    Truthful op (body.ensure q) := by
  intro w
  apply Prog.vetted_andThen
  apply Prog.vetted_mono (hbody w)
  intro r known w' htold
  apply Prog.vetted_andThen
  apply Prog.vetted_mono (hq known w')
  rintro (e | a) known' w'' h <;>
  · intro hdeed
    exact h.1 (htold (h.2 hdeed))

/-- The loader reports no success. -/
theorem truthful_withLoader {kind : SnackBarKind} (hkind : kind ≠ .success)
    (hbody : Truthful op body) (text : String) : Truthful op (withLoader text kind body) := by
  apply truthful_handle
  · apply truthful_bind _ fun _ => hbody
    exact smooth_bind (smooth_notice rfl) fun _ => smooth_done _
  · intro e
    apply (closed_harmless op).bind
      (closed_stopLoading (closed_harmless op).toSequential harmless_notice)
    intro _
    apply harmless_notice
    cases kind with
    | success => exact absurd rfl hkind
    | _ => rfl

/-- A check of the connection that fails closes the loader. -/
theorem truthful_whenConnected (hbody : Truthful op body) : Truthful op (whenConnected body) := by
  have hclose : Harmless op FullScreenLoader.stopLoading :=
    closed_stopLoading (closed_harmless op).toSequential harmless_notice
  intro w
  apply Prog.vetted_bind
  apply Prog.vetted_handle
  apply Prog.vetted_bind
  apply Prog.vetted_mono (smooth_notice (c := .checkConnectivity) rfl ∅ w)
  rintro (e | result) known w' ⟨h, hok⟩
  · have hfalse : Leads op FullScreenLoader.stopLoading (fun _ known _ => Told known) known w' := by
      apply Prog.vetted_mono (hclose known w')
      intro r known' w'' h' hdeed
      exact (h.2 (h'.2 hdeed)).elim
    cases e with
    | platform code message => exact hfalse
    | _ => exact fun hdeed => (h.2 hdeed).elim
  · obtain rfl := hok result rfl
    show Leads op (if _ then body else _) _ _ _
    split
    · exact hbody w'
    · exact truthful_of_harmless hclose w'

theorem truthful_whenValid (hbody : Truthful op body) (form : Option Bool) :
    Truthful op (whenValid form body) := by
  cases form with
  | none => exact truthful_of_harmless ((closed_harmless op).done _)
  | some valid =>
    cases valid with
    | true => exact hbody
    | false =>
      apply truthful_of_harmless
      exact closed_stopLoading (closed_harmless op).toSequential harmless_notice

/-- The call that is to be reported. -/
theorem does_call (hdeed : op.deed c = true) (hreport : c.reportsSuccess = false) :
    Does op (await c) := by
  intro w
  apply Prog.vetted_invoke fun h => absurd h (by simp [hreport])
  rintro (e | v) w₁ w₂ _ w₃
  · refine .inr ⟨⟨e, rfl⟩, ?_⟩
    rintro (h | ⟨-, v, h⟩)
    · exact h
    · cases h
  · refine .inl ⟨⟨v, rfl⟩, ?_, .inl (.inr ⟨hdeed, v, rfl⟩)⟩
    rintro (h | h)
    · exact h
    · exact h ⟨v, rfl⟩

/-- What comes before the deed must not have failed. -/
theorem does_bind {β : Type} {f : β → App α} {p : App β} (hp : Smooth op p)
    (hf : ∀ a, Does op (f a)) : Does op (p >>= f) := by
  intro w
  apply Prog.vetted_bind
  apply Prog.vetted_mono (hp ∅ w)
  rintro (e | a) known w' ⟨h, hok⟩
  · exact .inr ⟨⟨e, rfl⟩, fun hdeed => h.2 hdeed⟩
  · obtain rfl := hok a rfl
    exact hf a w'

theorem does_rethrow (hp : Does op p) (g : Exn → Exn) :
    Does op (tryCatch p fun e => throw (g e)) := by
  intro w
  apply Prog.vetted_handle
  apply Prog.vetted_mono (hp w)
  rintro (e | a) known w' (⟨⟨a', h⟩, hmay⟩ | ⟨⟨e', h⟩, hnone⟩)
  · cases h
  · exact .inr ⟨⟨g e, rfl⟩, hnone⟩
  · exact .inl ⟨⟨a, rfl⟩, hmay⟩
  · cases h

/-- What has been done is reported. -/
theorem truthful_does_bind (hp : Does op p) (hf : ∀ a, ReportsIt op (f a)) :
    Truthful op (p >>= f) := by
  intro w
  apply Prog.vetted_bind
  apply Prog.vetted_mono (hp w)
  rintro (e | a) known w' (⟨⟨a', h⟩, hmay⟩ | ⟨⟨e', h⟩, hnone⟩)
  · cases h
  · exact fun hdeed => absurd hdeed hnone
  · exact hf a known w' hmay
  · cases h

/-- The message, and what is shown after it. -/
theorem reportsIt_success {title message : String} {f : Unit → App Unit}
    (hf : ∀ a, Harmless op (f a)) :
    ReportsIt op (await (.snackBar .success title message) >>= f) := by
  intro known w hmay
  apply Prog.vetted_bind
  apply Prog.vetted_invoke_sync rfl fun _ => hmay
  intro v w' _
  apply Prog.vetted_mono (hf v _ w')
  intro r known' w'' h _
  exact h.1 (.inr rfl)

/-- The report that ends an operation. -/
theorem reportsIt_success_last {title message : String} :
    ReportsIt op (await (.snackBar .success title message)) := by
  intro known w hmay
  apply Prog.vetted_invoke_sync rfl fun _ => hmay
  exact fun _ _ _ _ => .inr rfl

/-- A synchronous call in front of the message that leaves the session alone. -/
theorem reportsIt_bind {f : Reply c → App Unit} (ha : overlapping.awaited c = false)
    (hdeed : op.deed c = false) (hreport : c.reportsSuccess = false)
    (huser : ∀ w v w', overlapping.effect c w v = some w' → w'.currentUser = w.currentUser)
    (hf : ∀ a, ReportsIt op (f a)) : ReportsIt op (await c >>= f) := by
  intro known w hmay
  apply Prog.vetted_bind
  apply Prog.vetted_invoke_sync ha fun h => absurd h (by simp [hreport])
  intro v w' heffect
  rw [news_eq_empty hdeed hreport, Set.union_empty]
  apply hf v
  rw [AppOperation.MayReport, huser w v w' heffect]
  exact hmay

theorem reportsIt_stopLoading {f : Unit → App Unit} (hf : ReportsIt op (f ())) :
    ReportsIt op (FullScreenLoader.stopLoading >>= f) := by
  apply reportsIt_bind (c := .stopLoading) rfl (deed_of_isNotice rfl) rfl _ fun _ => hf
  intro w v w' heffect
  obtain ⟨-, hw⟩ := Option.ite_none_right_eq_some.mp heffect
  cases hw
  rfl

end Truthful

section Operations

/-- The loader, the checks of the connection and of the form around a body. -/
theorem truthful_form {op : AppOperation} {body : App Unit} {kind : SnackBarKind}
    (hkind : kind ≠ .success) (hbody : Truthful op body) (text : String) (form : Option Bool) :
    Truthful op (withLoader text kind (whenConnected (whenValid form body))) :=
  truthful_withLoader hkind (truthful_whenConnected (truthful_whenValid hbody form)) text

theorem truthful_sendPasswordResetEmail (email : String) (form : Option Bool) :
    Truthful (.sendPasswordResetEmail email form)
      (ForgetPasswordController.sendPasswordResetEmail email form) := by
  have hsend : (AppOperation.sendPasswordResetEmail email form).deed
      (.sendPasswordResetEmail (Dart.trim email)) = true := decide_eq_true rfl
  have hgo : (AppOperation.sendPasswordResetEmail email form).deed
      (.getTo (.resetPassword (Dart.trim email))) = false := by simp [AppOperation.deed]
  apply truthful_form (by decide)
  apply truthful_does_bind (does_rethrow (does_call hsend rfl) _)
  intro _
  apply reportsIt_stopLoading
  exact reportsIt_success fun _ => harmless_call hgo rfl

theorem truthful_resendPasswordResetEmail (email : String) :
    Truthful (.resendPasswordResetEmail email)
      (ForgetPasswordController.resendPasswordResetEmail email) := by
  have hsend : (AppOperation.resendPasswordResetEmail email).deed
      (.sendPasswordResetEmail email) = true := decide_eq_true rfl
  apply truthful_withLoader (by decide)
  apply truthful_whenConnected
  apply truthful_does_bind (does_rethrow (does_call hsend rfl) _)
  intro _
  apply reportsIt_stopLoading
  exact reportsIt_success_last

/-- Nothing is sent if nobody is signed in, and the message is shown. -/
theorem truthful_sendEmailVerification :
    Truthful .sendEmailVerification VerifyEmailController.sendEmailVerification := by
  apply truthful_handle
  · apply truthful_does_bind _ fun _ => reportsIt_success_last
    apply does_rethrow
    intro w
    apply Prog.vetted_read_bind.mpr
    cases huser : w.currentUser with
    | none => exact .inl ⟨⟨(), rfl⟩, nofun, .inr ⟨rfl, huser⟩⟩
    | some user => exact does_call (c := .sendEmailVerification user.uid) rfl rfl w
  · exact fun _ => harmless_notice _ rfl

/-- A sign-up is reported when the record is stored. -/
theorem truthful_signup (form : SignupForm) :
    Truthful (.signup form) (SignupController.signup form) := by
  apply truthful_form (by decide)
  split
  · apply truthful_bind (smooth_rethrow (smooth_call rfl rfl) _)
    intro userCredential
    apply truthful_does_bind
    · apply does_rethrow
      refine does_bind (smooth_call rfl rfl) fun _ => does_bind (smooth_call rfl rfl) fun _ => ?_
      exact does_bind (smooth_call rfl rfl) fun _ => does_call rfl rfl
    · intro _
      apply reportsIt_stopLoading
      exact reportsIt_success fun _ => harmless_call rfl rfl
  · apply truthful_of_harmless
    apply (closed_harmless _).bind (harmless_notice _ rfl)
    exact fun _ => closed_stopLoading (closed_harmless _).toSequential harmless_notice

/-- The record of the user who is signed in is removed first; who is signed in is asked again. -/
theorem truthful_reAuthenticateForDeletion (form : ReAuthForm) :
    Truthful (.reAuthenticateForDeletion form)
      (UserController.reAuthenticateEmailAndPasswordForDeletion form) := by
  apply truthful_form (by decide)
  apply truthful_bind
  · apply smooth_rethrow
    apply smooth_bind (smooth_read _)
    intro user
    cases user with
    | none => exact smooth_done _
    | some user => exact smooth_call rfl rfl
  · intro _
    apply truthful_does_bind
    · apply does_rethrow
      apply does_bind (smooth_read _)
      intro user
      cases user with
      | none => exact fun w => .inr ⟨⟨_, rfl⟩, nofun⟩
      | some user =>
        apply does_bind (smooth_rethrow (smooth_call rfl rfl) _)
        intro _ w
        apply Prog.vetted_read_bind.mpr
        cases huser : w.currentUser with
        | none => exact .inl ⟨⟨(), rfl⟩, nofun, .inr ⟨rfl, huser⟩⟩
        | some user => exact does_call (c := .deleteUser user.uid) rfl rfl w
    · intro _
      apply reportsIt_stopLoading
      exact reportsIt_success fun _ => harmless_call rfl rfl

theorem does_updateSingleField {op : AppOperation} {json : Doc}
    (hdeed : ∀ id, op.deed (.update .users id json) = true)
    (hauto : op.deed (.autoId .users) = false) :
    Does op (UserRepository.updateSingleField json) := by
  apply does_rethrow
  apply does_bind (smooth_read _)
  intro user
  apply does_bind
  · cases user with
    | none => exact smooth_call hauto rfl
    | some user => exact smooth_done _
  · exact fun id => does_call (hdeed id) rfl

/-- The fields are written to the record, then to the user in memory. -/
theorem truthful_updateProfile {op : AppOperation} {fields : Doc} {leave : App Unit}
    (hdeed : op.deed = Call.updatesRecord fields) (hleave : ReportsIt op leave) (form : Option Bool)
    (assign : UserModel → UserModel) : Truthful op (updateProfile form fields assign leave) := by
  apply truthful_form (by decide)
  apply truthful_does_bind
  · apply does_updateSingleField
    · intro id
      rw [hdeed]
      exact decide_eq_true rfl
    · rw [hdeed]
      rfl
  · intro _ known w hmay
    apply Prog.vetted_modify_bind.mpr
    exact reportsIt_stopLoading hleave known _ hmay

theorem reportsIt_reportAndLeave {op : AppOperation} (hdeed : op.deed (.getOff .profile) = false)
    (message : String) : ReportsIt op (reportAndLeave message) :=
  reportsIt_success fun _ => harmless_call hdeed rfl

/-- A new email is reported when the mail was asked for, or nobody is signed in. -/
theorem truthful_updateEmailAddress (email : String) (form : Option Bool) :
    Truthful (.updateEmailAddress email form)
      (UpdateEmailController.updateEmailAddress email form) := by
  have hclosed := closed_harmless (.updateEmailAddress email form)
  have hlogout : Harmless (.updateEmailAddress email form)
      AuthenticationRepository.logout.unawaited := by
    apply hclosed.unawaited
    apply hclosed.handle _ fun _ => hclosed.done _
    refine hclosed.bind (harmless_call rfl rfl) fun _ => hclosed.bind (harmless_call rfl rfl) ?_
    exact fun _ => harmless_call rfl rfl
  have hreport : ReportsIt (.updateEmailAddress email form) (do
      await (.snackBar .success "Verification Email Sent" <|
        "Please check your inbox and verify your new email. Once verified, you will need " ++
        "to log in again to continue using the app.")
      AuthenticationRepository.logout.unawaited) :=
    reportsIt_success fun _ => hlogout
  apply truthful_form (by decide)
  apply truthful_bind (smooth_read _)
  intro currentUser
  split
  · apply truthful_bind
    · exact smooth_bind (smooth_notice rfl) fun _ => smooth_done _
    · intro _ w
      apply Prog.vetted_read_bind.mpr
      cases huser : w.currentUser with
      | none => exact hreport ∅ w ⟨nofun, .inr ⟨rfl, huser⟩⟩
      | some user =>
        have hverify : (AppOperation.updateEmailAddress email form).deed
            (.verifyBeforeUpdateEmail user.uid (Dart.trim email)) = true := decide_eq_true rfl
        exact truthful_does_bind (does_call hverify rfl) (fun _ => hreport) w
  · apply truthful_of_harmless
    apply hclosed.bind (closed_stopLoading hclosed.toSequential harmless_notice)
    exact fun _ => harmless_notice _ rfl

/-- A picture is reported when it is in the record. -/
theorem truthful_uploadUserProfilePicture :
    Truthful .uploadUserProfilePicture UserController.uploadUserProfilePicture := by
  have hclosed := closed_harmless .uploadUserProfilePicture
  have hupload (path : String) (image : XFile) :
      Smooth .uploadUserProfilePicture (UserRepository.uploadImage path image) :=
    smooth_rethrow (smooth_bind (smooth_call rfl rfl) fun _ => smooth_call rfl rfl) _
  have hpick : Truthful .uploadUserProfilePicture UserController.pickAndUpload := by
    apply truthful_bind (smooth_call rfl rfl)
    intro source
    cases source with
    | none => exact truthful_of_harmless (hclosed.done _)
    | some source =>
      apply truthful_bind (smooth_call rfl rfl)
      intro image
      cases image with
      | none => exact truthful_of_harmless (hclosed.done _)
      | some image =>
        apply truthful_bind (smooth_modify _)
        intro _
        apply truthful_bind (hupload _ image)
        intro imageUrl
        apply truthful_does_bind
        · apply does_updateSingleField _ rfl
          intro id
          simp [AppOperation.deed, Call.updatesPicture]
        · intro _ known w hmay
          apply Prog.vetted_modify_bind.mpr
          exact reportsIt_success_last known _ hmay
  apply truthful_ensure
  · apply truthful_handle hpick
    intro e
    apply hclosed.bind (closed_stopLoading hclosed.toSequential harmless_notice)
    exact fun _ => harmless_notice _ rfl
  · exact harmless_of_smooth (smooth_modify _)

/-- The operations that report nothing have nothing to report. -/
theorem deed_of_not_reports {op : AppOperation} (hop : op.reports = false) (c : Call) :
    op.deed c = false := by
  cases op <;> first | rfl | cases hop

/-- Every operation reports what it has done, and nothing else. -/
theorem AppOperation.truthful (intl : Intl) (repository : LocationRepository) (op : AppOperation) :
    Truthful op (op.body intl repository) := by
  by_cases hop : op.reports = true
  · cases op with
    | sendPasswordResetEmail email form => exact truthful_sendPasswordResetEmail email form
    | resendPasswordResetEmail email => exact truthful_resendPasswordResetEmail email
    | sendEmailVerification => exact truthful_sendEmailVerification
    | signup form => exact truthful_signup form
    | reAuthenticateForDeletion form => exact truthful_reAuthenticateForDeletion form
    | uploadUserProfilePicture => exact truthful_uploadUserProfilePicture
    | updateUserName | updateBirthYear | updateGender =>
      exact truthful_updateProfile rfl (reportsIt_reportAndLeave rfl _) _ _
    | updateAddress =>
      apply truthful_updateProfile rfl
      apply reportsIt_bind rfl rfl rfl _ fun _ => reportsIt_success_last
      intro w v w' heffect
      cases heffect
      rfl
    | updateEmailAddress email form => exact truthful_updateEmailAddress email form
    | _ => cases hop
  · rw [Bool.not_eq_true] at hop
    apply truthful_of_harmless
    apply closed_operation (closed_harmless op)
    · exact fun c hc _ => harmless_call (deed_of_not_reports hop c) hc
    · exact fun u _ => harmless_of_smooth (smooth_modify u)
    · exact fun hreports => Bool.noConfusion (hop.symm.trans hreports)

end Operations

/-- Whatever the calls are answered and whatever overlaps: when an operation reports a success, none
of its calls has failed, and the call that the report is about was answered, unless it is about a
user and nobody is signed in; and if that call was answered, the success is reported. -/
theorem reports_true {intl : Intl} {repository : LocationRepository} {op : AppOperation}
    {w w' : World} {ms : History} {out : Except Exn Unit}
    (h : (op.body intl repository).Admits overlapping w ms out w') :
    (∀ pre m post, ms = pre ++ m :: post → m.call.reportsSuccess = true →
      AllAnswered (answers pre) ∧ ((∃ ev ∈ answers pre, op.Done ev) ∨
        op.needsUser = true ∧ m.state.currentUser = none)) ∧
    ((∃ ev ∈ answers ms, op.Done ev) → ∃ ev ∈ answers ms, ev.call.reportsSuccess = true) := by
  obtain ⟨htold, hcalls⟩ := (op.truthful intl repository w).admits h
  rw [Set.empty_union] at htold
  refine ⟨?_, fun hdone => htold hdone⟩
  intro pre m post hms hreport
  have hrequests : m.Requests overlapping := by
    cases m with
    | issued s c => trivial
    | answered ev =>
      obtain ⟨s, c, r⟩ := ev
      cases c with
      | snackBar => rfl
      | _ => cases hreport
  have hmay := hcalls pre m post hms hrequests hreport
  rw [Set.empty_union] at hmay
  refine ⟨?_, hmay.2⟩
  intro ev hev
  by_contra hfailed
  exact hmay.1 ⟨ev, hev, hfailed⟩

/-- A mail that verifies the email is sent, which is reported. -/
theorem reports_true_sendEmailVerification : ∃ pre m w',
    (AppOperation.sendEmailVerification.body Intl.utc ⟨none⟩).Admits overlapping
      (World.withUsers [User.of "u" "u@x" "password"]) (pre ++ [m]) (.ok ()) w' ∧
    m.call.reportsSuccess = true ∧
    ∃ ev ∈ answers pre, AppOperation.sendEmailVerification.Done ev := by
  let w := World.withUsers [User.of "u" "u@x" "password"]
  let sent : Event := ⟨w, .sendEmailVerification "u", .ok ()⟩
  let told : Event := ⟨w, .snackBar .success "Email Sent"
    "Please check your inbox and verify your email.", .ok ()⟩
  have h : (AppOperation.sendEmailVerification.body Intl.utc ⟨none⟩).Admits overlapping w
      ([.issued w sent.call, .answered sent] ++ [.answered told]) (.ok ()) w :=
    ⟨w, _, w, w, [.answered told], rfl, rfl, (), w, [], rfl, rfl, rfl, rfl, rfl⟩
  obtain ⟨-, hdone | ⟨-, hnobody⟩⟩ := (reports_true h).1 _ _ [] rfl rfl
  · exact ⟨_, _, w, h, rfl, hdone⟩
  · cases hnobody

end AroundMuseo
