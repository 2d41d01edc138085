import AroundMuseo.Account.Faults

/-!
# Accounts and documents in step

An account and its document of `Users` are created and deleted by two writes each,
and nothing undoes the first write when the second fails. Each operation has its own ways of
stopping between the two, and the directory stays in step exactly when none of them occurs.
-/

namespace AroundMuseo

open Async Firestore AuthenticationRepository

/-- An account exists exactly when its document does. -/
def Directory.InStep (d : Directory) : Prop := ∀ x, x ∈ d.accounts ↔ x ∈ d.docs

/-- The mark says nothing of accounts and documents other than those of `x`. -/
def Mark.About (x : String) : Mark → Prop
  | accepted y | registered y | stored y | docRemoved y | userRemoved y => y = x
  | cancelled | failed _ | reauthenticated _ | signedIn _ | signedOut => True

namespace Directory

variable {d : Directory} {log : List Mark} {x y : String}

/-- A mark about `x` leaves the other uids alone. -/
theorem act_of_about {m : Mark} (hm : m.About x) (hy : y ≠ x) :
    (y ∈ (d.act m).accounts ↔ y ∈ d.accounts) ∧ (y ∈ (d.act m).docs ↔ y ∈ d.docs) := by
  cases m <;> simp_all [act, Mark.About]

theorem foldl_act_of_about (hlog : ∀ m ∈ log, m.About x) (hy : y ≠ x) :
    (y ∈ (log.foldl act d).accounts ↔ y ∈ d.accounts) ∧
      (y ∈ (log.foldl act d).docs ↔ y ∈ d.docs) := by
  induction log generalizing d with
  | nil => exact ⟨Iff.rfl, Iff.rfl⟩
  | cons m log ih =>
    have hm := act_of_about (d := d) (hlog m List.mem_cons_self) hy
    have hrest := ih (d := d.act m) fun m' hm' => hlog m' (List.mem_cons_of_mem _ hm')
    exact ⟨hrest.1.trans hm.1, hrest.2.trans hm.2⟩

/-- To see whether a log about `x` keeps the directory in step it is enough to look at
`x`. -/
theorem inStep_foldl_iff (hd : d.InStep) (hlog : ∀ m ∈ log, m.About x) :
    (log.foldl act d).InStep ↔
      (x ∈ (log.foldl act d).accounts ↔ x ∈ (log.foldl act d).docs) := by
  refine ⟨fun h => h x, fun h y => ?_⟩
  by_cases hy : y = x
  · rw [hy]
    exact h
  · have hother := foldl_act_of_about (d := d) hlog hy
    rw [hother.1, hother.2]
    exact hd y

end Directory

/-- The operations that create, sign in or delete accounts. -/
inductive AccountOperation where
  | signup (form : SignupForm)
  | emailAndPasswordSignIn (form : LoginForm)
  | googleSignIn
  | deleteUserAccount
  | reAuthenticateEmailAndPasswordForDeletion (form : ReAuthForm)
  deriving DecidableEq, Repr

/-- The function behind an operation. -/
def AccountOperation.body : AccountOperation → App Unit
  | signup form => SignupController.signup form
  | emailAndPasswordSignIn form => LoginController.emailAndPasswordSignIn form
  | googleSignIn => LoginController.googleSignIn
  | deleteUserAccount => UserController.deleteUserAccount
  | reAuthenticateEmailAndPasswordForDeletion form =>
    UserController.reAuthenticateEmailAndPasswordForDeletion form

/-- An account that did not exist signs in with Google, and merging its profile throws. -/
def ProfileLost (w : World) (fs : List Fault) (e : Exn) : Prop :=
  ∃ x, .notMerged x e ∈ fs ∧ x ∉ w.accounts

/-- The account that has signed in with Google is turned away: its profile is merged, it has no
email or its email is not found, and deleting the account does not throw. -/
def TurnedAway (fs : List Fault) : Prop :=
  ((∃ x, .noEmail x ∈ fs) ∨ .notFound ∈ fs) ∧ (∀ x e, .notMerged x e ∉ fs) ∧ ∀ x, .userKept x ∉ fs

/-- The ways in which an operation stops between its two writes. A sign-up does if saving the
document throws, a deletion if deleting the account throws. A Google sign-in does if the profile of
a new account is not merged, and it deletes only the account of a user whom it turns away. A
deletion by Google may also leave an account that its own prompt has created: merging the profile
threw, and either the operation stopped with this or deleting the document threw as well. -/
def AccountOperation.Faulty (op : AccountOperation) (w : World) (fs : List Fault) : Prop :=
  match op with
  | signup _ => ∃ x, .notSaved x ∈ fs
  | emailAndPasswordSignIn _ => False
  | googleSignIn => (∃ e, ProfileLost w fs e) ∨ TurnedAway fs
  | deleteUserAccount => (∃ x, .userKept x ∈ fs) ∨
    ∃ e : Exn, ProfileLost w fs e ∧ (e.isMapped = true ∨ ∃ x, .docKept x ∈ fs)
  | reAuthenticateEmailAndPasswordForDeletion _ => ∃ x, .userKept x ∈ fs

/-- What is wrong with an account that is turned away. -/
def strangerFault (user : User) : Fault :=
  if user.email = none then .noEmail user.uid else .notFound

/-- The marks and faults of a sign-up. -/
inductive SignupLog (w : World) : List Mark → List Fault → Prop
  | idle : SignupLog w [] []
  | unsaved {x : String} (hx : x ∉ w.accounts) : SignupLog w [.registered x] [.notSaved x]
  | saved {x : String} (hx : x ∉ w.accounts) : SignupLog w [.registered x, .stored x] []

/-- The marks and faults of a Google sign-in. -/
inductive GoogleLog : List Mark → List Fault → Prop
  | idle : GoogleLog [] []
  | notAccepted {m : Mark} (hm : m.Idle) : GoogleLog [m] []
  | unstored (user : User) (e : Exn) :
      GoogleLog [.accepted user.uid] (emailFaults user ++ [.notMerged user.uid e])
  | found (x : String) : GoogleLog [.accepted x, .stored x] []
  | kept (user : User) : GoogleLog [.accepted user.uid, .stored user.uid]
      [strangerFault user, .userKept user.uid]
  | turnedAway (user : User) : GoogleLog
      [.accepted user.uid, .stored user.uid, .userRemoved user.uid] [strangerFault user]

/-- The marks and faults of a deletion: those of the prompt, and those of the removals. -/
inductive RemovalLog (w : World) : List Mark → List Fault → Prop
  | idle : RemovalLog w [] []
  | refused {m : Mark} (hm : m.Idle) : RemovalLog w [m] []
  | removal {m : Mark} (hm : m.Idle) {x : String} {ms : List Mark} {fs : List Fault}
      (h : RemovalRun (x ∈ w.db .users) (x ∈ w.accounts) x ms fs) : RemovalLog w (m :: ms) fs
  | stored (user : User) {ms : List Mark} {fs : List Fault}
      (h : RemovalRun True True user.uid ms fs) :
      RemovalLog w (.accepted user.uid :: .stored user.uid :: ms) (emailFaults user ++ fs)
  | stopped (user : User) (e : Exn) (he : e.isMapped = true) :
      RemovalLog w [.accepted user.uid] (emailFaults user ++ [.notMerged user.uid e])
  | unstored (user : User) (e : Exn) (he : e.isMapped = false) {ms : List Mark} {fs : List Fault}
      (h : RemovalRun (user.uid ∈ w.db .users) True user.uid ms fs) :
      RemovalLog w (.accepted user.uid :: ms) (emailFaults user ++ .notMerged user.uid e :: fs)

section Steps

variable {w : World} {log : List Mark} {fs : List Fault}

theorem RemovalRun.about {hasDoc hasAccount : Prop} [Decidable hasDoc] [Decidable hasAccount]
    {x : String} (h : RemovalRun hasDoc hasAccount x log fs) {m : Mark} (hm : m ∈ log) :
    m.About x := by
  have hdoc (hm : m ∈ if hasDoc then [Mark.docRemoved x] else []) : m.About x := by
    split at hm
    · rw [List.mem_singleton.mp hm]
      rfl
    · cases hm
  cases h with
  | docKept => cases hm
  | userKept => exact hdoc hm
  | removed =>
    rcases List.mem_append.mp hm with hm | hm
    · exact hdoc hm
    · rw [List.mem_singleton.mp hm]
      rfl

/-- What the log of a sign-up makes of the directory. -/
theorem SignupLog.inStep_iff (hw : w.directory.InStep) (h : SignupLog w log fs) :
    (log.foldl Directory.act w.directory).InStep ↔ ¬ ∃ x, .notSaved x ∈ fs := by
  cases h with
  | idle => exact iff_of_true hw (by simp)
  | @unsaved x hx =>
    have hdoc : x ∉ w.db .users := fun h => hx ((hw x).mpr h)
    rw [Directory.inStep_foldl_iff hw (x := x) (by simp [Mark.About])]
    simp [Directory.act, World.directory, hdoc]
  | @saved x hx =>
    rw [Directory.inStep_foldl_iff hw (x := x) (by simp [Mark.About])]
    simp [Directory.act]

/-- What the log of a Google sign-in makes of the directory. -/
theorem GoogleLog.inStep_iff (hw : w.directory.InStep) (h : GoogleLog log fs) :
    (log.foldl Directory.act w.directory).InStep ↔
      ¬ ((∃ e, ProfileLost w fs e) ∨ TurnedAway fs) := by
  cases h with
  | idle => exact iff_of_true hw (by simp [ProfileLost, TurnedAway])
  | @notAccepted m hm =>
    rw [List.foldl_cons, hm, List.foldl_nil]
    exact iff_of_true hw (by simp [ProfileLost, TurnedAway])
  | unstored user e =>
    have hx : user.uid ∈ w.accounts ↔ user.uid ∈ w.db .users := hw user.uid
    rw [Directory.inStep_foldl_iff hw (x := user.uid) (by simp [Mark.About])]
    by_cases hemail : user.email = none <;>
      simp [Directory.act, World.directory, ProfileLost, TurnedAway, emailFaults, hemail, hx]
  | found x =>
    rw [Directory.inStep_foldl_iff hw (x := x) (by simp [Mark.About])]
    simp [Directory.act, ProfileLost, TurnedAway]
  | kept user =>
    rw [Directory.inStep_foldl_iff hw (x := user.uid) (by simp [Mark.About])]
    by_cases hemail : user.email = none <;>
      simp [Directory.act, ProfileLost, TurnedAway, strangerFault, hemail]
  | turnedAway user =>
    rw [Directory.inStep_foldl_iff hw (x := user.uid) (by simp [Mark.About])]
    by_cases hemail : user.email = none <;>
      simp [Directory.act, ProfileLost, TurnedAway, strangerFault, hemail]

/-- What the log of a deletion makes of the directory. -/
theorem RemovalLog.inStep_iff (hw : w.directory.InStep) (h : RemovalLog w log fs) :
    (log.foldl Directory.act w.directory).InStep ↔
      ¬ ((∃ x, .userKept x ∈ fs) ∨
        ∃ e : Exn, ProfileLost w fs e ∧ (e.isMapped = true ∨ ∃ x, .docKept x ∈ fs)) := by
  cases h with
  | idle => exact iff_of_true hw (by simp [ProfileLost])
  | refused hm =>
    rw [List.foldl_cons, hm, List.foldl_nil]
    exact iff_of_true hw (by simp [ProfileLost])
  | @removal m hm x ms fs h =>
    have hx : x ∈ w.accounts ↔ x ∈ w.db .users := hw x
    rw [List.foldl_cons, hm, Directory.inStep_foldl_iff hw (x := x) fun m hm => (h.about hm)]
    by_cases hdoc : x ∈ w.db .users <;> cases h <;>
      simp [Directory.act, World.directory, ProfileLost, hx, hdoc]
  | @stored user ms fs h =>
    have habout : ∀ m ∈ .accepted user.uid :: .stored user.uid :: ms, m.About user.uid := by
      rintro m (_ | ⟨_, _ | ⟨_, hm⟩⟩)
      · rfl
      · rfl
      · exact h.about hm
    rw [Directory.inStep_foldl_iff hw habout]
    by_cases hemail : user.email = none <;> cases h <;>
      simp [Directory.act, ProfileLost, emailFaults, hemail]
  | stopped user e he =>
    have hx : user.uid ∈ w.accounts ↔ user.uid ∈ w.db .users := hw user.uid
    rw [Directory.inStep_foldl_iff hw (x := user.uid) (by simp [Mark.About])]
    by_cases hemail : user.email = none <;>
      simp [Directory.act, World.directory, ProfileLost, emailFaults, hemail, he, hx]
  | @unstored user e he ms fs h =>
    have hx : user.uid ∈ w.accounts ↔ user.uid ∈ w.db .users := hw user.uid
    have habout : ∀ m ∈ .accepted user.uid :: ms, m.About user.uid := by
      rintro m (_ | ⟨_, hm⟩)
      · rfl
      · exact h.about hm
    rw [Directory.inStep_foldl_iff hw habout]
    by_cases hemail : user.email = none <;> by_cases hdoc : user.uid ∈ w.db .users <;> cases h <;>
      simp [Directory.act, World.directory, ProfileLost, emailFaults, hemail, he, hx, hdoc]

end Steps

section Logs

variable {w : World}

theorem signup_faults (form : SignupForm) :
    (SignupController.signup form).wp platform
      (fun _ tr _ => SignupLog w (audit tr) (faults tr)) w := by
  refine wp_withLoader_faults (L := SignupLog w) ?_
  refine wp_whenConnected_faults (L := SignupLog w) .idle ?_
  refine wp_whenValid_faults (L := SignupLog w) .idle ?_
  split
  case isFalse => exact (Sync.snackBar _ _ _).wp_bind.mpr (wp_stopLoading.mpr .idle)
  refine Prog.wp_bind_of (registerWithEmailAndPassword_faults _ _ _) ?_ ?_
  · rintro e tr w' ⟨haudit, hfaults⟩
    rw [haudit, hfaults]
    exact .idle
  · rintro c tr w' ⟨hnew, haudit, hfaults⟩
    simp only [audit_append, haudit, faults_append, hfaults, List.nil_append]
    refine wp_bind_unmarked (L := fun log fs => SignupLog w ([.registered c.user.uid] ++ log) fs)
      (Prog.wp_mono (saveUserRecord_faults _ _) ?_) fun _ w => ?_
    · rintro (e | ⟨⟩) tr' w'' ⟨haudit', hfaults'⟩ <;> rw [haudit', hfaults']
      · exact .unsaved hnew
      · exact .saved hnew
    · exact wp_stopLoading_bind.mpr
        ((Sync.snackBar _ _ _).wp_bind.mpr ((Sync.getTo _).wp.mpr ⟨rfl, rfl⟩))

/-- A login with a password signs in an account or does nothing. -/
theorem emailAndPasswordSignIn_log (form : LoginForm) :
    (LoginController.emailAndPasswordSignIn form).wp platform
      (fun _ tr _ => audit tr = [] ∨ ∃ x, audit tr = [.signedIn x]) w := by
  refine wp_withLoader_log (L := fun log _ _ => log = [] ∨ ∃ x, log = [.signedIn x]) ?_
  refine wp_whenConnected_log (L := fun log _ _ => log = [] ∨ ∃ x, log = [.signedIn x])
    (.inl rfl) ?_
  refine wp_whenValid_log (L := fun log _ _ => log = [] ∨ ∃ x, log = [.signedIn x]) (.inl rfl) ?_
  refine Prog.wp_modify_bind.mpr ?_
  exact wp_bind_audit (L := fun log => log = [] ∨ ∃ x, log = [.signedIn x])
    (loginWithEmailAndPassword_spec _ _ _) fun _ => audit_redirect

theorem GoogleRun.log {r : Except Exn (Option UserCredential)} {log : List Mark} {fs : List Fault}
    {w' : World} (h : GoogleRun w r log fs w') (hr : ∀ c, r ≠ .ok (some c)) : GoogleLog log fs := by
  cases h with
  | notAccepted hm _ => exact .notAccepted hm
  | stored => exact absurd rfl (hr _)
  | unstored e => exact .unstored _ e

/-- A Google account whose email is found is redirected; the account of another is deleted. -/
theorem redirectOrDelete_faults {c : UserCredential} (hsession : w.currentUser = some c.user)
    (haccount : c.user.uid ∈ w.accounts) :
    (LoginController.redirectOrDelete c).wp platform (fun _ tr _ => GoogleLog
      ([.accepted c.user.uid, .stored c.user.uid] ++ audit tr)
      (emailFaults c.user ++ faults tr)) w := by
  refine Prog.wp_bind_of (isRegisteredEmail_faults _ _) ?_ ?_
  · rintro e tr w' ⟨-, -, b, hb, -⟩
    cases hb
  · rintro b tr w' ⟨rfl, haudit, b', hb, hfound⟩
    cases hb
    simp only [audit_append, haudit, faults_append, List.nil_append]
    rcases hfound with ⟨rfl, hemail, hfaults⟩ | ⟨rfl, hfaults⟩
    · refine Prog.wp_mono (redirect_unmarked _) ?_
      rintro r tr' w'' ⟨haudit', hfaults'⟩
      rw [haudit', hfaults', hfaults, emailFaults, if_neg hemail]
      exact .found c.user.uid
    · have hstranger : emailFaults c.user ++ faults tr = [strangerFault c.user] := by
        rw [hfaults, emailFaults, strangerFault]
        split <;> rfl
      have hsession' : (w'.withNav w'.nav.pop).currentUser = some c.user := hsession
      refine wp_stopLoading_bind.mpr ((Sync.snackBar _ _ _).wp_bind.mpr ?_)
      refine Prog.wp_mono (deleteUser_faults hsession' haccount _) ?_
      rintro r tr' w'' (⟨haudit', hfaults'⟩ | ⟨haudit', hfaults'⟩)
      · show GoogleLog (_ ++ audit tr') (_ ++ (faults tr ++ faults tr'))
        rw [← List.append_assoc, hstranger, haudit', hfaults']
        exact .kept c.user
      · show GoogleLog (_ ++ audit tr') (_ ++ (faults tr ++ faults tr'))
        rw [← List.append_assoc, hstranger, haudit', hfaults']
        exact .turnedAway c.user

theorem googleSignIn_faults :
    LoginController.googleSignIn.wp platform
      (fun _ tr _ => GoogleLog (audit tr) (faults tr)) w := by
  refine wp_withLoader_faults (L := GoogleLog) ?_
  refine wp_isConnected_bind (fun ev hev e => ?_) fun ev hev b => ?_
  · rw [(log_checkConnectivity hev _).1, faults_checkConnectivity hev]
    exact .idle
  simp only [(log_checkConnectivity hev _).1, faults_checkConnectivity hev]
  cases b with
  | false => exact wp_stopLoading_bind.mpr ((Sync.snackBar _ _ _).wp.mpr .idle)
  | true =>
    refine Prog.wp_bind_of (signInWithGoogle_faults _) ?_ ?_
    · intro e tr w' h
      exact h.log fun _ => by simp
    · rintro (_ | c) tr w' h
      · refine wp_stopLoading.mpr ?_
        rw [audit_append, faults_append]
        show GoogleLog (audit tr ++ []) (faults tr ++ [])
        rw [List.append_nil, List.append_nil]
        exact h.log fun _ => by simp
      · obtain ⟨haudit, hfaults, hsession, haccount, -⟩ := h.of_some
        refine Prog.wp_mono (redirectOrDelete_faults hsession haccount) ?_
        intro r tr' w'' hlog
        rw [audit_append, faults_append, haudit, hfaults]
        exact hlog

/-- Closing the loader and leaving for the login screen leaves nothing. -/
theorem leave_unmarked (w : World) : (do
    FullScreenLoader.stopLoading
    await (.getOffAll .login) : App Unit).wp platform (fun _ tr _ => Unmarked tr) w :=
  wp_stopLoading_bind.mpr ((Sync.getOffAll _).wp.mpr ⟨rfl, rfl⟩)

theorem firstProvider_error (h : w.currentUser = none) {f : String → App Unit}
    {Q : Except Exn Unit → List Event → World → Prop} (hQ : Q (.error Exn.nullCheck) [] w) :
    (UserController.firstProvider >>= f).wp platform Q w := by
  rw [Prog.wp_bind, UserController.firstProvider, authUser, Prog.wp_read_bind, h]
  exact hQ

/-- Whatever the prompt gave, the account that is signed in then is deleted, unless the prompt
threw. -/
theorem deleteUserAccount_faults :
    UserController.deleteUserAccount.wp platform
      (fun _ tr _ => RemovalLog w (audit tr) (faults tr)) w := by
  have hidle : RemovalLog w [] [] := .idle
  refine wp_withLoader_faults (L := RemovalLog w) ?_
  cases hu : w.currentUser with
  | none =>
    have hu' : (w.withNav (w.nav.push (.loader "Processing..." docerAnimation))).currentUser =
        none := hu
    exact firstProvider_error hu' hidle
  | some u =>
    refine wp_firstProvider_bind hu hidle fun provider _ => ?_
    split
    case isFalse => exact .idle
    split
    case isFalse =>
      split
      · exact wp_stopLoading_bind.mpr ((Sync.getTo _).wp.mpr .idle)
      · exact .idle
    refine Prog.wp_bind_of (signInWithGoogle_faults _) ?_ ?_
    · intro e tr w' h
      generalize haudit : audit tr = log, hfaults : faults tr = fs, hr : Except.error e = r at h
      cases h with
      | notAccepted hm => exact .refused hm
      | stored => cases hr
      | unstored e' => exact .stopped _ e' (caught_eq_error hr)
    · intro r tr w' h
      have hdel (x : User) (hx : w'.currentUser = some x) :=
        wp_bind_unmarked (deleteAccount_faults hx) fun _ => leave_unmarked
      simp only [audit_append, faults_append]
      generalize haudit : audit tr = log, hfaults : faults tr = fs, hr : Except.ok r = r' at h
      cases h with
      | notAccepted hm =>
        exact Prog.wp_mono (hdel u hu) fun _ tr' _ hrem => .removal hm hrem
      | @stored c w' hsession haccount hdoc =>
        refine Prog.wp_mono (hdel _ hsession) fun _ tr' _ hrem => ?_
        exact .stored c.user (hrem.congr (by simp [hdoc]) (by simp [haccount]))
      | @unstored c w' e hsession haccount hdb =>
        refine Prog.wp_mono (hdel _ hsession) fun _ tr' _ hrem => ?_
        rw [List.append_assoc]
        exact .unstored c.user e (caught_eq_ok hr).1
          (hrem.congr (by rw [hdb]; rfl) (by simp [haccount]))

/-- A deletion after a password merges nothing. -/
theorem reAuthenticateForDeletion_faults (form : ReAuthForm) :
    (UserController.reAuthenticateEmailAndPasswordForDeletion form).wp platform (fun _ tr _ =>
      (∀ x e, .notMerged x e ∉ faults tr) ∧ RemovalLog w (audit tr) (faults tr)) w := by
  have hidle : (∀ x e, .notMerged x e ∉ ([] : List Fault)) ∧ RemovalLog w [] [] :=
    ⟨fun _ _ => List.not_mem_nil, .idle⟩
  set L : List Mark → List Fault → Prop := fun log fs =>
    (∀ x e, .notMerged x e ∉ fs) ∧ RemovalLog w log fs
  refine wp_withLoader_faults (L := L) ?_
  refine wp_whenConnected_faults (L := L) hidle (wp_whenValid_faults (L := L) hidle ?_)
  refine Prog.wp_bind_of (reAuthenticateWithEmailAndPassword_faults _ _ _) ?_ ?_
  · rintro e tr w' ⟨-, haudit, hfaults⟩
    show L (audit tr) (faults tr)
    rw [haudit, hfaults]
    exact hidle
  · rintro ⟨⟩ tr w' ⟨rfl, u, hu, haudit, hfaults⟩
    simp only [audit_append, haudit, faults_append, hfaults, List.nil_append]
    refine wp_bind_unmarked (L := fun log fs => L ([.reauthenticated u.uid] ++ log) fs)
      (Prog.wp_mono (deleteAccount_faults hu) fun r tr' w'' hrem => ?_) fun _ w₂ => ?_
    · exact ⟨hrem.not_mem_notMerged, .removal (fun _ => rfl) hrem⟩
    · exact wp_stopLoading_bind.mpr
        ((Sync.snackBar _ _ _).wp_bind.mpr ((Sync.getOffAll _).wp.mpr ⟨rfl, rfl⟩))

end Logs

theorem AccountOperation.local (op : AccountOperation) : Local op.body := by
  cases op with
  | signup form => exact local_signup form
  | emailAndPasswordSignIn form => exact local_emailAndPasswordSignIn form
  | googleSignIn => exact local_googleSignIn
  | deleteUserAccount => exact local_deleteUserAccount
  | reAuthenticateEmailAndPasswordForDeletion form => exact local_reAuthenticateForDeletion form

/-- The directory after an operation is what its log makes of the directory before. -/
theorem AccountOperation.directory_eq (op : AccountOperation) {w w' : World} {tr : List Event}
    {r : Except Exn Unit} (hrun : op.body.Run platform w tr r w') :
    w'.directory = (audit tr).foldl Directory.act w.directory := by
  rw [hrun.view_eq platform_shows_directory op.local.directory, Directory.foldl_actEvent]

/-- One operation keeps accounts and documents in step exactly when it does not stop between its two
writes. -/
theorem AccountOperation.inStep_iff (op : AccountOperation) {w w' : World} {tr : List Event}
    {r : Except Exn Unit} (hw : w.directory.InStep) (hrun : op.body.Run platform w tr r w') :
    w'.directory.InStep ↔ ¬ op.Faulty w (faults tr) := by
  rw [op.directory_eq hrun]
  cases op with
  | signup form =>
    exact (Prog.wp_iff_run.mp (signup_faults form) tr r w' hrun).inStep_iff hw
  | emailAndPasswordSignIn form =>
    refine iff_of_true ?_ not_false
    rcases Prog.wp_iff_run.mp (emailAndPasswordSignIn_log form) tr r w' hrun with h | ⟨x, h⟩ <;>
    · rw [h]
      exact hw
  | googleSignIn =>
    exact (Prog.wp_iff_run.mp googleSignIn_faults tr r w' hrun).inStep_iff hw
  | deleteUserAccount =>
    exact (Prog.wp_iff_run.mp deleteUserAccount_faults tr r w' hrun).inStep_iff hw
  | reAuthenticateEmailAndPasswordForDeletion form =>
    obtain ⟨hmerged, hlog⟩ :=
      Prog.wp_iff_run.mp (reAuthenticateForDeletion_faults form) tr r w' hrun
    rw [hlog.inStep_iff hw, not_iff_not, AccountOperation.Faulty]
    refine or_iff_left ?_
    rintro ⟨e, ⟨x, hx, -⟩, -⟩
    exact hmerged x e hx

/-- The states between operations: each operation runs after the one before it, and
`ok` says which runs are considered. -/
inductive Reachable (ok : AccountOperation → World → List Event → Prop) (w₀ : World) : World → Prop
  | start : Reachable ok w₀ w₀
  | step {w w' : World} (op : AccountOperation) {tr : List Event} {r : Except Exn Unit}
      (h : Reachable ok w₀ w) (hrun : op.body.Run platform w tr r w') (hok : ok op w tr) :
      Reachable ok w₀ w'

/-- The operation does not stop between its two writes. -/
def AccountOperation.Faultless (op : AccountOperation) (w : World) (tr : List Event) : Prop :=
  ¬ op.Faulty w (faults tr)

/-- Accounts and documents are in step in every state that is reached by operations none of which
stops between its two writes. -/
theorem inStep_of_reachable {w₀ w : World} (hw₀ : w₀.directory.InStep)
    (h : Reachable AccountOperation.Faultless w₀ w) : w.directory.InStep := by
  induction h with
  | start => exact hw₀
  | step op _ hrun hok ih => exact (op.inStep_iff ih hrun).mpr hok

/-- A complete sign-up form. -/
def signupForm : SignupForm where
  firstName := "Ana"
  lastName := "Cruz"
  email := "ana@example.com"
  gender := "Female"
  birthYear := "2000"
  addressCity := "Baler"
  addressProvState := "Aurora"
  addressCountry := "Philippines"
  password := "secret"
  privacyPolicy := true
  signupFormKey := some true

theorem inStep_withUsers_nil : (World.withUsers []).directory.InStep := by
  intro x
  exact iff_of_false (AList.notMem_empty x) (AList.notMem_empty x)

/-- The deletion of an account with a password. -/
def deleteWithPassword : AccountOperation :=
  .reAuthenticateEmailAndPasswordForDeletion
    { verifyEmail := "ana@example.com", verifyPassword := "secret", reAuthFormKey := some true }

/-- An account is created and deleted again: after each operation
its document is there exactly when it is. -/
theorem inStep_after_signup : ∃ w₁ w₂ : World,
    Reachable AccountOperation.Faultless (World.withUsers []) w₁ ∧
      Reachable AccountOperation.Faultless w₁ w₂ ∧
      "ana@example.com" ∈ w₁.accounts ∧ "ana@example.com" ∈ w₁.db .users ∧ w₁.directory.InStep ∧
      "ana@example.com" ∉ w₂.accounts ∧ "ana@example.com" ∉ w₂.db .users ∧
      w₂.directory.InStep := by
  have hboth : ((AccountOperation.signup signupForm).body.follow platform
      (scenario fun _ _ => none) (World.withUsers [])).any
        (fun out => decide (faults out.1 = [] ∧ "ana@example.com" ∈ out.2.2.accounts ∧
            "ana@example.com" ∈ out.2.2.db .users) &&
          (deleteWithPassword.body.follow platform (scenario fun _ _ => none) out.2.2).any
            fun out' => decide (faults out'.1 = [] ∧ "ana@example.com" ∉ out'.2.2.accounts ∧
              "ana@example.com" ∉ out'.2.2.db .users)) = true := by
    decide +kernel
  obtain ⟨tr, r, w₁, hrun, hq⟩ := Prog.exists_run_of_follow hboth
  obtain ⟨hfirst, hsecond⟩ := Bool.and_eq_true_iff.mp hq
  obtain ⟨tr', r', w₂, hrun', hq'⟩ := Prog.exists_run_of_follow hsecond
  obtain ⟨hfaults, haccount, hdoc⟩ := of_decide_eq_true hfirst
  obtain ⟨hfaults', haccount', hdoc'⟩ := of_decide_eq_true hq'
  have hsaved : (AccountOperation.signup signupForm).Faultless (World.withUsers []) tr := by
    rintro ⟨x, hx⟩
    rw [hfaults] at hx
    cases hx
  have hremoved : deleteWithPassword.Faultless w₁ tr' := by
    rintro ⟨x, hx⟩
    rw [hfaults'] at hx
    cases hx
  have hreached : Reachable AccountOperation.Faultless (World.withUsers []) w₁ :=
    .step _ .start hrun hsaved
  have hreached' : Reachable AccountOperation.Faultless w₁ w₂ := .step _ .start hrun' hremoved
  have hw₁ := inStep_of_reachable inStep_withUsers_nil hreached
  exact ⟨w₁, w₂, hreached, hreached', haccount, hdoc, hw₁, haccount', hdoc',
    inStep_of_reachable hw₁ hreached'⟩

/-- The calls that store a user's document. -/
def Call.storesUser : Call → Bool
  | .set .users _ _ => true
  | _ => false

/-- A sign-up that fails between its two writes leaves an account without a document. -/
theorem not_inStep_after_failed_signup :
    ¬ ∀ w₀ w : World, w₀.directory.InStep → Reachable (fun _ _ _ => True) w₀ w →
      w.directory.InStep := by
  intro hall
  obtain ⟨tr, r, w, hrun, hq⟩ := scenario_run (AccountOperation.signup signupForm).body
    (World.withUsers [])
    (throwing Call.storesUser (.firebase "unavailable" ""))
    (fun out => "ana@example.com" ∈ out.2.2.accounts ∧
      "ana@example.com" ∉ out.2.2.db .users)
    (by decide +kernel)
  obtain ⟨hmem, hdoc⟩ := of_decide_eq_true hq
  have hstep := hall _ w inStep_withUsers_nil (.step _ .start hrun trivial)
  exact hdoc ((hstep "ana@example.com").mp hmem)

end AroundMuseo
