import AroundMuseo.Account.ProfileWriters

/-!
# The profile in memory

The profile that is shown should be the one that is stored. Every operation of a session
keeps both in agreement, but for a fetch that fails and a Google account with another email
or picture.
-/

namespace AroundMuseo

open Async Firestore AuthenticationRepository

/-- The operations of a session that touch the profile. -/
inductive ProfileOperation where
  | fetchUserRecord
  | updateUserName (firstName lastName : String) (form : Option Bool)
  | updateAddress (addressCity addressProvState addressCountry : String) (form : Option Bool)
  | updateBirthYear (birthYear : String) (form : Option Bool)
  | updateGender (gender : String) (form : Option Bool)
  | uploadUserProfilePicture
  /-- The re-authentication in front of a change of the email. -/
  | resetEmailAddress

def ProfileOperation.body : ProfileOperation → App Unit
  | fetchUserRecord => UserController.fetchUserRecord
  | updateUserName firstName lastName form =>
    UpdateNameController.updateUserName firstName lastName form
  | updateAddress addressCity addressProvState addressCountry form =>
    UpdateAddressController.updateAddress addressCity addressProvState addressCountry form
  | updateBirthYear birthYear form => UpdateBirthYearController.updateBirthYear birthYear form
  | updateGender gender form => UpdateGenderController.updateGender gender form
  | uploadUserProfilePicture => UserController.uploadUserProfilePicture
  | resetEmailAddress => UserController.resetEmailAddress

/-- The user with the uid is signed in. -/
def World.SignedInAs (uid : String) (w : World) : Prop := ∃ u, w.currentUser = some u ∧ u.uid = uid

/-- The profile in memory is what the document of the user decodes to. -/
def Mirrors (uid : String) (w : World) : Prop :=
  Decodes ((w.db .users).lookup uid) w.userController.user.profile

/-- An operation of a session, with its calls and the states around it. -/
structure ProfileStep where
  before : World
  op : ProfileOperation
  tr : List Event
  after : World

/-- A session of the user `uid`: a fetch that succeeds, and any sequence of operations. -/
inductive ProfileSession (uid : String) : List ProfileStep → World → Prop
  | first {w w' : World} {tr : List Event} {r : Except Exn Unit} (hu : w.SignedInAs uid)
      (hrun : UserController.fetchUserRecord.Run platform w tr r w') (hok : AllAnswered tr)
      (hdec : ∃ p, Decodes ((w.db .users).lookup uid) p) : ProfileSession uid [] w'
  | next {w w' : World} {log : List ProfileStep} {op : ProfileOperation} {tr : List Event}
      {r : Except Exn Unit} (h : ProfileSession uid log w) (hrun : op.body.Run platform w tr r w')
      (hu : w'.SignedInAs uid) : ProfileSession uid (log ++ [⟨w, op, tr, w'⟩]) w'

/-- After the operation both sides agree, and they are as before if a call threw. -/
structure ProfileStep.Mirrored (uid : String) (s : ProfileStep) : Prop where
  mirrors : Mirrors uid s.after
  atomic : ¬ AllAnswered s.tr → (s.after.db .users).lookup uid = (s.before.db .users).lookup uid ∧
    s.after.userController.user.profile = s.before.userController.user.profile

/-- A fetch is answered, unless there is nothing to lose, and the Google account that is
taken has the email and the picture of the profile. -/
def ProfileStep.Faithful (s : ProfileStep) : Prop :=
  match s.op with
  | .fetchUserRecord =>
    AllAnswered s.tr ∨ s.before.userController.user.profile = Profile.empty
  | .resetEmailAddress => AllAnswered s.tr → ∀ account c, Accepts s.tr account c →
    account.email = s.before.userController.user.email ∧
      account.photoUrl.getD "" = s.before.userController.user.profilePicture
  | _ => True

section Session

variable {uid : String} {w w' : World} {tr : List Event} {r : Except Exn Unit}

/-- An operation that writes both sides or neither. -/
theorem mirrored_of_allOrNothing {p : App Unit} {done : Sides → Prop} {op : ProfileOperation}
    (h : AllOrNothing p w.sides done w) (hrun : p.Run platform w tr r w') (hw : Mirrors uid w)
    (hdone : ∀ s, done s → Decodes (s.users.lookup uid) s.user.profile) :
    ProfileStep.Mirrored uid ⟨w, op, tr, w'⟩ := by
  rcases Prog.wp_iff_run.mp h tr r w' hrun with hs | ⟨hok, -, hs⟩
  · have husers : w'.db .users = w.db .users := congrArg Sides.users hs
    have huser : w'.userController.user = w.userController.user := congrArg Sides.user hs
    refine ⟨?_, fun _ => ?_⟩
    · rw [Mirrors, husers, huser]
      exact hw
    · simp only [husers, huser, and_self]
  · exact ⟨hdone _ hs, fun hfailed => absurd hok hfailed⟩

/-- Fields that are merged into the document and assigned in memory. -/
theorem decodes_of_writes {fields : Doc} {assign : UserModel → UserModel} {s : Sides}
    (hw : Mirrors uid w) (hs : w.sides.Writes uid fields assign s)
    (hwritten : Profile.Written fields w.userController.user.profile
      (assign w.userController.user).profile) : Decodes (s.users.lookup uid) s.user.profile := by
  obtain ⟨d, hd, rfl⟩ := hs
  have hd' : (w.db .users).lookup uid = some d := hd
  rw [Mirrors, hd'] at hw
  rw [AList.lookup_insert]
  exact hw.written hwritten

/-- A form is mirrored, whatever happens to its calls. -/
theorem mirrored_updateProfile {form : Option Bool} {fields : Doc}
    {assign : UserModel → UserModel} {leave : App Unit} {op : ProfileOperation}
    (hleave : OnlyShows leave)
    (hrun : (updateProfile form fields assign leave).Run platform w tr r w')
    (hu : w.SignedInAs uid) (hw : Mirrors uid w)
    (hwritten : Profile.Written fields w.userController.user.profile
      (assign w.userController.user).profile) : ProfileStep.Mirrored uid ⟨w, op, tr, w'⟩ := by
  obtain ⟨u, hu, rfl⟩ := hu
  have h := updateProfile_allOrNothing hu form fields assign hleave
  exact mirrored_of_allOrNothing h hrun hw fun s hs => decodes_of_writes hw hs hwritten

theorem mirrored_uploadUserProfilePicture
    (hrun : UserController.uploadUserProfilePicture.Run platform w tr r w')
    (hu : w.SignedInAs uid) (hw : Mirrors uid w) :
    ProfileStep.Mirrored uid ⟨w, .uploadUserProfilePicture, tr, w'⟩ := by
  obtain ⟨u, hu, rfl⟩ := hu
  refine mirrored_of_allOrNothing (uploadUserProfilePicture_allOrNothing hu) hrun hw ?_
  rintro s ⟨imageUrl, hs⟩
  exact decodes_of_writes hw hs (written_profilePicture _ imageUrl)

/-- A fetch that fails is mirrored only if there was nothing in the profile. -/
theorem mirrored_fetchUserRecord_iff
    (hrun : UserController.fetchUserRecord.Run platform w tr r w')
    (hu : w.SignedInAs uid) (hw : Mirrors uid w) :
    ProfileStep.Mirrored uid ⟨w, .fetchUserRecord, tr, w'⟩ ↔
      ProfileStep.Faithful ⟨w, .fetchUserRecord, tr, w'⟩ := by
  obtain ⟨u, hu, rfl⟩ := hu
  obtain ⟨-, husers, hspec⟩ := Prog.wp_iff_run.mp (fetchUserRecord_decodes hu) tr r w' hrun
  have hmirrors : Mirrors u.uid w' ↔
      Decodes ((w.db .users).lookup u.uid) w'.userController.user.profile := by
    rw [Mirrors, husers]
  rcases hspec with ⟨hok, hdec⟩ | ⟨hempty, hno⟩
  · exact ⟨fun _ => .inl hok, fun _ => ⟨hmirrors.mpr hdec, fun hfailed => absurd hok hfailed⟩⟩
  have hfailed : ¬ AllAnswered tr := fun hok => hno hok _ hw
  constructor
  · intro h
    exact .inr ((h.atomic hfailed).2.symm.trans hempty)
  · rintro (hok | hbefore)
    · exact absurd hok hfailed
    · have hsame : w'.userController.user.profile = w.userController.user.profile :=
        hempty.trans hbefore.symm
      refine ⟨hmirrors.mpr (hsame ▸ hw), fun _ => ⟨?_, hsame⟩⟩
      simp only [husers]

/-- A re-authentication is mirrored only with an account that has the same email and
picture. -/
theorem mirrored_resetEmailAddress_iff
    (hrun : UserController.resetEmailAddress.Run platform w tr r w')
    (hu' : w'.SignedInAs uid) (hw : Mirrors uid w) :
    ProfileStep.Mirrored uid ⟨w, .resetEmailAddress, tr, w'⟩ ↔
      ProfileStep.Faithful ⟨w, .resetEmailAddress, tr, w'⟩ := by
  obtain ⟨u', hu', rfl⟩ := hu'
  rcases Prog.wp_iff_run.mp (resetEmailAddress_reAuthenticated w) tr r w' hrun with
    ⟨hs, hnone⟩ | ⟨hok, account, c, now, hacc, hsession, hs⟩
  · have husers : w'.db .users = w.db .users := congrArg Sides.users hs
    have huser : w'.userController.user = w.userController.user := congrArg Sides.user hs
    refine iff_of_true ⟨?_, fun _ => ?_⟩ ?_
    · rw [Mirrors, husers, huser]
      exact hw
    · simp only [husers, huser, and_self]
    · intro hok account c hacc
      rw [Accepts, hnone hok] at hacc
      cases hacc
  · have husers : w'.db .users = (w.db .users).setMerge c.user.uid (googleProfile account now) :=
      congrArg Sides.users hs
    have huser : w'.userController.user = w.userController.user := congrArg Sides.user hs
    obtain rfl : u' = c.user := Option.some.inj (hu'.symm.trans hsession)
    have hmirrors : Mirrors c.user.uid w' ↔
        account.email = w.userController.user.email ∧
          account.photoUrl.getD "" = w.userController.user.profilePicture := by
      rw [Mirrors, husers, huser, Collection.lookup_setMerge, if_pos rfl]
      exact decodes_googleProfile_iff hw account now
    constructor
    · intro h _ account' c' hacc'
      rw [Accepts, hacc, List.mem_singleton] at hacc'
      cases hacc'
      exact hmirrors.mp h.mirrors
    · intro h
      have haccount := h hok account c (by simp [Accepts, hacc])
      exact ⟨hmirrors.mpr haccount, fun hfailed => absurd hok hfailed⟩

/-- One operation of a session, from a state in which both sides agree. -/
theorem mirrored_iff_faithful {op : ProfileOperation} (hrun : op.body.Run platform w tr r w')
    (hu : w.SignedInAs uid) (hu' : w'.SignedInAs uid) (hw : Mirrors uid w) :
    ProfileStep.Mirrored uid ⟨w, op, tr, w'⟩ ↔ ProfileStep.Faithful ⟨w, op, tr, w'⟩ := by
  cases op with
  | fetchUserRecord => exact mirrored_fetchUserRecord_iff hrun hu hw
  | resetEmailAddress => exact mirrored_resetEmailAddress_iff hrun hu' hw
  | uploadUserProfilePicture =>
    exact iff_of_true (mirrored_uploadUserProfilePicture hrun hu hw) trivial
  | updateUserName firstName lastName form =>
    refine iff_of_true (mirrored_updateProfile (onlyShows_reportAndLeave _) hrun hu hw ?_) trivial
    exact written_name _ _ _
  | updateAddress addressCity addressProvState addressCountry form =>
    have hleave := (onlyShows_getOff .profile).bind fun _ =>
      onlyShows_snackBar .success "Updated Successfully" "Your Address has been updated."
    refine iff_of_true (mirrored_updateProfile hleave hrun hu hw ?_) trivial
    exact written_address _ _ _ _
  | updateBirthYear birthYear form =>
    refine iff_of_true (mirrored_updateProfile (onlyShows_reportAndLeave _) hrun hu hw ?_) trivial
    exact written_birthYear _ _
  | updateGender gender form =>
    refine iff_of_true (mirrored_updateProfile (onlyShows_reportAndLeave _) hrun hu hw ?_) trivial
    exact written_gender _ _

theorem ProfileSession.signedInAs {log : List ProfileStep} (h : ProfileSession uid log w) :
    w.SignedInAs uid := by
  cases h with
  | first hu hrun hok hdec =>
    obtain ⟨u, hu, huid⟩ := hu
    obtain ⟨hsession, -⟩ := Prog.wp_iff_run.mp (fetchUserRecord_decodes hu) _ _ _ hrun
    exact ⟨u, hsession.trans hu, huid⟩
  | next h hrun hu => exact hu

/-- Both sides agree as long as every operation was mirrored. -/
theorem ProfileSession.mirrors {log : List ProfileStep} (h : ProfileSession uid log w)
    (hall : ∀ s ∈ log, s.Mirrored uid) : Mirrors uid w := by
  cases h with
  | first hu hrun hok hdec =>
    obtain ⟨u, hu, rfl⟩ := hu
    obtain ⟨p, hp⟩ := hdec
    obtain ⟨-, husers, hspec⟩ := Prog.wp_iff_run.mp (fetchUserRecord_decodes hu) _ _ _ hrun
    rcases hspec with ⟨-, hdec⟩ | ⟨-, hno⟩
    · rw [Mirrors, husers]
      exact hdec
    · exact absurd hp (hno hok p)
  | next h hrun hu =>
    exact (List.forall_mem_singleton.mp (List.forall_mem_append.mp hall).2).mirrors

end Session

/-- In a session every operation leaves both sides in agreement, and changes neither when it
fails, if and only if no fetch empties a profile and every Google account that is taken has
the email and the picture of the profile. -/
theorem profileMirrored_iff {uid : String} {log : List ProfileStep} {w : World}
    (h : ProfileSession uid log w) :
    (∀ s ∈ log, s.Mirrored uid) ↔ ∀ s ∈ log, s.Faithful := by
  induction h with
  | first => simp
  | @next w w' log op tr r h hrun hu ih =>
    simp only [List.forall_mem_append, List.forall_mem_singleton]
    constructor
    · rintro ⟨hall, hlast⟩
      exact ⟨ih.mp hall, (mirrored_iff_faithful hrun h.signedInAs hu (h.mirrors hall)).mp hlast⟩
    · rintro ⟨hall, hlast⟩
      have hmirrored := ih.mpr hall
      exact ⟨hmirrored,
        (mirrored_iff_faithful hrun h.signedInAs hu (h.mirrors hmirrored)).mpr hlast⟩

/-- A signed-in user with a stored email. -/
theorem profileMirrored_rename : ∃ log w, ProfileSession "u" log w ∧ log ≠ [] ∧
    ((∀ s ∈ log, s.Mirrored "u") ↔ ∀ s ∈ log, s.Faithful) := by
  obtain ⟨tr, r, w, hrun, hq⟩ := scenario_run UserController.fetchUserRecord
    (.withUsers [.of "u" "u@example.com" "password"]) (fun _ _ => none)
    (fun out => decide (AllAnswered out.1) &&
      ((UpdateNameController.updateUserName "Ana" "Cruz" (some true)).follow platform
        (scenario fun _ _ => none) out.2.2).any
          fun out => out.2.2.currentUser = some (.of "u" "u@example.com" "password"))
    (by decide +kernel)
  obtain ⟨hok, hnext⟩ := Bool.and_eq_true_iff.mp hq
  obtain ⟨tr', r', w', hrun', hu'⟩ := scenario_run _ _ _ _ hnext
  have hfirst : ProfileSession "u" [] w := by
    refine .first ⟨_, rfl, rfl⟩ hrun (of_decide_eq_true hok) ?_
    exact ⟨⟨"", "", "u@example.com", "", "", "", "", "", ""⟩, 0, 0, 0, "", _, rfl, rfl⟩
  have hsession : ProfileSession "u"
      ([] ++ [⟨w, .updateUserName "Ana" "Cruz" (some true), tr', w'⟩]) w' :=
    hfirst.next hrun' ⟨_, of_decide_eq_true hu', rfl⟩
  exact ⟨_, w', hsession, by simp, profileMirrored_iff hsession⟩

/-- The second fetch throws, and the email is gone from memory. -/
theorem not_profileMirrored_refetch : ∃ log w, ProfileSession "u" log w ∧
    ¬ ∀ s ∈ log, s.Mirrored "u" := by
  obtain ⟨tr, r, w, hrun, hq⟩ := scenario_run UserController.fetchUserRecord
    (.withUsers [.of "u" "u@example.com" "password"]) (fun _ _ => none)
    (fun out => decide (AllAnswered out.1) &&
      (UserController.fetchUserRecord.follow platform
        (scenario fun
          | _, .get _ _ =>
              some (.error (.firebase "unavailable" "The service is currently unavailable."))
          | _, _ => none) out.2.2).any
          fun out => out.2.2.currentUser = some (.of "u" "u@example.com" "password") ∧
            ((out.2.2.db .users).lookup "u").bind (·.lookup "Email") =
              some (.scalar (.string "u@example.com")) ∧
            out.2.2.userController.user.profile = Profile.empty)
    (by decide +kernel)
  obtain ⟨hok, hnext⟩ := Bool.and_eq_true_iff.mp hq
  obtain ⟨tr', r', w', hrun', hq'⟩ := scenario_run _ _ _ _ hnext
  obtain ⟨hu', hstored, hempty⟩ := of_decide_eq_true hq'
  have hfirst : ProfileSession "u" [] w := by
    refine .first ⟨_, rfl, rfl⟩ hrun (of_decide_eq_true hok) ?_
    exact ⟨⟨"", "", "u@example.com", "", "", "", "", "", ""⟩, 0, 0, 0, "", _, rfl, rfl⟩
  have hsession : ProfileSession "u" ([] ++ [⟨w, .fetchUserRecord, tr', w'⟩]) w' :=
    hfirst.next hrun' ⟨_, hu', rfl⟩
  refine ⟨_, w', hsession, fun hall => ?_⟩
  have hmirrors : Decodes ((w'.db .users).lookup "u") w'.userController.user.profile :=
    (hall _ (List.mem_append_right _ (List.mem_singleton_self _))).mirrors
  obtain ⟨d, hd, hemail⟩ := Option.bind_eq_some_iff.mp hstored
  rw [hd, hempty, decodes_some] at hmirrors
  have hread := hmirrors.2 ("Email", Profile.email) (by simp [Profile.fields])
  rw [stringField, hemail] at hread
  exact absurd (Except.ok.inj hread) (by decide)

end AroundMuseo
