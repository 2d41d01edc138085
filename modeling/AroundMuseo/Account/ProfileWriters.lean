import AroundMuseo.Account.GoogleSignIn
import AroundMuseo.Account.Profile

/-!
# The writers of the profile

The forms and the upload of a picture write the document and the user in memory, or neither.
A fetch that fails empties the user in memory, and a Google sign-in writes the document alone.
-/

namespace AroundMuseo

open Async Firestore AuthenticationRepository

/-- The two sides of the profile: the stored documents and the user in memory. -/
structure Sides where
  users : Collection
  user : UserModel

def World.sides (w : World) : Sides := ⟨w.db .users, w.userController.user⟩

@[simp] theorem World.sides_withNav (w : World) (nav : Navigator RouteContent) :
    (w.withNav nav).sides = w.sides := rfl

/-- Assigning to the user changes only the side that is shown. -/
theorem World.sides_assign (w : World) (f : UserModel → UserModel) :
    World.sides { w with userController.user := f w.userController.user } =
      ⟨w.sides.users, f w.sides.user⟩ := rfl

/-- Both sides are as in `s`, or every call was answered and both sides are `done`. -/
def AllOrNothing (p : App Unit) (s : Sides) (done : Sides → Prop) (w : World) : Prop :=
  p.wp platform (fun r tr w' => w'.sides = s ∨ AllAnswered tr ∧ r = .ok () ∧ done w'.sides) w

/-- A tail that only shows something. -/
def OnlyShows (p : App Unit) : Prop :=
  ∀ w, p.wp platform (fun r tr w' => (AllAnswered tr ∧ acceptances tr = []) ∧ r = .ok () ∧
    ∃ nav, w' = w.withNav nav) w

theorem acceptances_append (tr tr' : List Event) :
    acceptances (tr ++ tr') = acceptances tr ++ acceptances tr' :=
  List.filterMap_append

section Rules

variable {w : World} {body : App Unit} {s : Sides} {done : Sides → Prop}

theorem OnlyShows.bind {p : App Unit} {f : Unit → App Unit} (hp : OnlyShows p)
    (hf : ∀ a, OnlyShows (f a)) : OnlyShows (p >>= f) := by
  intro w
  refine Prog.wp_bind_of (hp w) ?_ ?_
  · rintro e tr w' ⟨-, he, -⟩
    cases he
  · rintro a tr _ ⟨⟨hok, hnone⟩, -, nav, rfl⟩
    refine Prog.wp_mono (hf a (w.withNav nav)) ?_
    rintro r tr' _ ⟨⟨hok', hnone'⟩, hr, nav', rfl⟩
    refine ⟨⟨allAnswered_append.mpr ⟨hok, hok'⟩, ?_⟩, hr, nav', rfl⟩
    rw [acceptances_append, hnone, hnone', List.append_nil]

theorem allAnswered_singleton {w : World} {c : Call} (v : Reply c) :
    AllAnswered [(⟨w, c, .ok v⟩ : Event)] :=
  allAnswered_cons.mpr ⟨⟨v, rfl⟩, allAnswered_nil⟩

theorem onlyShows_snackBar (kind : SnackBarKind) (title message : String) :
    OnlyShows (await (.snackBar kind title message)) :=
  fun _ => (Sync.snackBar kind title message).wp.mpr
    ⟨⟨allAnswered_singleton _, rfl⟩, rfl, _, rfl⟩

theorem onlyShows_getOff (screen : Screen) : OnlyShows (await (.getOff screen)) :=
  fun _ => (Sync.getOff screen).wp.mpr ⟨⟨allAnswered_singleton _, rfl⟩, rfl, _, rfl⟩

theorem onlyShows_getTo (screen : Screen) : OnlyShows (await (.getTo screen)) :=
  fun _ => (Sync.getTo screen).wp.mpr ⟨⟨allAnswered_singleton _, rfl⟩, rfl, _, rfl⟩

theorem onlyShows_stopLoading : OnlyShows FullScreenLoader.stopLoading :=
  fun _ => wp_stopLoading.mpr ⟨⟨allAnswered_singleton _, rfl⟩, rfl, _, rfl⟩

/-- A tail that shows something changes neither side. -/
theorem OnlyShows.keeps {p : App Unit} (h : OnlyShows p) (w : World) :
    p.wp platform (fun _ _ w' => w'.sides = w.sides) w :=
  Prog.wp_mono (h w) fun _ _ _ ⟨_, _, _, hw⟩ => hw ▸ rfl

/-- Before anything is written, messages change neither side. -/
theorem OnlyShows.allOrNothing {p : App Unit} (h : OnlyShows p) (hs : w.sides = s) :
    AllOrNothing p s done w :=
  Prog.wp_mono (h.keeps w) fun _ _ _ h' => .inl (h'.trans hs)

/-- After a call that threw, nothing may be committed. -/
theorem allOrNothing_bind {α : Type} {p : App α} {f : α → App Unit}
    (hp : p.wp platform (fun r tr w' => match r with
      | .ok a => AllOrNothing (f a) s done w' ∧ AllAnswered tr ∨
          (f a).wp platform (fun _ _ w'' => w''.sides = s) w'
      | .error _ => w'.sides = s) w) : AllOrNothing (p >>= f) s done w := by
  refine Prog.wp_bind.mpr (Prog.wp_mono hp fun r tr w' h => ?_)
  cases r with
  | error e => exact .inl h
  | ok a =>
    rcases h with ⟨h, hok⟩ | h
    · refine Prog.wp_mono h fun r tr' w'' h' => ?_
      rcases h' with hs | ⟨hok', hr, hdone⟩
      · exact .inl hs
      · exact .inr ⟨allAnswered_append.mpr ⟨hok, hok'⟩, hr, hdone⟩
    · exact Prog.wp_mono h fun _ _ _ h' => .inl h'

/-- After both sides are written, messages change neither. -/
theorem OnlyShows.committed {p : App Unit} (h : OnlyShows p) (hdone : done w.sides) :
    AllOrNothing p s done w :=
  Prog.wp_mono (h w) fun _ _ _ ⟨⟨hok, _⟩, hr, _, hw⟩ => .inr ⟨hok, hr, hw ▸ hdone⟩

/-- An assignment to the user in memory. -/
theorem allOrNothing_modifyUser {f : UserModel → UserModel} {k : Unit → App Unit} :
    AllOrNothing (UserController.modifyUser f >>= k) s done w ↔ AllOrNothing (k ()) s done
      { w with userController.user := f w.userController.user } := Iff.rfl

/-- A loader is no part of the two sides. -/
theorem allOrNothing_withLoader {text : String} {kind : SnackBarKind}
    (h : AllOrNothing body s done (w.withNav (w.nav.push (.loader text docerAnimation)))) :
    AllOrNothing (withLoader text kind body) s done w := by
  refine wp_withLoader.mpr (Prog.wp_mono h fun r tr w' h' => ?_)
  cases r with
  | ok a =>
    rcases h' with hs | ⟨hok, -, hdone⟩
    · exact .inl hs
    · exact .inr ⟨allAnswered_cons.mpr ⟨⟨_, rfl⟩, hok⟩, rfl, hdone⟩
  | error e =>
    rcases h' with hs | ⟨-, hr, -⟩
    · exact .inl hs
    · cases hr

/-- Without a connection neither side is written. -/
theorem allOrNothing_whenConnected (hs : w.sides = s) (h : AllOrNothing body s done w) :
    AllOrNothing (whenConnected body) s done w := by
  refine allOrNothing_bind ?_
  rw [NetworkManager.isConnected, Prog.wp_handle]
  refine Prog.wp_invoke_bind.mpr ⟨fun _ e => ?_, ?_⟩
  · cases e with
    | platform code text =>
      exact .inr (Prog.wp_mono (onlyShows_stopLoading.keeps w) fun _ _ _ h' => h'.trans hs)
    | firebaseAuth | firebase | format | other | message | mAppFormat => exact hs
  · rintro v _ ⟨⟩
    refine .inl ⟨?_, allAnswered_singleton v⟩
    split
    · exact h
    · exact onlyShows_stopLoading.allOrNothing hs

/-- With a form that is not accepted neither side is written. -/
theorem allOrNothing_whenValid {form : Option Bool} (hs : w.sides = s)
    (h : AllOrNothing body s done w) : AllOrNothing (whenValid form body) s done w := by
  match form with
  | none => exact .inl hs
  | some false => exact onlyShows_stopLoading.allOrNothing hs
  | some true => exact h

end Rules

/-- Fields were merged into the document `uid`, and assigned in memory. -/
def Sides.Writes (s : Sides) (uid : String) (fields : Doc) (assign : UserModel → UserModel)
    (s' : Sides) : Prop :=
  ∃ d, s.users.lookup uid = some d ∧ s' = ⟨s.users.insert uid (d.merge fields), assign s.user⟩

section Operations

variable {w : World} {u : User}

/-- The update of fields of the user's document. -/
theorem updateSingleField_commits (hu : w.currentUser = some u) (fields : Doc) :
    (UserRepository.updateSingleField fields).wp platform (fun r tr w' => match r with
      | .ok _ => AllAnswered tr ∧ w.sides.Writes u.uid fields id w'.sides
      | .error _ => w'.sides = w.sides) w := by
  rw [UserRepository.updateSingleField, UserRepository.rethrowing, Prog.wp_handle, authUser,
    Prog.wp_read_bind, hu]
  refine Prog.wp_invoke.mpr ⟨fun _ e => rfl, fun v w' hw' => ?_⟩
  obtain ⟨users, husers, rfl⟩ := Option.map_eq_some_iff.mp hw'
  obtain ⟨d, hd, rfl⟩ := Collection.update_eq_some.mp husers
  refine ⟨allAnswered_singleton v, d, hd, ?_⟩
  rw [World.sides, World.setDb_db_self]
  rfl

/-- The document is written first, and then the user in memory. -/
theorem writeAndAssign_allOrNothing (hu : w.currentUser = some u) (fields : Doc)
    (assign : UserModel → UserModel) {tail : Unit → App Unit} (htail : ∀ a, OnlyShows (tail a)) :
    AllOrNothing (UserRepository.updateSingleField fields >>= fun _ =>
        UserController.modifyUser assign >>= tail) w.sides
          (w.sides.Writes u.uid fields assign) w := by
  refine allOrNothing_bind (Prog.wp_mono (updateSingleField_commits hu fields) fun r tr w' h => ?_)
  cases r with
  | error e => exact h
  | ok a =>
    obtain ⟨hok, d, hd, hsides⟩ := h
    refine .inl ⟨allOrNothing_modifyUser.mpr ((htail ()).committed ⟨d, hd, ?_⟩), hok⟩
    rw [World.sides_assign, hsides]
    rfl

/-- A form writes its fields to the document and assigns them in memory. -/
theorem updateProfile_allOrNothing (hu : w.currentUser = some u) (form : Option Bool)
    (fields : Doc) (assign : UserModel → UserModel) {leave : App Unit} (hleave : OnlyShows leave) :
    AllOrNothing (updateProfile form fields assign leave) w.sides
      (w.sides.Writes u.uid fields assign) w := by
  refine allOrNothing_withLoader (allOrNothing_whenConnected rfl (allOrNothing_whenValid rfl ?_))
  have hu' : (w.withNav (w.nav.push (.loader "We are updating your information..."
      docerAnimation))).currentUser = some u := hu
  exact writeAndAssign_allOrNothing hu' fields assign fun _ =>
    onlyShows_stopLoading.bind fun _ => hleave

/-- An uploaded image is not yet a part of either side. -/
theorem uploadImage_keeps (w : World) (path : String) (image : XFile) :
    (UserRepository.uploadImage path image).wp platform (fun r tr w' =>
      w'.currentUser = w.currentUser ∧ w'.sides = w.sides ∧
        ∀ imageUrl, r = .ok imageUrl → AllAnswered tr) w := by
  rw [UserRepository.uploadImage, UserRepository.rethrowing, Prog.wp_handle]
  have hthrown (e : Exn) (tr : List Event) (imageUrl : String)
      (h : (.error e : Except Exn String) = .ok imageUrl) : AllAnswered tr := by
    cases h
  refine Prog.wp_invoke_bind.mpr ⟨fun _ e => ⟨rfl, rfl, hthrown _ _⟩, ?_⟩
  rintro v _ ⟨⟩
  refine Prog.wp_invoke.mpr ⟨fun _ e => ⟨rfl, rfl, hthrown _ _⟩, fun imageUrl w' hw' => ?_⟩
  simp only [platform, effect, Option.ite_none_right_eq_some, Option.some.injEq] at hw'
  obtain ⟨-, rfl⟩ := hw'
  refine ⟨rfl, rfl, fun _ _ => ?_⟩
  exact allAnswered_cons.mpr ⟨⟨_, rfl⟩, allAnswered_singleton _⟩

/-- The profile picture is written under some URL. -/
def Sides.ShowsPicture (s : Sides) (uid : String) (s' : Sides) : Prop :=
  ∃ imageUrl, s.Writes uid (Doc.ofFields [("ProfilePicture", Scalar.string imageUrl)])
    (fun user => { user with profilePicture := imageUrl }) s'

/-- What is done may be weakened. -/
theorem AllOrNothing.mono {p : App Unit} {s : Sides} {done done' : Sides → Prop}
    (h : AllOrNothing p s done w) (hdone : ∀ s', done s' → done' s') : AllOrNothing p s done' w :=
  Prog.wp_mono h fun _ _ _ h' => h'.imp_right fun h' => ⟨h'.1, h'.2.1, hdone _ h'.2.2⟩

/-- The picture is written to both sides or to none. -/
theorem pickAndUpload_allOrNothing (hu : w.currentUser = some u) :
    AllOrNothing UserController.pickAndUpload w.sides (w.sides.ShowsPicture u.uid) w := by
  refine allOrNothing_bind (Prog.wp_invoke.mpr ⟨fun _ e => rfl, ?_⟩)
  rintro (_ | source) w₁ ⟨⟩
  · exact .inr rfl
  refine .inl ⟨?_, allAnswered_singleton _⟩
  refine allOrNothing_bind (Prog.wp_invoke.mpr ⟨fun _ e => rfl, ?_⟩)
  rintro (_ | image) w₂ ⟨⟩
  · exact .inr rfl
  refine .inl ⟨?_, allAnswered_singleton _⟩
  refine allOrNothing_bind (.inl ⟨?_, allAnswered_nil⟩)
  refine allOrNothing_bind (Prog.wp_mono (uploadImage_keeps _ _ image) fun r tr w' h => ?_)
  obtain ⟨hsession, hsides, hok⟩ := h
  cases r with
  | error e => exact hsides
  | ok imageUrl =>
    have hcommit := writeAndAssign_allOrNothing (hsession.trans hu)
      (Doc.ofFields [("ProfilePicture", Scalar.string imageUrl)])
      (fun user => { user with profilePicture := imageUrl })
      (fun _ =>
        onlyShows_snackBar .success "Image Uploaded" "Your profile picture has been updated.")
    rw [hsides] at hcommit
    exact .inl ⟨hcommit.mono fun s' hs' => ⟨imageUrl, hs'⟩, hok imageUrl rfl⟩

/-- A picture is stored and shown, or neither. -/
theorem uploadUserProfilePicture_allOrNothing (hu : w.currentUser = some u) :
    AllOrNothing UserController.uploadUserProfilePicture w.sides
      (w.sides.ShowsPicture u.uid) w := by
  refine Prog.wp_ensure.mpr ?_
  rw [Prog.wp_handle]
  refine Prog.wp_mono (pickAndUpload_allOrNothing hu) fun r tr w' h => ?_
  cases r with
  | ok a =>
    rcases h with hs | ⟨hok, -, hdone⟩
    · exact .inl hs
    · refine .inr ⟨?_, rfl, hdone⟩
      rw [List.append_nil]
      exact hok
  | error e =>
    have hs : w'.sides = w.sides := by
      rcases h with hs | ⟨-, hr, -⟩
      · exact hs
      · cases hr
    have hshow : OnlyShows (do
        FullScreenLoader.stopLoading
        await (.snackBar .warning "Oh Snap!" e.toText)) :=
      onlyShows_stopLoading.bind fun _ => onlyShows_snackBar _ _ _
    exact Prog.wp_mono (hshow.keeps w') fun _ _ _ hsides => .inl (hsides.trans hs)

/-- What is fetched is what the document decodes to. -/
theorem fetchUserDetails_decodes (hu : w.currentUser = some u) :
    UserRepository.fetchUserDetails.wp platform (fun r tr w' => w' = w ∧
      (∀ user, r = .ok user → AllAnswered tr ∧
        Decodes ((w.db .users).lookup u.uid) user.profile) ∧
      ∀ e, r = .error e → AllAnswered tr → ∀ p, ¬ Decodes ((w.db .users).lookup u.uid) p) w := by
  rw [UserRepository.fetchUserDetails, UserRepository.rethrowing, Prog.wp_handle, authUser,
    Prog.wp_read_bind, hu]
  refine wp_get_bind.mpr ⟨fun e => ⟨rfl, fun user huser => ?_, fun _ _ hok => ?_⟩, fun _ => ?_⟩
  · cases huser
  · simp [allAnswered_cons] at hok
  refine wp_now_bind.mpr fun t₁ => wp_now_bind.mpr fun t₂ => wp_now_bind.mpr fun t₃ => ?_
  cases hd : (w.db .users).lookup u.uid with
  | none =>
    refine ⟨rfl, ?_, fun e he => ?_⟩
    · rintro _ ⟨⟩
      exact ⟨by simp [allAnswered_cons, allAnswered_nil], decodes_none.mpr rfl⟩
    · cases he
  | some d =>
    cases hdec : UserModel.fromSnapshot t₁ t₂ t₃ u.uid (some d) with
    | ok user =>
      simp only [liftExcept, hdec]
      refine ⟨rfl, ?_, fun e he => ?_⟩
      · rintro _ ⟨⟩
        exact ⟨by simp [allAnswered_cons, allAnswered_nil], t₁, t₂, t₃, u.uid, user, hdec, rfl⟩
      · cases he
    | error e =>
      simp only [liftExcept, hdec]
      refine ⟨rfl, fun user huser => ?_, ?_⟩
      · cases huser
      rintro e' - - p ⟨s₁, s₂, s₃, id, user, huser, -⟩
      obtain ⟨user', huser'⟩ : ∃ user, UserModel.fromSnapshot t₁ t₂ t₃ u.uid (some d) = .ok user :=
        UserModel.decodes_of_decodes t₁ t₂ t₃ ⟨user, huser⟩
      rw [hdec] at huser'
      cases huser'

/-- A fetch shows what is stored, or empties the profile in memory. -/
theorem fetchUserRecord_decodes (hu : w.currentUser = some u) :
    UserController.fetchUserRecord.wp platform (fun _ tr w' =>
      w'.currentUser = w.currentUser ∧ w'.db .users = w.db .users ∧
      (AllAnswered tr ∧ Decodes ((w.db .users).lookup u.uid) w'.userController.user.profile ∨
        w'.userController.user.profile = Profile.empty ∧
          (AllAnswered tr → ∀ p, ¬ Decodes ((w.db .users).lookup u.uid) p))) w := by
  refine Prog.wp_ensure.mpr ?_
  rw [Prog.wp_handle, UserController.setProfileLoading, Prog.wp_modify_bind]
  refine Prog.wp_bind_of (fetchUserDetails_decodes (u := u) hu) ?_ ?_
  · rintro e tr _ ⟨rfl, -, hno⟩
    refine wp_now_bind.mpr fun t₁ => wp_now_bind.mpr fun t₂ => wp_now_bind.mpr fun t₃ => ?_
    refine ⟨rfl, rfl, .inr ⟨rfl, fun hok => hno e rfl ?_⟩⟩
    simp only [allAnswered_append] at hok
    exact hok.1.1
  · rintro user tr _ ⟨rfl, hyes, -⟩
    obtain ⟨hok, hdec⟩ := hyes user rfl
    refine ⟨rfl, rfl, .inl ⟨?_, hdec⟩⟩
    simpa [allAnswered_append, allAnswered_nil] using hok

/-- Either no Google account was taken, or its profile was merged into the document of the
user who is then signed in; the user in memory stays as it was. -/
def ReAuthenticated (s : Sides) (tr : List Event) (w' : World) : Prop :=
  w'.sides = s ∧ (AllAnswered tr → acceptances tr = []) ∨
    AllAnswered tr ∧ ∃ account c now, acceptances tr = [(account, c)] ∧
      w'.currentUser = some c.user ∧
      w'.sides = ⟨s.users.setMerge c.user.uid (googleProfile account now), s.user⟩

/-- A call that throws ends the sign-in before the document is written. -/
theorem reAuthenticated_failed {s : Sides} {tr : List Event} {w' : World} (hs : w'.sides = s)
    (hfailed : ¬ AllAnswered tr) : ReAuthenticated s tr w' :=
  .inl ⟨hs, fun hok => absurd hok hfailed⟩

/-- An accepted credential writes to neither side. -/
theorem sides_of_accepted {w w' : World} {credentials : GoogleSignInAuthentication}
    {c : UserCredential} (h : effect (.signInWithCredential credentials) w c = some w') :
    w'.sides = w.sides := by
  simp only [effect] at h
  split at h <;> split at h <;> cases h <;> rfl

/-- The prompt writes at most the document of the account that it accepts. -/
theorem signInWithGoogle_reAuthenticated (w : World) : signInWithGoogle.wp platform
    (fun _ tr w' => ReAuthenticated w.sides tr w') w := by
  have hfailed {c : Call} {e : Exn} (tr : List Event) {w₁ : World} :
      ¬ AllAnswered (tr ++ [(⟨w₁, c, .error e⟩ : Event)]) := by
    simp [allAnswered_append, allAnswered_cons]
  rw [signInWithGoogle, Prog.wp_handle]
  refine Prog.wp_invoke_bind.mpr ⟨fun _ e => wp_caught ?_, ?_⟩
  · exact reAuthenticated_failed rfl (hfailed [])
  rintro - _ ⟨⟩
  refine Prog.wp_invoke_bind.mpr ⟨fun _ e => wp_caught ?_, ?_⟩
  · exact reAuthenticated_failed rfl (hfailed [_])
  rintro (_ | account) _ ⟨⟩
  · exact .inl ⟨rfl, fun _ => rfl⟩
  refine Prog.wp_invoke_bind.mpr ⟨fun _ e => wp_caught ?_, ?_⟩
  · exact reAuthenticated_failed rfl (hfailed [_, _])
  rintro (tokens : GoogleSignInAuthentication) w₁ htokens
  simp only [platform, effect, Option.ite_none_right_eq_some, Option.some.injEq] at htokens
  obtain ⟨rfl, rfl⟩ := htokens
  refine Prog.wp_invoke_bind.mpr ⟨fun _ e => wp_caught ?_, fun c w₁ hc => ?_⟩
  · exact reAuthenticated_failed rfl (hfailed [_, _, _])
  obtain ⟨hsession, hdb⟩ := currentUser_of_accepted hc
  have hsides : w₁.sides = w.sides := sides_of_accepted hc
  refine wp_now_bind.mpr fun now => ?_
  refine Prog.wp_invoke_bind.mpr ⟨fun _ e => wp_caught ?_, ?_⟩
  · exact reAuthenticated_failed hsides (hfailed [_, _, _, _, _])
  rintro - _ ⟨⟩
  refine .inr ⟨?_, tokens.account, c, now, rfl, hsession, ?_⟩
  · simp [allAnswered_cons, allAnswered_nil]
  · rw [World.sides, World.setDb_db_self, ← hsides]
    rfl

/-- What is only shown afterwards does not matter. -/
theorem ReAuthenticated.shows {s : Sides} {tr tr' : List Event} {w' : World}
    (h : ReAuthenticated s tr w') (htr : AllAnswered tr' ∧ acceptances tr' = [])
    (nav : Navigator RouteContent) : ReAuthenticated s (tr ++ tr') (w'.withNav nav) := by
  rcases h with ⟨hs, hnone⟩ | ⟨hok, account, c, now, hacc, hsession, hs⟩
  · refine .inl ⟨hs, fun hok => ?_⟩
    rw [acceptances_append, hnone (allAnswered_append.mp hok).1, htr.2, List.append_nil]
  · refine .inr ⟨allAnswered_append.mpr ⟨hok, htr.1⟩, account, c, now, ?_, hsession, hs⟩
    rw [acceptances_append, hacc, htr.2, List.append_nil]

/-- Neither does the loader in front. -/
theorem ReAuthenticated.opened {s : Sides} {tr : List Event} {w w' : World}
    (h : ReAuthenticated s tr w') (text animation : String) (v : Nat) :
    ReAuthenticated s (⟨w, .openLoadingDialog text animation, .ok v⟩ :: tr) w' := by
  have hok : AllAnswered ((⟨w, .openLoadingDialog text animation, .ok v⟩ : Event) :: tr) ↔
      AllAnswered tr := by
    rw [allAnswered_cons, and_iff_right ⟨v, rfl⟩]
  rw [ReAuthenticated, hok]
  exact h

theorem reAuthenticated_nil (w : World) : ReAuthenticated w.sides [] w := .inl ⟨rfl, fun _ => rfl⟩

theorem OnlyShows.reAuthenticated {p : App Unit} (h : OnlyShows p) (w : World) :
    p.wp platform (fun _ tr w' => ReAuthenticated w.sides tr w') w := by
  refine Prog.wp_mono (h w) ?_
  rintro r tr _ ⟨htr, -, nav, rfl⟩
  exact (reAuthenticated_nil w).shows htr nav

/-- The provider is read from the user who is signed in. -/
theorem firstProvider_keeps (w : World) :
    UserController.firstProvider.wp platform (fun _ tr w' => tr = [] ∧ w' = w) w := by
  rw [UserController.firstProvider, authUser, Prog.wp_read_bind]
  rcases w.currentUser with _ | ⟨uid, email, verified, _ | ⟨provider, rest⟩⟩
  · exact ⟨rfl, rfl⟩
  · exact ⟨rfl, rfl⟩
  · exact ⟨rfl, rfl⟩

/-- After the sign-in the email decides what is shown. -/
theorem onlyShows_afterReset (before : Option User) : OnlyShows (do
    FullScreenLoader.stopLoading
    let user ← authUser
    if user.bind (·.email) ≠ before.bind (·.email) then
      await (.snackBar .error "Invalid re-authentication"
        "Cannot change email with a different Google account.")
      await (.getOff .profile)
    else
      await (.getOff .changeEmail)) := by
  refine onlyShows_stopLoading.bind fun _ w => Prog.wp_read_bind.mpr ?_
  split
  · exact (onlyShows_snackBar _ _ _).bind (fun _ => onlyShows_getOff _) w
  · exact onlyShows_getOff _ w

/-- The change of the email writes no more than its prompt. -/
theorem resetEmailAddress_reAuthenticated (w : World) :
    UserController.resetEmailAddress.wp platform
      (fun _ tr w' => ReAuthenticated w.sides tr w') w := by
  have hbody (w : World) : (do
      let currentUser ← authUser
      let provider ← UserController.firstProvider
      if provider ≠ "" then
        if provider = "google.com" then
          let _ ← signInWithGoogle
          FullScreenLoader.stopLoading
          let user ← authUser
          if user.bind (·.email) ≠ currentUser.bind (·.email) then
            await (.snackBar .error "Invalid re-authentication"
              "Cannot change email with a different Google account.")
            await (.getOff .profile)
          else
            await (.getOff .changeEmail)
        else if provider = "password" then
          FullScreenLoader.stopLoading
          await (.getTo .reAuthLoginFormEmailChange) : App Unit).wp platform
        (fun _ tr w' => ReAuthenticated w.sides tr w') w := by
    refine Prog.wp_read_bind.mpr (Prog.wp_bind_of (firstProvider_keeps w) ?_ ?_)
    · rintro e tr _ ⟨rfl, rfl⟩
      exact reAuthenticated_nil _
    rintro provider tr _ ⟨rfl, rfl⟩
    split
    · split
      · refine Prog.wp_bind_of (signInWithGoogle_reAuthenticated _) (fun e tr w' h => h) ?_
        intro c tr w' h
        refine Prog.wp_mono (onlyShows_afterReset _ w') ?_
        rintro r tr' _ ⟨htr, -, nav, rfl⟩
        exact h.shows htr nav
      · split
        · exact (onlyShows_stopLoading.bind fun _ => onlyShows_getTo _).reAuthenticated _
        · exact reAuthenticated_nil _
    · exact reAuthenticated_nil _
  refine wp_withLoader.mpr (Prog.wp_mono (hbody _) fun r tr w' h => ?_)
  cases r with
  | ok a => exact h.opened _ _ _
  | error e =>
    have hcatch : AllAnswered (catchEvents w' .warning e) ∧
        acceptances (catchEvents w' .warning e) = [] := by
      simp [catchEvents, allAnswered_cons, allAnswered_nil, acceptances]
    exact (h.shows hcatch _).opened _ _ _

theorem onlyShows_reportAndLeave (message : String) : OnlyShows (reportAndLeave message) :=
  (onlyShows_snackBar _ _ _).bind fun _ => onlyShows_getOff _

end Operations

end AroundMuseo
