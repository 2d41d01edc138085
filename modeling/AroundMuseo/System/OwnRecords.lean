import AroundMuseo.Core.Vetted
import AroundMuseo.Locations.Calendar
import AroundMuseo.System.Parts

/-!
# Whose records

The documents of the users are found by uid. An operation takes the uid from the session of the
moment, or from a credential that it was given itself; so whatever sign-ins, sign-outs and
deletions happen while it waits, it uses no record of anybody else.
-/

namespace AroundMuseo

open Async Firestore

/-- The uids that an answer vouches for: the account of a credential, or an id that was made up
because nobody is signed in. -/
def vouched : (c : Call) → Except Exn (Reply c) → Set String
  | .signInWithCredential _, .ok v | .signInWithEmailAndPassword _ _, .ok v
  | .createUserWithEmailAndPassword _ _, .ok v => {v.user.uid}
  | .autoId .users, .ok id => {id}
  | _, _ => ∅

/-- The record is that of the signed-in user, or of an account that was vouched for. -/
def OwnRecord (known : Set String) (w : World) (id : String) : Prop :=
  (∃ user, w.currentUser = some user ∧ user.uid = id) ∨ id ∈ known

/-- How an operation may use the records of the users: its own ones by their uid, and the others
only by a search for an email. -/
def RecordAccess (known : Set String) (w : World) : Call → Prop
  | .get .users id | .set .users id _ | .setMerge .users id _ | .update .users id _
  | .delete .users id => OwnRecord known w id
  | .whereEq .users field _ => field = "Email"
  | .add .users _ | .getAll .users | .whereEqLimit .users _ _ _ => False
  | _ => True

/-- The program uses own records only. -/
abbrev UsesOwn {α : Type} (p : App α) : Prop :=
  p.Safe overlapping (fun ev => vouched ev.call ev.reply) RecordAccess

/-- The program uses own records only, knowing some uids, and ends in `Q`. -/
abbrev UsesOwnThen {α : Type} (p : App α) (Q : Except Exn α → Set String → World → Prop) :
    Set String → World → Prop :=
  p.Vetted overlapping (fun ev => vouched ev.call ev.reply) RecordAccess Q

section Parts

variable {known : Set String} {w : World}

theorem recordAccess_of_not_onUsers {c : Call} (hc : c.onUsers = false) :
    RecordAccess known w c := by
  cases c with
  | get n | set n | setMerge n | update n | delete n | add n | getAll n | whereEq n
  | whereEqLimit n => cases n <;> trivial
  | _ => trivial

/-- Who knows more uids may use more records. -/
theorem recordAccess_mono {known known' : Set String} {w : World} {c : Call}
    (h : known ⊆ known') (hc : RecordAccess known w c) : RecordAccess known' w c := by
  by_cases hon : c.onUsers = false
  · exact recordAccess_of_not_onUsers hon
  cases c with
  | get n | set n | setMerge n | update n | delete n =>
    cases n with
    | users => exact hc.imp_right fun hid => h hid
    | _ => trivial
  | add n | getAll n | whereEq n | whereEqLimit n => cases n <;> exact hc
  | _ => trivial

/-- Using own records only follows the structure. -/
theorem closed_usesOwn : Prog.Closed fun {α} (p : App α) => UsesOwn p :=
  Prog.closed_safe overlapping _ RecordAccess

/-- A call that does not touch the users uses no record. -/
theorem usesOwn_call {c : Call} (hc : c.onUsers = false) : UsesOwn (await c) :=
  Prog.safe_invoke fun _ _ => recordAccess_of_not_onUsers hc

theorem usesOwn_notice (c : Call) (hc : c.isNotice = true) : UsesOwn (await c) := by
  apply usesOwn_call
  cases c <;> first | rfl | cases hc

/-- The id of the document of the signed-in user, or of nobody. -/
theorem usesOwn_docRef_bind {α : Type} {f : String → App α}
    {Q : Except Exn α → Set String → World → Prop}
    (hf : ∀ id known, OwnRecord known w id → UsesOwnThen (f id) Q known w) :
    UsesOwnThen (docRef .users (w.currentUser.map (·.uid)) >>= f) Q known w := by
  cases huser : w.currentUser with
  | some user => exact hf user.uid known (.inl ⟨user, huser, rfl⟩)
  | none =>
    refine Prog.vetted_bind (Prog.vetted_invoke_sync rfl (recordAccess_of_not_onUsers rfl) ?_)
    intro id w' heffect
    obtain ⟨-, hw⟩ := Option.ite_none_left_eq_some.mp heffect
    cases hw
    exact hf id _ (.inr (.inr rfl))

/-- A field is written to the record of the user who is signed in. -/
theorem usesOwn_updateSingleField (json : Doc) :
    UsesOwn (UserRepository.updateSingleField json) := by
  apply closed_usesOwn.handle
  · intro known w
    refine Prog.vetted_read_bind.mpr (usesOwn_docRef_bind ?_)
    intro id known hid
    exact Prog.vetted_invoke hid fun _ _ _ _ _ => trivial
  · exact fun _ => closed_usesOwn.done _

/-- The record that is fetched is that of the user who is signed in. -/
theorem usesOwn_fetchUserDetails : UsesOwn UserRepository.fetchUserDetails := by
  apply closed_usesOwn.handle
  · intro known w
    refine Prog.vetted_read_bind.mpr (usesOwn_docRef_bind ?_)
    intro id known hid
    apply Prog.vetted_bind
    refine Prog.vetted_invoke hid ?_
    rintro (e | data) w₁ w₂ - w₃
    · trivial
    · have hdecode (decode : DateTime → DateTime → DateTime → App UserModel)
          (h : ∀ createdNow updatedNow activeNow,
            UsesOwn (decode createdNow updatedNow activeNow)) :
          UsesOwn (do
            let createdNow ← await .now
            let updatedNow ← await .now
            let activeNow ← await .now
            decode createdNow updatedNow activeNow) := by
        refine closed_usesOwn.bind (usesOwn_call rfl) fun _ => ?_
        refine closed_usesOwn.bind (usesOwn_call rfl) fun _ => ?_
        exact closed_usesOwn.bind (usesOwn_call rfl) fun _ => h _ _ _
      cases data <;> exact hdecode _ (fun _ _ _ => closed_usesOwn.done _) _ _
  · exact fun _ => closed_usesOwn.done _

theorem usesOwn_screenRedirect : UsesOwn AuthenticationRepository.screenRedirect := by
  intro known w
  rw [AuthenticationRepository.screenRedirect]
  refine Prog.vetted_read_bind.mpr ?_
  cases huser : w.currentUser with
  | none =>
    have hrest : UsesOwn (do
        Prog.modify (·.writeIfNull "isFirstTime" (.bool true))
        let isFirstTime ← Prog.read (·.deviceStorage.lookup "isFirstTime")
        if isFirstTime ≠ some (.bool true) then
          await (.getOffAll .login)
        else
          await (.getOffAll .onBoarding)) := by
      refine closed_usesOwn.bind (Prog.safe_modify _) fun _ => ?_
      refine closed_usesOwn.bind (closed_usesOwn.read _) fun isFirstTime => ?_
      split <;> exact usesOwn_call rfl
    exact hrest known w
  | some user =>
    have hrest : UsesOwn (if user.emailVerified then await (.getOffAll .navigationMenu) else do
        let current ← authUser
        await (.getOffAll (.verifyEmail (current.bind (·.email))))) := by
      split
      · exact usesOwn_call rfl
      · exact closed_usesOwn.bind (closed_usesOwn.read _) fun _ => usesOwn_call rfl
    apply Prog.vetted_bind
    apply Prog.vetted_andThen
    -- the clock and the write answer at once, so the session is still the same
    have hactive : UsesOwnThen (AuthenticationRepository.updateLastActive user.uid)
        (fun _ _ _ => True) known w := by
      unfold AuthenticationRepository.updateLastActive
      split
      · apply Prog.vetted_handle
        refine Prog.vetted_bind (Prog.vetted_invoke_sync rfl trivial ?_)
        intro now w' heffect
        cases heffect
        have hown : OwnRecord (known ∪ ∅) w user.uid := .inl ⟨user, huser, rfl⟩
        refine Prog.vetted_invoke hown ?_
        rintro (e | v) - - - - <;> trivial
      · trivial
    refine Prog.vetted_mono hactive ?_
    exact fun _ known' w' _ => hrest known' w'

/-- The email is compared with the record of the account that the password opens. -/
theorem usesOwn_loginWithEmailAndPassword (email password : String) :
    UsesOwn (AuthenticationRepository.loginWithEmailAndPassword email password) := by
  apply closed_usesOwn.handle
  · intro known w
    apply Prog.vetted_bind
    refine Prog.vetted_invoke trivial ?_
    rintro (e | userCredential) w₁ w₂ - w₃
    · trivial
    · have hknown : userCredential.user.uid ∈ known ∪ {userCredential.user.uid} := .inr rfl
      apply Prog.vetted_bind
      apply Prog.vetted_handle
      apply Prog.vetted_bind
      refine Prog.vetted_invoke (.inr hknown) ?_
      rintro (e | userDoc) - - - w₄
      · trivial
      · dsimp only
        cases snapshotEmail : AuthenticationRepository.snapshotEmail userDoc with
        | error e => trivial
        | ok firestoreEmail =>
          show UsesOwnThen (if firestoreEmail ≠ some email then _ else _) _ _ _
          split
          · refine Prog.vetted_invoke (.inr (.inl hknown)) ?_
            rintro (e | v) - - - - <;> trivial
          · trivial
  · exact fun _ => closed_usesOwn.done _

/-- The profile is merged into the record of the account of the credential. -/
theorem usesOwn_signInWithGoogle : UsesOwn AuthenticationRepository.signInWithGoogle := by
  apply closed_usesOwn.handle
  · refine closed_usesOwn.bind (usesOwn_call rfl) fun _ => ?_
    refine closed_usesOwn.bind (usesOwn_call rfl) fun account => ?_
    cases account with
    | none => exact closed_usesOwn.done _
    | some account =>
      refine closed_usesOwn.bind (usesOwn_call rfl) fun googleAuth => ?_
      intro known w
      apply Prog.vetted_bind
      refine Prog.vetted_invoke trivial ?_
      rintro (e | userCredential) w₁ w₂ - w₃
      · trivial
      · refine Prog.vetted_bind (Prog.vetted_invoke_sync rfl trivial ?_)
        intro now w₄ _
        have hown : OwnRecord (known ∪ {userCredential.user.uid} ∪ ∅) w₄ userCredential.user.uid :=
          .inr (.inl (.inr rfl))
        refine Prog.vetted_bind (Prog.vetted_invoke hown ?_)
        rintro (e | v) - - - - <;> trivial
  · intro e
    split <;> exact closed_usesOwn.done _

/-- An email is looked up by a search. -/
theorem usesOwn_isRegisteredEmail (email : Option String) :
    UsesOwn (AuthenticationRepository.isRegisteredEmail email) := by
  cases email with
  | none => exact closed_usesOwn.done _
  | some email =>
    apply closed_usesOwn.handle
    · exact closed_usesOwn.bind (Prog.safe_invoke fun _ _ => rfl) fun _ => closed_usesOwn.done _
    · exact fun _ => closed_usesOwn.done _

/-- The record that is deleted is that of the user who is signed in. -/
theorem usesOwn_deleteAccount : UsesOwn AuthenticationRepository.deleteAccount := by
  apply closed_usesOwn.handle
  · intro known w
    refine Prog.vetted_read_bind.mpr ?_
    cases huser : w.currentUser with
    | none => trivial
    | some user =>
      have hdelete : UsesOwn AuthenticationRepository.deleteCurrentUser := by
        apply closed_usesOwn.bind (closed_usesOwn.read _)
        intro user
        cases user with
        | none => exact closed_usesOwn.done _
        | some user => exact usesOwn_call rfl
      have hown : OwnRecord known w user.uid := .inl ⟨user, huser, rfl⟩
      apply Prog.vetted_bind
      apply Prog.vetted_handle
      refine Prog.vetted_invoke hown ?_
      rintro (e | v) - - - w₃
      · trivial
      · exact hdelete _ w₃
  · exact fun _ => closed_usesOwn.done _

/-- The record that is stored is that of the new account. -/
theorem usesOwn_signup (form : SignupForm) : UsesOwn (SignupController.signup form) := by
  have hclose : UsesOwn FullScreenLoader.stopLoading :=
    closed_stopLoading closed_usesOwn.toSequential usesOwn_notice
  apply closed_withLoader closed_usesOwn.toSequential usesOwn_notice (by decide)
  apply closed_whenConnected closed_usesOwn.toSequential usesOwn_notice
  apply closed_whenValid closed_usesOwn.toSequential usesOwn_notice
  split
  · intro known w
    apply Prog.vetted_bind
    apply Prog.vetted_handle
    refine Prog.vetted_invoke trivial ?_
    rintro (e | userCredential) w₁ w₂ - w₃
    · trivial
    · have hown (w : World) : OwnRecord (known ∪ {userCredential.user.uid} ∪ ∅ ∪ ∅ ∪ ∅) w
          (SignupController.newUser form userCredential).id := .inr (.inl (.inl (.inl (.inr rfl))))
      have hsave : UsesOwnThen (UserRepository.saveUserRecord
          (SignupController.newUser form userCredential)) (fun _ _ _ => True)
          (known ∪ {userCredential.user.uid}) w₃ := by
        apply Prog.vetted_handle
        refine Prog.vetted_bind (Prog.vetted_invoke_sync rfl trivial fun _ w₄ _ => ?_)
        refine Prog.vetted_bind (Prog.vetted_invoke_sync rfl trivial fun _ w₅ _ => ?_)
        refine Prog.vetted_bind (Prog.vetted_invoke_sync rfl trivial fun _ w₆ _ => ?_)
        refine Prog.vetted_invoke (hown w₆) ?_
        rintro (e | v) - - - - <;> trivial
      have hrest : UsesOwn (do
          FullScreenLoader.stopLoading
          await (.snackBar .success "Congratulations!"
            "Your account has been created. Verify email to continue.")
          await (.getTo (.verifyEmail (some (Dart.trim form.email))))) := by
        refine closed_usesOwn.bind hclose fun _ => ?_
        exact closed_usesOwn.bind (usesOwn_call rfl) fun _ => usesOwn_call rfl
      apply Prog.vetted_bind
      refine Prog.vetted_mono hsave ?_
      rintro (e | v) known' w' -
      · trivial
      · exact hrest known' w'
  · exact closed_usesOwn.bind (usesOwn_call rfl) fun _ => hclose

theorem partsUseOwn : PartsHave fun {α} (p : App α) => UsesOwn p where
  closed := closed_usesOwn.toSequential
  call _ hc := usesOwn_call (Bool.or_eq_false_iff.mp hc).2
  read := readsHave_of_closed closed_usesOwn
  update u _ _ := Prog.safe_modify u
  screenRedirect := usesOwn_screenRedirect
  signup _ := usesOwn_signup
  signInWithGoogle := usesOwn_signInWithGoogle
  isRegisteredEmail := usesOwn_isRegisteredEmail
  deleteAccount := usesOwn_deleteAccount
  updateSingleField json _ := usesOwn_updateSingleField json

theorem usesOwn_fetchUserRecord : UsesOwn UserController.fetchUserRecord := by
  apply closed_fetchUserRecord partsUseOwn.closed usesOwn_fetchUserDetails (usesOwn_call rfl)
  · exact fun b => Prog.safe_modify _
  · exact fun f => Prog.safe_modify _

/-- Every operation uses own records only. -/
theorem AppOperation.usesOwn (intl : Intl) (repository : LocationRepository) (op : AppOperation) :
    UsesOwn (op.body intl repository) := by
  have hcall (c : Call) (hc : c.isSpecial = false) : UsesOwn (await c) :=
    usesOwn_call (Bool.or_eq_false_iff.mp hc).2
  have hload (c : Call) (hc : c.loads = true) : UsesOwn (await c) :=
    usesOwn_call (onUsers_of_loads hc)
  have hK := partsUseOwn.closed
  have hmodify (f : LocationControllerState → LocationControllerState) :
      UsesOwn (LocationController.modifyState f) := Prog.safe_modify _
  refine partsUseOwn.body ?_ (fun _ => usesOwn_call rfl) fun _ _ _ => usesOwn_call rfl
  intro hspecial
  cases op with
  | emailAndPasswordSignIn form =>
    exact closed_emailAndPasswordSignIn hK usesOwn_notice (Prog.safe_modify _)
      usesOwn_loginWithEmailAndPassword usesOwn_screenRedirect
  | fetchUserRecord => exact usesOwn_fetchUserRecord
  | uploadUserProfilePicture =>
    apply closed_uploadUserProfilePicture hK hcall fun _ _ => usesOwn_call rfl
    · exact fun json _ => usesOwn_updateSingleField json
    · exact fun b => Prog.safe_modify _
    · exact fun f => Prog.safe_modify _
  | fetchLocationCategory =>
    exact closed_fetchLocationCategory hK hload fun f => Prog.safe_modify _
  | fetchLocations op =>
    exact closed_fetchLocations hK hload (fun _ => closed_usesOwn.read _) hmodify intl op
  | fetchAllLocations =>
    exact closed_fetchAllLocations hK hload (fun _ => closed_usesOwn.read _) hmodify intl
  | fetchUserFavorites =>
    apply closed_fetchUserFavorites hK hload
    · exact fun _ => hmodify _
    · exact fun _ => hmodify _
    · exact hmodify _
  | toggleFavorite locationId =>
    apply closed_toggleFavorite hK (usesOwn_call rfl) (closed_usesOwn.read _)
    · exact fun _ _ => usesOwn_call rfl
    · exact fun _ => hmodify _
    · exact hmodify _
  | onDetect barcodes =>
    refine partsUseOwn.onDetect ?_ barcodes
    apply closed_logMuseumVisit hK hcall partsUseOwn.read usesOwn_fetchUserRecord
    · exact fun _ => usesOwn_call rfl
    · exact fun _ => Prog.safe_modify _
  | updateMuseumVisitTimeOut =>
    apply closed_updateMuseumVisitTimeOut hK hcall partsUseOwn.read
    exact fun _ _ => usesOwn_call rfl
  | _ => cases hspecial

end Parts

/-- In every interleaving an operation uses the records of the users only by a search for an email,
or by the uid of the user who is signed in at that moment, or by a uid that an answer to the same
operation has vouched for before. -/
theorem own_records {intl : Intl} {repository : LocationRepository} {w₀ : World}
    {ms pre post : NamedHistory (Nat × AppOperation)} {c : NamedPool (Nat × AppOperation)}
    {m : Moment (NamedReply (Nat × AppOperation) Reply) World Exn}
    (hrun : Pool.Run (namedPlatform (Nat × AppOperation))
      (namedBody fun i => i.2.body intl repository) ⟨w₀, []⟩ ms c)
    (hms : ms = pre ++ m :: post) (hm : m.Requests (namedPlatform (Nat × AppOperation))) :
    RecordAccess { uid | ∃ ev ∈ answers pre, ev.call.1 = m.call.1 ∧
      uid ∈ vouched ev.call.2 ev.reply } m.state m.call.2 := by
  have hmono : ∀ (known known' : Set String) (w : World) (c : (Nat × AppOperation) × Call),
      known ⊆ known' → RecordAccess known w c.2 → RecordAccess known' w c.2 :=
    fun _ _ _ _ h => recordAccess_mono h
  have hnamed (i : Nat × AppOperation) : (namedBody (fun i : Nat × AppOperation =>
      i.2.body intl repository) i).Confined (fun c => c.1 = i) fun _ => () :=
    Prog.confined_named _ i
  exact hrun.vetted hmono hnamed (fun i =>
    Prog.safe_named (fun _ => RecordAccess) i (i.2.usesOwn intl repository)) pre m post hms hm

/-- The call merges fields into a record. -/
def Call.mergesRecord (id : String) : Call → Bool
  | .setMerge .users id' _ => id' = id
  | _ => false

/-- A record is merged into only by its own account. -/
theorem ownRecord_of_merges {known : Set String} {w : World} {c : Call} {id : String}
    (hc : c.mergesRecord id = true) (h : RecordAccess known w c) : OwnRecord known w id := by
  cases c with
  | setMerge n id' d =>
    cases n with
    | users =>
      cases of_decide_eq_true hc
      exact h
    | _ => cases hc
  | _ => cases hc

/-- The user logs out while a Google sign-in is under way. Its credential still vouches for the
record that it writes then. -/
theorem own_records_googleSignIn : ∃ (pre : NamedHistory (Nat × AppOperation))
    (s : World) (call : (Nat × AppOperation) × Call) (c : NamedPool (Nat × AppOperation)),
    Pool.Run (namedPlatform (Nat × AppOperation)) (namedBody fun i => i.2.body Intl.utc ⟨none⟩)
      ⟨World.withUsers [], []⟩ (pre ++ [.issued s call]) c ∧
    call.2.mergesRecord "g" = true ∧ s.currentUser = none ∧
    ∃ ev ∈ answers pre, ev.call.1 = call.1 ∧ "g" ∈ vouched ev.call.2 ev.reply := by
  obtain ⟨ms, c, hrun, hq⟩ := named_pool_run
    (fun i : Nat × AppOperation => i.2.body Intl.utc ⟨none⟩) (World.withUsers [])
    (choosing ⟨"g", "g@x", none, none⟩)
    [.start (0, .googleSignIn), .go 0, .go 0, .go 0, .go 0, .go 0, .go 0, .go 0, .go 0, .go 0,
      .start (1, .logout), .go 1, .go 1, .go 1, .go 0]
    (fun out => out.1.getLast?.any fun m =>
      (answers [m]).isEmpty && (m.call.2.mergesRecord "g" && m.state.currentUser.isNone))
    (by decide +kernel)
  obtain ⟨m, hlast, hm⟩ := (Option.any_eq_true _ _).mp hq
  cases m with
  | answered ev => cases hm
  | issued s call =>
    obtain ⟨pre, rfl⟩ := List.getLast?_eq_some_iff.mp hlast
    obtain ⟨-, hm⟩ := Bool.and_eq_true_iff.mp hm
    obtain ⟨hmerges, hnobody⟩ := Bool.and_eq_true_iff.mp hm
    have hnobody : s.currentUser = none := Option.isNone_iff_eq_none.mp hnobody
    refine ⟨pre, s, call, c, hrun, hmerges, hnobody, ?_⟩
    rcases ownRecord_of_merges hmerges (own_records hrun rfl trivial) with ⟨user, huser, -⟩ | hknown
    · have huser : s.currentUser = some user := huser
      rw [hnobody] at huser
      cases huser
    · exact hknown

end AroundMuseo
