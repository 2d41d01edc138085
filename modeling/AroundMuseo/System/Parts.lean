import AroundMuseo.System.Operations

/-!
# The functions with a spinner

The functions that load something show a spinner meanwhile. What follows the structure of a
program holds of them if it holds of the updates of their controllers.
-/

namespace AroundMuseo

open Async Firestore

/-- A location without the details that the controller fills in. -/
def LocationModel.bare (l : LocationModel) : LocationModel :=
  { l with
    categoryName := ""
    subCategoryName := ""
    isOpen := false
    openTimes := ""
    closeTimes := "" }

/-- What is stored and what is shown of it: the services, the lists of locations and of categories,
and the id of the last visit. -/
def World.content (w : World) := (w.services, w.locationController.lists,
  w.locationController.nextLocation, w.locationCategoryController.allLocationCategories,
  w.locationCategoryController.featuredCategories, w.qrCodeController.documentId)

/-- What is stored, on the device and elsewhere. -/
def World.kept (w : World) := (w.deviceStorage, w.services)

section Functions

variable {K : {α : Type} → App α → Prop} (hK : Prog.Sequential @K)

include hK

section Profile

/-- Fetching the record reads it and shows it. -/
theorem closed_fetchUserRecord (hfetch : K UserRepository.fetchUserDetails) (hnow : K (await .now))
    (hset : ∀ b, K (UserController.setProfileLoading b))
    (hmodify : ∀ f, K (UserController.modifyUser f)) : K UserController.fetchUserRecord := by
  apply hK.ensure
  · apply hK.handle
    · exact hK.bind (hset true) fun _ => hK.bind hfetch fun user => hmodify _
    · intro e
      refine hK.bind hnow fun _ => hK.bind hnow fun _ => hK.bind hnow fun _ => ?_
      exact hmodify _
  · exact hset false

variable (hcall : ∀ c : Call, c.isSpecial = false → K (await c))

include hcall

/-- The upload writes one field of the record and reports it. -/
theorem closed_uploadUserProfilePicture (hsuccess : SuccessHas @K)
    (hupdate : ∀ json, ProfileUpdate json → K (UserRepository.updateSingleField json))
    (hset : ∀ b, K (UserController.setImageUploading b))
    (hmodify : ∀ f, K (UserController.modifyUser f)) :
    K UserController.uploadUserProfilePicture := by
  have hupload (path : String) (image : XFile) : K (UserRepository.uploadImage path image) :=
    hK.handle (hK.bind (hcall _ rfl) fun _ => hcall _ rfl) fun _ => hK.done _
  apply hK.ensure
  · apply hK.handle
    · apply hK.bind (hcall _ rfl)
      intro source
      cases source with
      | none => exact hK.done _
      | some source =>
        apply hK.bind (hcall _ rfl)
        intro image
        cases image with
        | none => exact hK.done _
        | some image =>
          refine hK.bind (hset true) fun _ => hK.bind (hupload _ _) fun imageUrl => ?_
          refine hK.bind (hupdate _ (.picture _)) fun _ => hK.bind (hmodify _) fun _ => ?_
          exact hsuccess _ _
    · intro e
      exact hK.bind (hK.bind (hcall _ rfl) fun _ => hK.done _) fun _ => hcall _ rfl
  · exact hset false

end Profile

section Catalogue

variable (hcall : ∀ c : Call, c.loads = true → K (await c))

include hcall

theorem closed_fetchLocationCategory
    (hmodify : ∀ f, K (LocationCategoryController.modifyState f)) :
    K LocationCategoryController.fetchLocationCategory := by
  apply hK.ensure
  · apply hK.handle
    · refine hK.bind (hmodify _) fun _ => hK.bind ?_ fun _ => hK.bind (hmodify _) fun _ => hmodify _
      exact hK.handle (hK.bind (hcall _ rfl) fun _ => hK.done _) fun _ => hK.done _
    · exact fun _ => hcall _ rfl
  · exact hmodify _

/-- The documents are read and decoded. -/
theorem closed_getLocations {c : Call} (hc : c.loads = true)
    {f : Reply c → Except Exn (List LocationModel)} :
    K (LocationRepository.rethrowing (do
      let docs ← await c
      liftExcept (f docs))) :=
  hK.handle (hK.bind (hcall _ hc) fun _ => hK.done _) fun _ => hK.done _

/-- The details change a location but not what is stored of it. -/
theorem closed_setLocationDetails (hmodify : ∀ k f, (∀ l, LocationModel.bare (f l) = l.bare) →
      K (LocationController.modifyLocation k f)) (intl : Intl) (location : Nat × LocationModel) :
    K (LocationController.setLocationDetails intl location) := by
  have hname (id : String) : K (LocationRepository.getCategoryNameById id) := by
    obtain ⟨r, hdoc⟩ := exists_doc_eq id
    apply hK.handle
    · rw [hdoc]
      apply hK.bind (hK.done r)
      intro id
      apply hK.bind (hcall _ rfl)
      intro data
      cases data <;> exact hK.done _
    · exact fun _ => hK.done _
  have hcategory : K (LocationController.setLocationCategory location) := by
    refine hK.bind (hname _) fun _ => hK.bind (hname _) fun _ => ?_
    exact hK.bind (hmodify _ _ fun _ => rfl) fun _ => hmodify _ _ fun _ => rfl
  have hcompute {α : Type} {compute : DateTime → Except Exn α} {rest : α → App Unit}
      (hrest : ∀ a, K (rest a)) : K (do
        let now ← await .now
        let a ← liftExcept (compute now)
        rest a) :=
    hK.bind (hcall _ rfl) fun _ => hK.bind (hK.done _) hrest
  refine hK.bind hcategory fun _ => hcompute fun _ => hK.bind (hmodify _ _ fun _ => rfl) fun _ => ?_
  refine hcompute fun _ => hK.bind (hmodify _ _ fun _ => rfl) fun _ => ?_
  exact hcompute fun _ => hmodify _ _ fun _ => rfl

/-- The body of a fetch between its two updates of the flag. -/
theorem closed_loading (hflag : ∀ b, K (LocationController.setIsLoading b)) {p : App Unit}
    (hp : K p) :
    K (Prog.ensure
      (tryCatch (do
          LocationController.setIsLoading true
          p)
        fun e => await (.snackBar .error "Oh Snap!" e.toText))
      (LocationController.setIsLoading false)) := by
  apply hK.ensure
  · exact hK.handle (hK.bind (hflag _) fun _ => hp) fun _ => hcall _ rfl
  · exact hflag _

/-- The favourites change the flag, the ids and what is shown of them. -/
theorem closed_fetchUserFavorites (hflag : ∀ b, K (LocationController.setIsLoading b))
    (hids : ∀ f : Finset String → Finset String, K (LocationController.modifyState fun s =>
      { s with favoriteLocationIds := f s.favoriteLocationIds }))
    (hshow : K (LocationController.modifyState (·.showFavorites)))
    (repository : LocationRepository) : K (LocationController.fetchUserFavorites repository) := by
  apply closed_loading hK hcall hflag
  apply hK.bind
  · apply hK.handle
    · apply hK.bind
      · cases repository.userId with
        | none => exact hcall _ rfl
        | some uid => exact hK.done _
      · intro id
        apply hK.bind (hcall _ rfl)
        intro data
        cases data with
        | none => exact hK.done _
        | some data => exact hK.bind (hK.done _) fun _ => hK.done _
    · exact fun _ => hK.done _
  · intro userFavorites
    cases userFavorites with
    | none => exact hK.done _
    | some userFavorites => exact hK.bind (hids fun _ => _) fun _ => hshow

variable (hread : ∀ {α : Type} (f : LocationControllerState → α),
    K (Prog.read fun w => f w.locationController))

include hread

omit hcall in
/-- The loop, by induction on the elements that are left. -/
theorem closed_forEach {action : Nat × LocationModel → App Unit} (haction : ∀ l, K (action l))
    (list : LocationList) : K (LocationController.forEach list action) := by
  have hlength : K (Prog.read fun w => (w.locationController.lists list).length) :=
    hread fun s => (s.lists list).length
  have hfrom (length remaining : Nat) :
      K (LocationController.forEachFrom list action length remaining) := by
    induction remaining with
    | zero =>
      apply hK.bind hlength
      intro now
      split <;> exact hK.done _
    | succ remaining ih =>
      apply hK.bind (hread (·.lists list))
      intro locations
      split
      · exact hK.done _
      · split
        · exact hK.bind (haction _) fun _ => ih
        · exact hK.done _
  exact hK.bind hlength fun length => hfrom length length

variable (hmodify : ∀ f, K (LocationController.modifyState f))

include hmodify

theorem closed_fetchLocations (intl : Intl) (op : LocationFetch) : K (op.body intl) := by
  have hcategory (list : LocationList) (id : String) {last : App Unit} (hlast : K last) :
      K (LocationController.fetchCategory intl list id last) := by
    apply closed_loading hK hcall fun _ => hmodify _
    refine hK.bind (closed_getLocations hK hcall rfl) fun _ => hK.bind (hmodify _) fun _ => ?_
    refine hK.bind (closed_forEach hK hread ?_ _) fun _ => hlast
    exact closed_setLocationDetails hK hcall (fun _ _ _ => hmodify _) intl
  cases op with
  | fetchDining => exact hcategory _ _ (hK.done _)
  | fetchTouristSpots | fetchAccommodations | fetchShopping => exact hcategory _ _ (hmodify _)

theorem closed_fetchAllLocations (intl : Intl) : K (LocationController.fetchAllLocations intl) := by
  apply closed_loading hK hcall fun _ => hmodify _
  refine hK.bind (closed_getLocations hK hcall rfl) fun _ => hK.bind (hmodify _) fun _ => ?_
  have hdetails := closed_setLocationDetails hK hcall (fun _ _ _ => hmodify _) intl
  refine hK.bind (closed_forEach hK hread hdetails _) fun _ => ?_
  refine hK.bind (hmodify _) fun _ => hK.bind (hmodify _) fun _ => ?_
  exact hK.bind (hmodify _) fun _ => hmodify _

end Catalogue

/-- The favourites of the moment decide which transaction runs. -/
theorem closed_toggleFavorite (hautoId : K (await (.autoId .userFavorites)))
    (hread : K (Prog.read (·.locationController.favoriteLocationIds)))
    (hrun : ∀ id tx, K (await (.runTransaction id tx)))
    (hids : ∀ f : Finset String → Finset String, K (LocationController.modifyState fun s =>
      { s with favoriteLocationIds := f s.favoriteLocationIds }))
    (hshow : K (LocationController.modifyState (·.showFavorites)))
    (repository : LocationRepository) (locationId : String) :
      K (LocationController.toggleFavorite repository locationId) := by
  have htransact (tx : FavoritesTransaction) : K (do
      let userFavoritesRef ← docRef .userFavorites repository.userId
      await (.runTransaction userFavoritesRef tx)) := by
    refine hK.bind ?_ fun _ => hrun _ _
    cases repository.userId with
    | none => exact hautoId
    | some uid => exact hK.done _
  apply hK.bind hread
  intro favoriteLocationIds
  split
  · exact hK.bind (hids (·.erase locationId)) fun _ => hK.bind (htransact _) fun _ => hshow
  · exact hK.bind (hids (insert locationId)) fun _ => hK.bind (htransact _) fun _ => hshow

section Visits

variable (hcall : ∀ c : Call, c.isSpecial = false → K (await c))

include hcall

/-- A visit is added to the logbook, and its id is kept. -/
theorem closed_logMuseumVisit (hread : ReadsHave @K) (hfetch : K UserController.fetchUserRecord)
    (hadd : ∀ d, K (await (.add .museumLogbook d)))
    (hset : ∀ id, K (QRCodeController.setDocumentId id)) : K QRCodeController.logMuseumVisit := by
  apply hK.handle
  · refine hK.bind hfetch fun _ => hK.bind (hread _ fun _ _ => rfl) fun user => ?_
    refine hK.bind (hcall _ rfl) fun now => hK.bind ?_ fun _ => hset _
    exact hK.handle (hadd _) fun _ => hK.done _
  · exact fun _ => hcall _ rfl

/-- The end of a visit is written to its entry. -/
theorem closed_updateMuseumVisitTimeOut (hread : ReadsHave @K)
    (hupdate : ∀ id d, K (await (.update .museumLogbook id d))) :
    K QRCodeController.updateMuseumVisitTimeOut := by
  apply hK.handle
  · refine hK.bind (hcall _ rfl) fun timeOut => hK.bind (hread _ fun _ _ => rfl) fun id => ?_
    exact hK.handle (hupdate _ _) fun _ => hK.done _
  · exact fun _ => hcall _ rfl

end Visits

/-- The form is remembered before the sign-in. -/
theorem closed_emailAndPasswordSignIn (hnotice : ∀ c : Call, c.isNotice = true → K (await c))
    {form : LoginForm} (hremember : K (Prog.modify (LoginController.rememberLogin form)))
    (hlogin : ∀ email password,
      K (AuthenticationRepository.loginWithEmailAndPassword email password))
    (hredirect : K AuthenticationRepository.screenRedirect) :
    K (LoginController.emailAndPasswordSignIn form) := by
  apply closed_withLoader hK hnotice (by decide)
  apply closed_whenConnected hK hnotice
  apply closed_whenValid hK hnotice
  refine hK.bind hremember fun _ => hK.bind (hlogin _ _) fun _ => ?_
  exact hK.bind (closed_stopLoading hK hnotice) fun _ => hK.unawaited hredirect

/-- The last activity is written to the record. -/
theorem closed_updateLastActive (hnow : K (await .now))
    (hupdate : ∀ uid json, ProfileUpdate json → K (await (.update .users uid json)))
    (uid : String) :
    K (AuthenticationRepository.updateLastActive uid) := by
  unfold AuthenticationRepository.updateLastActive
  split
  · exact hK.handle (hK.bind hnow fun _ => hupdate _ _ (.lastActive _)) fun _ => hK.done _
  · exact hK.done _

/-- The redirection notes the activity and opens one of four screens. -/
theorem closed_screenRedirect (hread : ReadsHave @K)
    (hactive : ∀ uid, K (AuthenticationRepository.updateLastActive uid))
    (hgo : ∀ screen, screen ≠ .onBoarding → K (await (.getOffAll screen)))
    (hwrite : K (Prog.modify (·.writeIfNull "isFirstTime" (.bool true))))
    (hopen : K (await (.getOffAll .onBoarding))) : K AuthenticationRepository.screenRedirect := by
  apply hK.bind (hread _ fun _ _ => rfl)
  intro user
  cases user with
  | some user =>
    apply hK.bind (hK.unawaited (hactive _))
    intro _
    split
    · exact hgo _ nofun
    · exact hK.bind (hread _ fun _ _ => rfl) fun _ => hgo _ nofun
  | none =>
    refine hK.bind hwrite fun _ => hK.bind (hread _ fun _ _ => rfl) fun _ => ?_
    split
    · exact hgo _ nofun
    · exact hopen

/-- The email of the record is read and, if need be, written. -/
theorem closed_updateFirestoreEmailIfNeeded (hget : ∀ uid, K (await (.get .users uid)))
    (hupdate : ∀ uid json, ProfileUpdate json → K (await (.update .users uid json)))
    (uid authEmail : String) :
    K (AuthenticationRepository.updateFirestoreEmailIfNeeded uid authEmail) := by
  apply hK.handle
  · refine hK.bind (hget _) fun _ => hK.bind (hK.done _) fun _ => ?_
    split
    · exact hupdate _ _ (.email _)
    · exact hK.done _
  · exact fun _ => hK.done _

section Records

variable (hcall : ∀ c : Call, c.isReserved = false → c.RecordRight → K (await c))

include hcall

theorem closed_loginWithEmailAndPassword (email password : String) :
    K (AuthenticationRepository.loginWithEmailAndPassword email password) := by
  apply hK.handle
  · refine hK.bind (hcall _ rfl trivial) fun _ => hK.bind ?_ fun _ => hK.done _
    apply closed_updateFirestoreEmailIfNeeded hK
    · exact fun _ => hcall _ rfl trivial
    · exact fun _ _ hjson => hcall _ rfl hjson
  · exact fun _ => hK.done _

theorem closed_saveUserRecord (form : SignupForm) (userCredential : UserCredential) :
    K (UserRepository.saveUserRecord (SignupController.newUser form userCredential)) := by
  have hnow : K (await .now) := hcall _ rfl trivial
  apply hK.handle
  · refine hK.bind hnow fun _ => hK.bind hnow fun _ => hK.bind hnow fun _ => ?_
    exact hcall _ rfl ⟨form, userCredential, _, _, _, rfl, rfl⟩
  · exact fun _ => hK.done _

/-- A sign-up creates an account and stores a record. -/
theorem closed_signup (hsuccess : SuccessHas @K) (form : SignupForm) :
    K (SignupController.signup form) := by
  have hnotice (c : Call) (hc : c.isNotice = true) : K (await c) := by
    cases c with
    | snackBar kind => cases kind <;> first | exact hcall _ rfl trivial | cases hc
    | _ => first | exact hcall _ rfl trivial | cases hc
  apply closed_withLoader hK hnotice (by decide)
  apply closed_whenConnected hK hnotice
  apply closed_whenValid hK hnotice
  have hregister : K (AuthenticationRepository.registerWithEmailAndPassword
      (Dart.trim form.email) (Dart.trim form.password)) :=
    hK.handle (hcall _ rfl trivial) fun _ => hK.done _
  split
  · refine hK.bind hregister fun _ => hK.bind (closed_saveUserRecord hK hcall form _) fun _ => ?_
    refine hK.bind (closed_stopLoading hK hnotice) fun _ => ?_
    exact hK.bind (hsuccess _ _) fun _ => hcall _ rfl trivial
  · exact hK.bind (hcall _ rfl trivial) fun _ => closed_stopLoading hK hnotice

theorem closed_signInWithGoogle : K AuthenticationRepository.signInWithGoogle := by
  apply hK.handle
  · refine hK.bind (hcall _ rfl trivial) fun _ => hK.bind (hcall _ rfl trivial) fun account => ?_
    cases account with
    | none => exact hK.done _
    | some account =>
      refine hK.bind (hcall _ rfl trivial) fun _ => hK.bind (hcall _ rfl trivial) fun _ => ?_
      refine hK.bind (hcall _ rfl trivial) fun now => hK.bind ?_ fun _ => hK.done _
      exact hcall _ rfl ⟨account, now, rfl⟩
  · intro e
    split <;> exact hK.done _

theorem closed_isRegisteredEmail (email : Option String) :
    K (AuthenticationRepository.isRegisteredEmail email) := by
  cases email with
  | none => exact hK.done _
  | some email =>
    exact hK.handle (hK.bind (hcall _ rfl trivial) fun _ => hK.done _) fun _ => hK.done _

/-- The record is deleted before the account. -/
theorem closed_deleteAccount (hread : ReadsHave @K) : K AuthenticationRepository.deleteAccount := by
  apply hK.handle
  · apply hK.bind (hread _ fun _ _ => rfl)
    intro user
    cases user with
    | none => exact hK.done _
    | some user =>
      have hremove : K (UserRepository.removeUserRecord user.uid) :=
        hK.handle (hcall _ rfl trivial) fun _ => hK.done _
      apply hK.bind hremove
      intro _
      apply hK.bind (hread _ fun _ _ => rfl)
      intro user
      cases user with
      | none => exact hK.done _
      | some user => exact hcall _ rfl trivial
  · exact fun _ => hK.done _

theorem closed_userDoc (path : Option String) : K (docRef .users path) := by
  cases path with
  | none => exact hcall _ rfl trivial
  | some path => exact hK.done _

theorem closed_updateSingleField (hread : ReadsHave @K) {json : Doc} (hjson : ProfileUpdate json) :
    K (UserRepository.updateSingleField json) := by
  apply hK.handle
  · apply hK.bind (hread _ fun _ _ => rfl)
    exact fun _ => hK.bind (closed_userDoc hK hcall _) fun _ => hcall _ rfl hjson
  · exact fun _ => hK.done _

theorem closed_fetchUserDetails (hread : ReadsHave @K) : K UserRepository.fetchUserDetails := by
  have hnow : K (await .now) := hcall _ rfl trivial
  apply hK.handle
  · refine hK.bind (hread _ fun _ _ => rfl) fun user => ?_
    refine hK.bind (closed_userDoc hK hcall _) fun id => ?_
    refine hK.bind (hcall _ rfl trivial) fun data => hK.bind hnow fun _ => hK.bind hnow fun _ => ?_
    apply hK.bind hnow
    intro _
    cases data <;> exact hK.done _
  · exact fun _ => hK.done _

end Records

end Functions

variable {K : {α : Type} → App α → Prop} (hK : Prog.Closed @K)

include hK

section Body

variable
  (hcall : ∀ c : Call, (c.isFirstScreen || c.reportsSuccess) = false → c.RecordRight → K (await c))
  (hupdate : ∀ u : World → World, (∀ w, (u w).kept = w.kept) → K (Prog.modify u))
  (hredirect : K AuthenticationRepository.screenRedirect)

include hcall hupdate hredirect

/-- What all calls and updates have, the parts of the operations have. -/
theorem partsHave : PartsHave @K := by
  have hreserved (c : Call) (hc : c.isReserved = false) : c.RecordRight → K (await c) :=
    hcall c (isFirstScreen_of_not_isReserved hc)
  exact {
    closed := hK.toSequential
    call := fun c hc => hreserved c (Bool.or_eq_false_iff.mp hc).1
      (recordRight_of_not_onUsers (Bool.or_eq_false_iff.mp hc).2)
    read := readsHave_of_closed hK
    update := fun u hu _ => hupdate u fun w => congrArg (fun x => (x.2.1, x.2.2.1)) (hu w)
    screenRedirect := hredirect
    signup := fun hsuccess => closed_signup hK.toSequential hreserved hsuccess
    signInWithGoogle := closed_signInWithGoogle hK.toSequential hreserved
    isRegisteredEmail := closed_isRegisteredEmail hK.toSequential hreserved
    deleteAccount := closed_deleteAccount hK.toSequential hreserved (readsHave_of_closed hK)
    updateSingleField := fun _ =>
      closed_updateSingleField hK.toSequential hreserved (readsHave_of_closed hK) }

/-- What the calls and the updates have, every operation has, if the first screens are opened
and the login is remembered in such a way. -/
theorem closed_body {intl : Intl} {repository : LocationRepository} {op : AppOperation}
    (hsignIn : ∀ form, op = .emailAndPasswordSignIn form →
      K (LoginController.emailAndPasswordSignIn form))
    (hlogin : op.redirects = false → K (await (.getOffAll .login)))
    (hsuccess : op.reports = true → SuccessHas @K) : K (op.body intl repository) := by
  have hparts := partsHave hK hcall hupdate hredirect
  have hordinary (c : Call) (hc : c.isSpecial = false) : K (await c) := hparts.call c hc
  have hload (c : Call) (hc : c.loads = true) : K (await c) :=
    hcall c (ordinary_of_loads hc).1 (ordinary_of_loads hc).2.2
  have hmodify (f : LocationControllerState → LocationControllerState) :
      K (LocationController.modifyState f) := hupdate _ fun _ => rfl
  have hfetch : K UserController.fetchUserRecord := by
    apply closed_fetchUserRecord hK.toSequential ?_ (hcall _ rfl trivial)
    · exact fun b => hupdate _ fun _ => rfl
    · exact fun f => hupdate _ fun _ => rfl
    · apply closed_fetchUserDetails hK.toSequential _ hparts.read
      exact fun c hc => hcall c (isFirstScreen_of_not_isReserved hc)
  refine hparts.body ?_ hlogin hsuccess
  intro hspecial
  cases op with
  | emailAndPasswordSignIn form => exact hsignIn form rfl
  | fetchUserRecord => exact hfetch
  | uploadUserProfilePicture =>
    apply closed_uploadUserProfilePicture hparts.closed hordinary (hsuccess rfl)
      hparts.updateSingleField
    · exact fun b => hupdate _ fun _ => rfl
    · exact fun f => hupdate _ fun _ => rfl
  | fetchLocationCategory =>
    exact closed_fetchLocationCategory hparts.closed hload fun f => hupdate _ fun _ => rfl
  | fetchLocations op =>
    exact closed_fetchLocations hparts.closed hload (fun _ => hK.read _) hmodify intl op
  | fetchAllLocations =>
    exact closed_fetchAllLocations hparts.closed hload (fun _ => hK.read _) hmodify intl
  | fetchUserFavorites =>
    apply closed_fetchUserFavorites hparts.closed hload
    · exact fun _ => hmodify _
    · exact fun _ => hmodify _
    · exact hmodify _
  | toggleFavorite locationId =>
    apply closed_toggleFavorite hparts.closed (hcall _ rfl trivial) (hK.read _)
    · exact fun _ _ => hcall _ rfl trivial
    · exact fun _ => hmodify _
    · exact hmodify _
  | onDetect barcodes =>
    refine hparts.onDetect ?_ barcodes
    apply closed_logMuseumVisit hparts.closed hordinary hparts.read hfetch
    · exact fun d => hcall _ rfl trivial
    · exact fun id => hupdate _ fun _ => rfl
  | updateMuseumVisitTimeOut =>
    apply closed_updateMuseumVisitTimeOut hparts.closed hordinary hparts.read
    exact fun _ _ => hcall _ rfl trivial
  | _ => cases hspecial

end Body

/-- What the calls have, but for the reports of a success, every operation has. -/
theorem closed_operation
    (hcall : ∀ c : Call, c.reportsSuccess = false → c.RecordRight → K (await c))
    (hupdate : ∀ u : World → World, (∀ w, (u w).services = w.services) → K (Prog.modify u))
    {intl : Intl} {repository : LocationRepository} {op : AppOperation}
    (hsuccess : op.reports = true → SuccessHas @K) : K (op.body intl repository) := by
  have hnotice (c : Call) (hc : c.isNotice = true) : K (await c) := by
    apply hcall
    · cases c with
      | snackBar kind => cases kind <;> first | rfl | cases hc
      | _ => rfl
    · cases c <;> trivial
  have hredirect : K AuthenticationRepository.screenRedirect := by
    apply closed_screenRedirect hK.toSequential (readsHave_of_closed hK)
    · apply closed_updateLastActive hK.toSequential (hcall _ rfl trivial)
      exact fun _ _ hjson => hcall _ rfl hjson
    · exact fun _ _ => hcall _ rfl trivial
    · apply hupdate
      intro w
      unfold World.writeIfNull
      split <;> rfl
    · exact hcall _ rfl trivial
  apply closed_body hK
  · exact fun c hc => hcall c (Bool.or_eq_false_iff.mp hc).2
  · exact fun u hu => hupdate u fun w => congrArg Prod.snd (hu w)
  · exact hredirect
  · rintro form rfl
    apply closed_emailAndPasswordSignIn hK.toSequential hnotice
    · apply hupdate
      intro w
      unfold LoginController.rememberLogin
      split <;> rfl
    · apply closed_loginWithEmailAndPassword hK.toSequential
      intro c hc
      exact hcall c (Bool.or_eq_false_iff.mp (isFirstScreen_of_not_isReserved hc)).2
    · exact hredirect
  · exact fun _ => hcall _ rfl trivial
  · exact hsuccess

section Content

variable (hcall : ∀ c : Call, c.writesElsewhere = false → K (await c))
  (htransact : ∀ id tx, K (await (.runTransaction id tx)))
  (hupdate : ∀ u : World → World, (∀ w, (u w).content = w.content) → K (Prog.modify u))

include hcall htransact hupdate

/-- What the calls and the updates have, every operation has, if the catalogue is loaded and the
visits are written in such a way. -/
theorem closed_content {intl : Intl} {repository : LocationRepository} {op : AppOperation}
    (hfetch : ∀ op : LocationFetch, K (op.body intl))
    (hall : K (LocationController.fetchAllLocations intl))
    (hshow : K (LocationController.modifyState (·.showFavorites)))
    (hcategories : K LocationCategoryController.fetchLocationCategory)
    (hvisit : K UserController.fetchUserRecord → K QRCodeController.logMuseumVisit)
    (htimeOut : K QRCodeController.updateMuseumVisitTimeOut) : K (op.body intl repository) := by
  have hreserved (c : Call) (hc : c.isReserved = false) (_ : c.RecordRight) : K (await c) :=
    hcall c (writesElsewhere_of_not_isReserved hc)
  have hordinary (c : Call) (hc : c.isSpecial = false) : K (await c) :=
    hcall c (writesElsewhere_of_not_isReserved (Bool.or_eq_false_iff.mp hc).1)
  have hsuccess : SuccessHas @K := fun _ _ => hcall _ rfl
  have hnotice (c : Call) (hc : c.isNotice = true) : K (await c) := by
    apply hcall
    cases c <;> first | rfl | cases hc
  have hredirect : K AuthenticationRepository.screenRedirect := by
    apply closed_screenRedirect hK.toSequential (readsHave_of_closed hK)
    · exact closed_updateLastActive hK.toSequential (hcall _ rfl) fun _ _ _ => hcall _ rfl
    · exact fun _ _ => hcall _ rfl
    · apply hupdate
      intro w
      unfold World.writeIfNull
      split <;> rfl
    · exact hcall _ rfl
  have hparts : PartsHave @K := {
    closed := hK.toSequential
    call := hordinary
    read := readsHave_of_closed hK
    update := fun u hu _ => hupdate u fun w =>
      congrArg (fun x => (x.2.2.1, x.2.2.2.1.lists, x.2.2.2.1.nextLocation,
        x.2.2.2.2.1.allLocationCategories, x.2.2.2.2.1.featuredCategories, x.2.2.2.2.2)) (hu w)
    screenRedirect := hredirect
    signup := closed_signup hK.toSequential hreserved
    signInWithGoogle := closed_signInWithGoogle hK.toSequential hreserved
    isRegisteredEmail := closed_isRegisteredEmail hK.toSequential hreserved
    deleteAccount := closed_deleteAccount hK.toSequential hreserved (readsHave_of_closed hK)
    updateSingleField := fun _ =>
      closed_updateSingleField hK.toSequential hreserved (readsHave_of_closed hK) }
  have hrecord : K UserController.fetchUserRecord := by
    have hdetails := closed_fetchUserDetails hparts.closed hreserved hparts.read
    apply closed_fetchUserRecord hparts.closed hdetails (hcall _ rfl)
    · exact fun _ => hupdate _ fun _ => rfl
    · exact fun _ => hupdate _ fun _ => rfl
  refine hparts.body ?_ (fun _ => hcall _ rfl) fun _ => hsuccess
  intro hspecial
  cases op with
  | emailAndPasswordSignIn form =>
    apply closed_emailAndPasswordSignIn hK.toSequential hnotice
    · apply hupdate
      intro w
      unfold LoginController.rememberLogin
      split <;> rfl
    · exact closed_loginWithEmailAndPassword hparts.closed hreserved
    · exact hredirect
  | fetchUserRecord => exact hrecord
  | uploadUserProfilePicture =>
    apply closed_uploadUserProfilePicture hparts.closed hordinary hsuccess
      hparts.updateSingleField
    · exact fun _ => hupdate _ fun _ => rfl
    · exact fun _ => hupdate _ fun _ => rfl
  | fetchLocationCategory => exact hcategories
  | fetchLocations op => exact hfetch op
  | fetchAllLocations => exact hall
  | fetchUserFavorites =>
    apply closed_fetchUserFavorites hparts.closed fun c hc => hcall c (ordinary_of_loads hc).2.1
    · exact fun _ => hupdate _ fun _ => rfl
    · exact fun _ => hupdate _ fun _ => rfl
    · exact hshow
  | toggleFavorite locationId =>
    apply closed_toggleFavorite hparts.closed (hcall _ rfl) (hK.read _) htransact
    · exact fun _ => hupdate _ fun _ => rfl
    · exact hshow
  | onDetect barcodes => exact hparts.onDetect (hvisit hrecord) barcodes
  | updateMuseumVisitTimeOut => exact htimeOut
  | _ => cases hspecial

end Content

end AroundMuseo
