import AroundMuseo.Account.Announcements
import AroundMuseo.Locations.Calendar

/-!
# Failures

A call that throws is announced by a message, or the exception ends the operation. Some failures
the app keeps to itself: those of what it does on the side, and what the sign-in with Google takes
for a cancelled prompt. These are told of neither by a message nor by an exception.
-/

namespace AroundMuseo

open Async Firestore

section Operations

variable {op : AppOperation}

/-- A record that cannot be read is replaced by an empty one; an entry that fails is announced. -/
theorem ends_logMuseumVisit : Ends op QRCodeController.logMuseumVisit := by
  apply ends_reported _ fun _ => rfl
  apply loud_then (loud_of_calm calm_fetchUserRecord)
  intro _
  apply gentle_bind (gentle_of_calm (calm_read _))
  intro user
  apply gentle_bind (gentle_of_calm (calm_sync rfl rfl))
  intro now
  apply gentle_bind (gentle_rethrow (gentle_call rfl fun _ => rfl) _)
  exact fun _ => gentle_of_calm (calm_modify _)

/-- A check leaves no failure to be told. -/
theorem ends_checkQRCode (scannedCode : String) :
    Ends op (QRCodeController.checkQRCode scannedCode) := by
  apply ends_reported _ fun _ => rfl
  apply loud_bind (strict_modify _)
  intro _
  apply loud_bind
  · apply strict_bind (strict_call rfl fun _ => rfl)
    intro data
    cases data <;> exact strict_done _
  · intro currentQRCode
    split
    · apply loud_bind (strict_sync rfl)
      intro _
      apply loud_then (loud_of_ends ends_logMuseumVisit)
      exact fun _ => gentle_of_calm (calm_sync rfl rfl)
    · exact loud_of_strict (strict_sync rfl)

theorem loud_onDetect (barcodes : List QRCodeScannerScreen.Barcode) :
    Loud op (QRCodeScannerScreen.onDetect barcodes) := by
  apply loud_bind (strict_read _)
  intro scanCompleted
  split
  · cases barcodes with
    | nil => exact loud_of_strict (strict_done _)
    | cons barcode rest =>
      dsimp only
      split
      · apply loud_of_ends
        exact watched_unawaited (ends_checkQRCode _) fun _ _ h => ⟨⟨(), rfl⟩, h.2⟩
      · exact loud_of_strict (strict_done _)
  · exact loud_of_strict (strict_done _)

/-- A location whose details cannot be set ends the loop. -/
theorem strict_setLocationDetails (intl : Intl) (location : Nat × LocationModel) :
    Strict op (LocationController.setLocationDetails intl location) := by
  have hname (id : String) : Strict op (LocationRepository.getCategoryNameById id) := by
    obtain ⟨r, hdoc⟩ := exists_doc_eq id
    apply strict_rethrow
    rw [hdoc]
    refine strict_bind (strict_done r) fun id => strict_bind (strict_call rfl fun _ => rfl) ?_
    intro data
    cases data <;> exact strict_done _
  have hcategory : Strict op (LocationController.setLocationCategory location) := by
    refine strict_bind (hname _) fun _ => strict_bind (hname _) fun _ => ?_
    exact strict_bind (strict_modify _) fun _ => strict_modify _
  have hcompute {α : Type} {compute : DateTime → Except Exn α} {rest : α → App Unit}
      (hrest : ∀ a, Strict op (rest a)) : Strict op (do
        let now ← await .now
        let a ← liftExcept (compute now)
        rest a) :=
    strict_bind (strict_sync rfl) fun _ => strict_bind (strict_done _) hrest
  refine strict_bind hcategory fun _ => hcompute fun _ => strict_bind (strict_modify _) fun _ => ?_
  refine hcompute fun _ => strict_bind (strict_modify _) fun _ => ?_
  exact hcompute fun _ => strict_modify _

/-- The loop, by induction on the elements that are left. -/
theorem strict_forEach {action : Nat × LocationModel → App Unit}
    (haction : ∀ location, Strict op (action location)) (list : LocationList) :
    Strict op (LocationController.forEach list action) := by
  have hfrom (length remaining : Nat) :
      Strict op (LocationController.forEachFrom list action length remaining) := by
    induction remaining with
    | zero =>
      apply strict_bind (strict_read _)
      intro now
      split <;> exact strict_done _
    | succ remaining ih =>
      apply strict_bind (strict_read _)
      intro locations
      split
      · exact strict_done _
      · split
        · exact strict_bind (haction _) fun _ => ih
        · exact strict_done _
  exact strict_bind (strict_read _) fun length => hfrom length length

theorem loud_fetchLocations (intl : Intl) (op' : LocationFetch) : Loud op (op'.body intl) := by
  rw [op'.body_eq, LocationController.fetchCategory]
  apply loud_loading
  refine strict_bind (strict_modify _) fun _ => ?_
  apply strict_bind
  · apply strict_rethrow
    exact strict_bind (strict_call rfl fun _ => rfl) fun _ => strict_done _
  · refine fun locations => strict_bind (strict_modify _) fun _ => ?_
    apply strict_bind (strict_forEach (strict_setLocationDetails intl) _)
    intro _
    split
    · exact strict_done _
    · exact strict_modify _

theorem loud_fetchAllLocations (intl : Intl) :
    Loud op (LocationController.fetchAllLocations intl) := by
  apply loud_loading
  refine strict_bind (strict_modify _) fun _ => ?_
  apply strict_bind
  · apply strict_rethrow
    exact strict_bind (strict_call rfl fun _ => rfl) fun _ => strict_done _
  · refine fun locations => strict_bind (strict_modify _) fun _ => ?_
    refine strict_bind (strict_forEach (strict_setLocationDetails intl) _) fun _ => ?_
    refine strict_bind (strict_modify _) fun _ => strict_bind (strict_modify _) fun _ => ?_
    exact strict_bind (strict_modify _) fun _ => strict_modify _

theorem loud_fetchUserFavorites (repository : LocationRepository) :
    Loud op (LocationController.fetchUserFavorites repository) := by
  apply loud_loading
  refine strict_bind (strict_modify _) fun _ => ?_
  apply strict_bind
  · apply strict_rethrow
    refine strict_bind (strict_docRef _ _) fun id => ?_
    apply strict_bind (strict_call rfl fun _ => rfl)
    intro data
    cases data with
    | none => exact strict_done _
    | some data => exact strict_bind (strict_done _) fun _ => strict_done _
  · intro favorites
    cases favorites with
    | none => exact strict_done _
    | some favorites => exact strict_bind (strict_modify _) fun _ => strict_modify _

theorem loud_fetchLocationCategory : Loud op LocationCategoryController.fetchLocationCategory := by
  apply loud_loading
  refine strict_bind (strict_modify _) fun _ => ?_
  apply strict_bind
  · apply strict_rethrow
    exact strict_bind (strict_call rfl fun _ => rfl) fun _ => strict_done _
  · exact fun _ => strict_bind (strict_modify _) fun _ => strict_modify _

/-- A toggle throws what its transaction throws. -/
theorem strict_toggleFavorite (repository : LocationRepository) (locationId : String) :
    Strict op (LocationController.toggleFavorite repository locationId) := by
  have hrun (tx : FavoritesTransaction) : Strict op (do
      let userFavoritesRef ← docRef .userFavorites repository.userId
      await (.runTransaction userFavoritesRef tx)) :=
    strict_bind (strict_docRef _ _) fun _ => strict_call rfl fun _ => rfl
  apply strict_bind (strict_read _)
  intro favoriteLocationIds
  split
  · exact strict_bind (strict_modify _) fun _ => strict_bind (hrun _) fun _ => strict_modify _
  · exact strict_bind (strict_modify _) fun _ => strict_bind (hrun _) fun _ => strict_modify _

/-- The failure to write the end of a visit is announced. -/
theorem loud_updateMuseumVisitTimeOut : Loud op QRCodeController.updateMuseumVisitTimeOut := by
  apply loud_of_ends
  apply ends_reported _ fun _ => rfl
  apply loud_of_strict
  refine strict_bind (strict_sync rfl) fun timeOut => strict_bind (strict_read _) fun id => ?_
  exact strict_rethrow (strict_call rfl fun _ => rfl) _

/-- Every operation ends well. -/
theorem AppOperation.loud (intl : Intl) (repository : LocationRepository) (op : AppOperation) :
    Loud op (op.body intl repository) := by
  cases op with
  | screenRedirect => exact loud_of_calm (calm_screenRedirect rfl)
  | emailAndPasswordSignIn form => exact loud_emailAndPasswordSignIn form
  | googleSignIn => exact loud_googleSignIn
  | signup form => exact loud_signup form
  | sendPasswordResetEmail email form =>
    apply loud_checked (.inr rfl) rfl
    apply loud_of_strict
    refine strict_bind (strict_sendPasswordReset _) fun _ => ?_
    refine strict_bind strict_stopLoading fun _ => ?_
    exact strict_bind (strict_sync rfl) fun _ => strict_sync rfl
  | resendPasswordResetEmail email =>
    apply loud_withLoader (.inr rfl)
    apply loud_whenConnected rfl
    apply loud_of_strict
    apply strict_bind (strict_sendPasswordReset _)
    exact fun _ => strict_bind strict_stopLoading fun _ => strict_sync rfl
  | sendEmailVerification => exact loud_sendEmailVerification
  | timerCallback screen => exact loud_of_strict (strict_timerCallback screen)
  | checkEmailVerificationStatus => exact loud_of_strict strict_checkEmailVerificationStatus
  | logout => exact loud_of_strict (strict_logout rfl rfl)
  | fetchUserRecord => exact loud_of_calm calm_fetchUserRecord
  | deleteUserAccount => exact loud_deleteUserAccount
  | reAuthenticateForDeletion form =>
    apply loud_checked (.inl rfl) rfl
    apply loud_of_strict
    refine strict_bind (strict_reAuthenticate _ _) fun _ => ?_
    refine strict_bind (strict_deleteAccount rfl) fun _ => ?_
    refine strict_bind strict_stopLoading fun _ => ?_
    exact strict_bind (strict_sync rfl) fun _ => strict_sync rfl
  | resetEmailAddress => exact loud_resetEmailAddress
  | reAuthenticateForEmailChange form =>
    apply loud_checked (.inl rfl) rfl
    apply loud_of_strict
    apply strict_bind (strict_reAuthenticate _ _)
    exact fun _ => strict_bind strict_stopLoading fun _ => strict_sync rfl
  | uploadUserProfilePicture => exact loud_uploadUserProfilePicture
  | updateUserName | updateBirthYear | updateGender =>
    exact loud_updateProfile rfl (strict_reportAndLeave _) _ _ _
  | updateAddress =>
    exact loud_updateProfile rfl (strict_bind (strict_sync rfl) fun _ => strict_sync rfl) _ _ _
  | updateEmailAddress email form => exact loud_updateEmailAddress email form
  | fetchLocationCategory => exact loud_fetchLocationCategory
  | fetchLocations op => exact loud_fetchLocations intl op
  | fetchAllLocations => exact loud_fetchAllLocations intl
  | fetchUserFavorites => exact loud_fetchUserFavorites repository
  | toggleFavorite locationId => exact loud_of_strict (strict_toggleFavorite repository locationId)
  | onDetect barcodes => exact loud_onDetect barcodes
  | updateMuseumVisitTimeOut => exact loud_updateMuseumVisitTimeOut
  | resetScan => exact loud_of_strict (strict_modify _)

end Operations

/-- On any platform on which at most the awaited calls can throw, and whatever overlaps: a failure
is announced afterwards, or the operation ends with an exception, unless it is one of those that
the operation keeps to itself; and after one of these, if it is the last failure, nothing is
announced and there is no exception, unless the operation goes on as if it had not been. -/
theorem failures_announced {P : Async.Platform Reply World}
    (hP : ∀ c, P.awaited c = true → c.awaited = true) {intl : Intl}
    {repository : LocationRepository} {op : AppOperation} {w w' : World} {ms : History}
    {out : Except Exn Unit}
    (h : (op.body intl repository).Admits P w ms out w') {pre post : List Event} {ev : Event}
    {e : Exn} (hms : answers ms = pre ++ ev :: post) (he : ev.reply = .error e) :
    (op.swallows ev.call e = false →
      (∃ ev' ∈ post, ev'.call.announces = true) ∨ ∃ e', out = .error e') ∧
    (op.swallows ev.call e = true → op.goesOn = false → AllAnswered post →
      (∀ ev' ∈ post, ev'.call.announces = false) ∧ ∃ a, out = .ok a) := by
  have hawaited : ev.call.awaited = true := by
    apply hP
    apply Prog.awaited_of_admits h _ he
    rw [hms]
    simp
  have hcall := announces_of_awaited hawaited
  have hend : Resolved out ((answers ms).foldl op.alarm .quiet) :=
    Prog.Follows.admits (op.loud intl repository P hP w) h
  obtain ⟨s, c, r⟩ := ev
  obtain rfl : r = .error e := he
  rw [hms, List.foldl_append, List.foldl_cons] at hend
  generalize pre.foldl op.alarm .quiet = a at hend
  have ha : a ≠ .wrong := by
    rintro rfl
    have hwrong : op.alarm .wrong ⟨s, c, .error e⟩ = .wrong := rfl
    rw [hwrong, foldl_alarm_wrong] at hend
    cases hend
  constructor
  · intro hloud
    rw [alarm_loud hcall hloud ha] at hend
    by_contra hsilent
    rw [not_or, not_exists] at hsilent
    have hpost : ∀ ev' ∈ post, ev'.call.announces = false := by
      intro ev' hev'
      simpa using fun hannounces => hsilent.1 ev' ⟨hev', hannounces⟩
    rcases foldl_alarm_due hpost with hdue | hwrong
    · rw [hdue] at hend
      cases hend with
      | due e' => exact hsilent.2 ⟨e', rfl⟩
    · rw [hwrong] at hend
      cases hend
  · intro hquiet hgoes hpost
    rw [alarm_failed hcall ha] at hend
    simp only [AppOperation.fail, hquiet, hgoes, Bool.false_eq_true, if_true, if_false] at hend
    split at hend
    · rw [foldl_alarm_wrong] at hend
      cases hend
    · rcases foldl_alarm_muted hpost with hwrong | ⟨hmuted, hnone⟩
      · rw [hwrong] at hend
        cases hend
      · rw [hmuted] at hend
        cases hend with
        | muted v => exact ⟨hnone, v, rfl⟩

/-- The mail that verifies the email is refused, which is announced. -/
theorem failures_announced_sendEmailVerification : ∃ ms w' pre ev post,
    (AppOperation.sendEmailVerification.body Intl.utc ⟨none⟩).Admits platform
      (World.withUsers [User.of "u" "u@x" "password"]) ms (.ok ()) w' ∧
    answers ms = pre ++ ev :: post ∧ ¬ AllAnswered [ev] ∧
    ∃ ev' ∈ post, ev'.call.announces = true := by
  let w := World.withUsers [User.of "u" "u@x" "password"]
  let refused : Event :=
    ⟨w, .sendEmailVerification "u", .error (.firebaseAuth "too-many-requests" "")⟩
  let told : Event := ⟨w, .snackBar .error "Oh Snap!"
    ((Exn.firebaseAuth "too-many-requests" "").authRethrown
      "Something went wrong. Please try again.").toText, .ok ()⟩
  have h : (AppOperation.sendEmailVerification.body Intl.utc ⟨none⟩).Admits platform w
      [.issued w refused.call, .answered refused, .answered told] (.ok ()) w :=
    ⟨w, _, w, w, [.answered told], rfl, rfl, (), w, [], rfl, rfl, rfl, rfl, rfl⟩
  have hms : answers [.issued w refused.call, .answered refused, .answered told] =
      [] ++ refused :: [told] := rfl
  rcases (failures_announced (fun _ hc => hc) h hms rfl).1 rfl with hannounced | ⟨e, he⟩
  · exact ⟨_, w, [], refused, [told], h, rfl, by decide, hannounced⟩
  · cases he

end AroundMuseo
