import AroundMuseo.Controllers.UserController
import AroundMuseo.Platform.Fleet

/-!
# Uploading a profile picture

An upload stores the picked image under its own name, asks for the URL of that object and
writes the URL to the document of whoever is signed in by then. A Google sign-in writes the
same field. Of the services only the field, the objects and their URLs matter here.
-/

namespace AroundMuseo

open Async Firestore

/-- Where an image is stored. -/
def picturePath (image : XFile) : String := "Users/Images/Profile/" ++ image.name

/-- What an upload writes to the user's document. -/
def pictureFields (url : String) : Doc := Doc.ofFields [("ProfilePicture", Scalar.string url)]

/-- The call that stores an object. -/
def Call.isPutFile : Call → Bool
  | .putFile _ _ => true
  | _ => false

section Moments

variable {w w' : World} {ms : History}

theorem allAnswered_answers_append {ms ms' : History} :
    AllAnswered (answers (ms ++ ms')) ↔ AllAnswered (answers ms) ∧ AllAnswered (answers ms') := by
  rw [answers_append, allAnswered_append]

/-- An awaited call that was answered. -/
theorem admits_await {c : Call} (ha : c.awaited = true) {out : Except Exn (Reply c)}
    (h : (await c).Admits platform w ms out w') (hok : AllAnswered (answers ms)) :
    ∃ v w₁, out = .ok v ∧ ms = [.issued w c, .answered ⟨w₁, c, .ok v⟩] := by
  obtain ⟨w₁, w₂, -, rfl⟩ := Prog.admits_invoke ha h
  obtain ⟨v, rfl⟩ : ∃ v, out = .ok v := hok ⟨w₁, c, out⟩ (List.mem_singleton_self _)
  exact ⟨v, w₁, rfl, rfl⟩

/-- The image is stored, and then its URL is asked for. -/
theorem uploadImage_moments {image : XFile} {out : Except Exn String}
    (h : (UserRepository.uploadImage "Users/Images/Profile/" image).Admits platform w ms out w')
    (hok : AllAnswered (answers ms)) : ∃ url w₁ w₂ w₃, out = .ok url ∧ ms =
      [.issued w (.putFile (picturePath image) image),
        .answered ⟨w₁, .putFile (picturePath image) image, .ok ()⟩,
        .issued w₂ (.getDownloadURL (picturePath image)),
        .answered ⟨w₃, .getDownloadURL (picturePath image), .ok url⟩] := by
  have hbody : ∀ {ms out w'}, (do
      await (.putFile (picturePath image) image)
      await (.getDownloadURL (picturePath image)) : App String).Admits platform w ms out w' →
      AllAnswered (answers ms) → ∃ url w₁ w₂ w₃, out = .ok url ∧ ms =
        [.issued w (.putFile (picturePath image) image),
          .answered ⟨w₁, .putFile (picturePath image) image, .ok ()⟩,
          .issued w₂ (.getDownloadURL (picturePath image)),
          .answered ⟨w₃, .getDownloadURL (picturePath image), .ok url⟩] := by
    intro ms out w' h hok
    rcases Prog.Admits.bind h with ⟨ms₁, u, w₂, ms₂, hput, hurl, rfl⟩ | ⟨e, hput, -⟩
    · obtain ⟨hok₁, hok₂⟩ := allAnswered_answers_append.mp hok
      obtain ⟨v, w₁, -, rfl⟩ := admits_await rfl hput hok₁
      obtain ⟨url, w₃, rfl, rfl⟩ := admits_await rfl hurl hok₂
      exact ⟨url, w₁, w₂, w₃, rfl, rfl⟩
    · obtain ⟨v, w₁, hv, -⟩ := admits_await rfl hput hok
      cases hv
  rcases Prog.Admits.handle h with ⟨url, hrun, rfl⟩ | ⟨ms₁, e, w₁, ms₂, hrun, -, rfl⟩
  · exact hbody hrun hok
  · obtain ⟨url, -, -, -, hurl, -⟩ := hbody hrun (allAnswered_answers_append.mp hok).1
    cases hurl

/-- The fields are written to the document of the user who is signed in then. -/
theorem updateSingleField_moments {json : Doc} {out : Except Exn Unit}
    (h : (UserRepository.updateSingleField json).Admits platform w ms out w')
    (hok : AllAnswered (answers ms)) : ∃ ms₁ id w₁ w₂, out = .ok () ∧
      ms = ms₁ ++
        [.issued w₁ (.update .users id json), .answered ⟨w₂, .update .users id json, .ok ()⟩] ∧
      (∀ m ∈ ms₁, m.call.isPutFile = false) ∧ ∀ u, w₁.currentUser = some u → id = u.uid := by
  have hbody : ∀ {ms out w'}, (do
      let user ← authUser
      let id ← docRef .users (user.map (·.uid))
      await (.update .users id json) : App Unit).Admits platform w ms out w' →
      AllAnswered (answers ms) → ∃ ms₁ id w₁ w₂, out = .ok () ∧
        ms = ms₁ ++ [.issued w₁ (.update .users id json),
          .answered ⟨w₂, .update .users id json, .ok ()⟩] ∧
        (∀ m ∈ ms₁, m.call.isPutFile = false) ∧ ∀ u, w₁.currentUser = some u → id = u.uid := by
    intro ms out w' h hok
    have hread : (do
        let id ← docRef .users (w.currentUser.map (·.uid))
        await (.update .users id json) : App Unit).Admits platform w ms out w' := h
    cases huser : w.currentUser with
    | some u =>
      rw [huser] at hread
      obtain ⟨v, w₁, rfl, rfl⟩ := admits_await rfl hread hok
      refine ⟨[], u.uid, w, w₁, rfl, rfl, List.forall_mem_nil _, fun u' hu' => ?_⟩
      rw [huser] at hu'
      cases hu'
      rfl
    | none =>
      rw [huser] at hread
      rcases Prog.Admits.bind hread with ⟨ms₁, id, w₁, ms₂, hid, hupdate, rfl⟩ | ⟨e, hid, -⟩
      · obtain ⟨id', hid', heffect, rfl⟩ := Prog.admits_invoke_sync rfl hid
        cases hid'
        obtain ⟨-, hw⟩ := Option.ite_none_left_eq_some.mp heffect
        cases hw
        obtain ⟨v, w₂, rfl, rfl⟩ := admits_await rfl hupdate (allAnswered_answers_append.mp hok).2
        refine ⟨_, id, w, w₂, rfl, rfl, List.forall_mem_singleton.mpr rfl, fun u hu => ?_⟩
        rw [huser] at hu
        cases hu
      · obtain ⟨id', hid', -, -⟩ := Prog.admits_invoke_sync rfl hid
        cases hid'
  rcases Prog.Admits.handle h with ⟨u, hrun, rfl⟩ | ⟨ms₁, e, w₁, ms₂, hrun, -, rfl⟩
  · exact hbody hrun hok
  · obtain ⟨-, -, -, -, hout, -⟩ := hbody hrun (allAnswered_answers_append.mp hok).1
    cases hout

/-- The user picks the image. -/
def Picks (ms : History) (image : XFile) : Prop :=
  ∃ w source, ⟨w, .pickImage source, .ok (some image)⟩ ∈ answers ms

/-- What is known of the moments `ms` of an upload of `image`. -/
structure UploadMoments (ms : History) (image : XFile) (url id : String) : Prop where
  only : ∀ w path file, .issued w (.putFile path file) ∈ ms → path = picturePath image ∧
    file = image
  answers : ∃ w₁ w₂ w₃,
    [⟨w₁, .putFile (picturePath image) image, .ok ()⟩,
      ⟨w₂, .getDownloadURL (picturePath image), .ok url⟩,
      ⟨w₃, .update .users id (pictureFields url), .ok ()⟩].Sublist (answers ms)
  user : ∃ w₁, .issued w₁ (.update .users id (pictureFields url)) ∈ ms ∧
    ∀ u, w₁.currentUser = some u → id = u.uid

/-- What was done before does not matter, nor what is done afterwards. -/
theorem UploadMoments.prepend {image : XFile} {url id : String} {ms' : History}
    (h : UploadMoments ms image url id) (hnone : ∀ m ∈ ms', m.call.isPutFile = false) :
    UploadMoments (ms' ++ ms) image url id := by
  obtain ⟨hputs, ⟨w₁, w₂, w₃, hanswers⟩, v, hupdate, huser⟩ := h
  refine ⟨?_, ⟨w₁, w₂, w₃, ?_⟩, v, List.mem_append_right _ hupdate, huser⟩
  · intro w path file hmem
    rcases List.mem_append.mp hmem with hfirst | hlast
    · cases hnone _ hfirst
    · exact hputs w path file hlast
  · rw [answers_append]
    exact hanswers.trans (List.sublist_append_right _ _)

theorem UploadMoments.append {image : XFile} {url id : String} {ms' : History}
    (h : UploadMoments ms image url id) (hnone : ∀ m ∈ ms', m.call.isPutFile = false) :
    UploadMoments (ms ++ ms') image url id := by
  obtain ⟨hputs, ⟨w₁, w₂, w₃, hanswers⟩, v, hupdate, huser⟩ := h
  refine ⟨?_, ⟨w₁, w₂, w₃, ?_⟩, v, List.mem_append_left _ hupdate, huser⟩
  · intro w path file hmem
    rcases List.mem_append.mp hmem with hfirst | hlast
    · exact hputs w path file hfirst
    · cases hnone _ hlast
  · rw [answers_append]
    exact hanswers.trans (List.sublist_append_left _ _)

/-- What happens once an image is picked. -/
def uploadPicked (image : XFile) : App Unit := do
  UserController.setImageUploading true
  let imageUrl ← UserRepository.uploadImage "Users/Images/Profile/" image
  UserRepository.updateSingleField (pictureFields imageUrl)
  UserController.modifyUser fun user => { user with profilePicture := imageUrl }
  await (.snackBar .success "Image Uploaded" "Your profile picture has been updated.")

theorem uploadPicked_moments {image : XFile} {out : Except Exn Unit}
    (h : (uploadPicked image).Admits platform w ms out w') (hok : AllAnswered (answers ms)) :
    out = .ok () ∧ ∃ url id, UploadMoments ms image url id := by
  have hrun : (do
      let imageUrl ← UserRepository.uploadImage "Users/Images/Profile/" image
      UserRepository.updateSingleField (pictureFields imageUrl)
      UserController.modifyUser fun user => { user with profilePicture := imageUrl }
      await (.snackBar .success "Image Uploaded" "Your profile picture has been updated.") :
        App Unit).Admits platform { w with userController.imageUploading := true } ms out w' := h
  rcases Prog.Admits.bind hrun with ⟨ms₁, url, w₁, ms₂, hupload, hrest, rfl⟩ | ⟨e, hupload, -⟩
  swap
  · obtain ⟨url, -, -, -, hurl, -⟩ := uploadImage_moments hupload hok
    cases hurl
  obtain ⟨hok₁, hok₂⟩ := allAnswered_answers_append.mp hok
  obtain ⟨url', v₁, v₂, v₃, hurl, rfl⟩ := uploadImage_moments hupload hok₁
  cases hurl
  rcases Prog.Admits.bind hrest with ⟨ms₃, u, w₂, ms₄, hupdate, hlast, rfl⟩ | ⟨e, hupdate, -⟩
  swap
  · obtain ⟨-, -, -, -, hout, -⟩ := updateSingleField_moments hupdate hok₂
    cases hout
  obtain ⟨ms₅, id, v₄, v₅, -, rfl, hnone, huser⟩ :=
    updateSingleField_moments hupdate (allAnswered_answers_append.mp hok₂).1
  obtain ⟨reply, rfl, -, rfl⟩ := Prog.admits_invoke_sync (P := platform)
    (c := .snackBar .success "Image Uploaded" "Your profile picture has been updated.") rfl hlast
  refine ⟨rfl, url, id, ?_⟩
  rw [← List.append_assoc]
  apply UploadMoments.append ?_ (List.forall_mem_singleton.mpr rfl)
  refine ⟨?_, ⟨v₁, v₃, v₅, ?_⟩, v₄, by simp, huser⟩
  · intro v path file hmem
    rcases List.mem_append.mp hmem with hfirst | hrest
    · simp only [List.mem_cons, List.not_mem_nil, or_false, Moment.issued.injEq, reduceCtorEq,
        Call.putFile.injEq, and_false] at hfirst
      exact hfirst.2
    · rcases List.mem_append.mp hrest with hread | hrecord
      · cases hnone _ hread
      · simp at hrecord
  · rw [answers_append, answers_append]
    exact (List.Sublist.refl [_, _]).append (List.sublist_append_right _ _)

/-- An upload stores nothing, or it stores the image that is picked and records the URL of its
path. -/
theorem uploadUserProfilePicture_moments {out : Except Exn Unit}
    (h : UserController.uploadUserProfilePicture.Admits platform w ms out w')
    (hok : AllAnswered (answers ms)) : (∀ m ∈ ms, m.call.isPutFile = false) ∨
      ∃ image url id, Picks ms image ∧ UploadMoments ms image url id := by
  have hpick : ∀ {ms out w'}, UserController.pickAndUpload.Admits platform w ms out w' →
      AllAnswered (answers ms) → out = .ok () ∧ ((∀ m ∈ ms, m.call.isPutFile = false) ∨
        ∃ image url id, Picks ms image ∧ UploadMoments ms image url id) := by
    intro ms out w' h hok
    rcases Prog.Admits.bind h with ⟨ms₁, source, w₁, ms₂, hsheet, hrest, rfl⟩ | ⟨e, hsheet, -⟩
    swap
    · obtain ⟨v, v₁, hv, -⟩ := admits_await rfl hsheet hok
      cases hv
    obtain ⟨hok₁, hok₂⟩ := allAnswered_answers_append.mp hok
    obtain ⟨v, v₁, -, rfl⟩ := admits_await rfl hsheet hok₁
    cases source with
    | none =>
      obtain ⟨rfl, rfl, -⟩ := hrest
      exact ⟨rfl, .inl (by simp [Moment.call, Call.isPutFile])⟩
    | some source =>
      rcases Prog.Admits.bind hrest with ⟨ms₃, image, w₂, ms₄, hpick, hrest, rfl⟩ | ⟨e, hpick, -⟩
      swap
      · obtain ⟨v, v₂, hv, -⟩ := admits_await rfl hpick hok₂
        cases hv
      obtain ⟨hok₃, hok₄⟩ := allAnswered_answers_append.mp hok₂
      obtain ⟨v, v₂, hv, rfl⟩ := admits_await rfl hpick hok₃
      cases image with
      | none =>
        obtain ⟨rfl, rfl, -⟩ := hrest
        exact ⟨rfl, .inl (by simp [Moment.call, Call.isPutFile])⟩
      | some image =>
        have hpicked : (uploadPicked image).Admits platform w₂ ms₄ out w' := hrest
        obtain ⟨hout, url, id, hmoments⟩ := uploadPicked_moments hpicked hok₄
        cases hv
        refine ⟨hout, .inr ⟨image, url, id, ⟨v₂, source, by simp [Async.answers]⟩, ?_⟩⟩
        apply UploadMoments.prepend (UploadMoments.prepend hmoments ?_) ?_
        · simp [Moment.call, Call.isPutFile]
        · simp [Moment.call, Call.isPutFile]
  obtain ⟨ms₁, r, w₁, ms₂, r', htry, hend, rfl⟩ := Prog.Admits.ensure h
  obtain ⟨rfl, -, -⟩ := hend
  rw [List.append_nil] at hok ⊢
  rcases Prog.Admits.handle htry with ⟨u, hrun, -⟩ | ⟨ms₃, e, w₂, ms₄, hrun, -, rfl⟩
  · exact (hpick hrun hok).2
  · obtain ⟨hout, -⟩ := hpick hrun (allAnswered_answers_append.mp hok).1
    cases hout

end Moments

/-- The profile picture of a user, with what its URL may denote. -/
structure Pictures where
  field : Option Value
  storage : AList fun _ : String => List UInt8
  downloadUrls : AList fun _ : String => String

/-- The services as the profile picture of the user `u` depends on them. -/
def Cloud.pictures (u : String) (cloud : Cloud) : Pictures where
  field := ((cloud.db .users).lookup u).bind (·.lookup "ProfilePicture")
  storage := cloud.storage
  downloadUrls := cloud.downloadUrls

/-- What a call writes to the `ProfilePicture` of the user `u`. -/
def Call.picture (u : String) : Call → Option Value
  | .update .users id d | .setMerge .users id d => if id = u then d.lookup "ProfilePicture"
      else none
  | _ => none

namespace Pictures

/-- The bytes are those of the object that the field denotes. -/
def Shows (p : Pictures) (bytes : List UInt8) : Prop :=
  ∃ url path, p.field = some (.scalar (.string url)) ∧ p.downloadUrls.lookup url = some path ∧
    p.storage.lookup path = some bytes

/-- What an answered call makes of the pictures. A URL denotes one path for good. -/
def after (u : String) (p : Pictures) : Event → Pictures
  | ⟨_, .putFile path file, .ok _⟩ => { p with storage := p.storage.insert path file.bytes }
  | ⟨_, .getDownloadURL path, .ok url⟩ =>
    if (p.downloadUrls.lookup url).all (· = path) then
      { p with downloadUrls := p.downloadUrls.insert url path }
    else p
  | ⟨_, c, .ok _⟩ => { p with field := (c.picture u).or p.field }
  | ⟨_, _, .error _⟩ => p

end Pictures

/-- The calls of uploads and of Google sign-ins. -/
def Call.onPictures : Call → Bool
  | .showModalBottomSheet | .pickImage _ | .putFile _ _ | .getDownloadURL _ | .autoId _
  | .update .users _ _ | .setMerge .users _ _ | .snackBar _ _ _ | .stopLoading | .googleSignOut
  | .googleSignIn | .googleAuthentication _ | .signInWithCredential _ | .now => true
  | _ => false

section Shows

variable {u : String}

theorem field_update {w : World} {users : Collection} {id : String} {d : Doc}
    (h : (w.db .users).update id d = some users) :
    ((w.setDb .users users).cloud.pictures u).field =
      ((Call.update .users id d).picture u).or (w.cloud.pictures u).field := by
  obtain ⟨old, hold, rfl⟩ := Collection.update_eq_some.mp h
  by_cases hid : u = id
  · subst hid
    simp [Cloud.pictures, World.cloud, Call.picture, hold]
  · simp [Cloud.pictures, World.cloud, Call.picture, AList.lookup_insert_ne hid, Ne.symm hid]

theorem field_setMerge {w : World} {id : String} {d : Doc} :
    ((w.setDb .users ((w.db .users).setMerge id d)).cloud.pictures u).field =
      ((Call.setMerge .users id d).picture u).or (w.cloud.pictures u).field := by
  by_cases hid : u = id
  · subst hid
    cases hold : (w.db .users).lookup u with
    | none => simp [Cloud.pictures, World.cloud, Call.picture, Collection.lookup_setMerge, hold]
    | some old => simp [Cloud.pictures, World.cloud, Call.picture, Collection.lookup_setMerge, hold]
  · simp [Cloud.pictures, World.cloud, Call.picture, Collection.lookup_setMerge, hid, Ne.symm hid]

/-- The calls change the pictures as `after` says. -/
theorem showsOn_pictures (u : String) :
    platform.ShowsOn (Call.onPictures · = true) (fun w => w.cloud.pictures u)
      (Pictures.after u) := by
  intro c w w' r hc h
  cases r with
  | error e =>
    obtain ⟨-, hw⟩ := Option.ite_none_right_eq_some.mp h
    cases hw
    cases c <;> rfl
  | ok v =>
    cases c with
    | update n id d =>
      cases n with
      | users =>
        obtain ⟨users, husers, hw⟩ := Option.map_eq_some_iff.mp h
        cases hw
        exact congrArg (fun field => (⟨field, w.storage, w.downloadUrls⟩ : Pictures))
          (field_update husers)
      | _ => cases hc
    | setMerge n id d =>
      cases n with
      | users =>
        cases h
        exact congrArg (fun field => (⟨field, w.storage, w.downloadUrls⟩ : Pictures)) field_setMerge
      | _ => cases hc
    | getDownloadURL path =>
      obtain ⟨⟨-, hurl⟩, hw⟩ := Option.ite_none_right_eq_some.mp h
      cases hw
      exact (if_pos hurl).symm
    | googleAuthentication account | stopLoading =>
      obtain ⟨-, hw⟩ := Option.ite_none_right_eq_some.mp h
      cases hw
      rfl
    | signInWithCredential credentials =>
      simp only [platform, effect, Platform.perform_ok] at h
      split at h <;> obtain ⟨-, hw⟩ := Option.ite_none_right_eq_some.mp h <;> cases hw <;> rfl
    | autoId n =>
      obtain ⟨-, hw⟩ := Option.ite_none_left_eq_some.mp h
      cases hw
      rfl
    | putFile _ _ | showModalBottomSheet | pickImage _ | snackBar _ _ _ | googleSignOut
    | googleSignIn | now =>
      cases h
      rfl
    | _ => cases hc

end Shows

section Confined

/-- The upload makes no other calls. -/
theorem confined_uploadUserProfilePicture :
    UserController.uploadUserProfilePicture.Confined (Call.onPictures · = true) World.cloud := by
  have hupload : ∀ image, (UserRepository.uploadImage "Users/Images/Profile/" image).Confined
      (Call.onPictures · = true) World.cloud := fun image =>
    .handle (.bind (Prog.confined_invoke rfl) fun _ => Prog.confined_invoke rfl) fun _ => trivial
  have hrecord : ∀ json, (UserRepository.updateSingleField json).Confined
      (Call.onPictures · = true) World.cloud := by
    intro json
    refine .handle (.bind (Prog.confined_read _) fun user => .bind ?_ fun _ => ?_) fun _ => trivial
    · cases user with
      | some user => trivial
      | none => exact Prog.confined_invoke rfl
    · exact Prog.confined_invoke rfl
  refine .ensure (.handle (.bind (Prog.confined_invoke rfl) fun source => ?_) fun e => ?_)
    (Prog.confined_modify fun _ => rfl)
  · cases source with
    | none => trivial
    | some source =>
      refine .bind (Prog.confined_invoke rfl) fun image => ?_
      cases image with
      | none => trivial
      | some image =>
        refine .bind (Prog.confined_modify fun _ => rfl) fun _ =>
          .bind (hupload image) fun url => ?_
        refine .bind (hrecord _) fun _ => .bind (Prog.confined_modify fun _ => rfl) fun _ => ?_
        exact Prog.confined_invoke rfl
  · refine .bind (.bind (Prog.confined_invoke rfl) fun _ => trivial) fun _ => ?_
    exact Prog.confined_invoke rfl

/-- A sign-in stores no object. -/
theorem confined_signInWithGoogle : AuthenticationRepository.signInWithGoogle.Confined
    (fun c => (c.onPictures && !c.isPutFile) = true) World.cloud := by
  refine .handle (.bind (Prog.confined_invoke rfl) fun _ => .bind (Prog.confined_invoke rfl)
    fun account => ?_) fun e => ?_
  · cases account with
    | none => trivial
    | some account =>
      refine .bind (Prog.confined_invoke rfl) fun _ => .bind (Prog.confined_invoke rfl) fun _ => ?_
      refine .bind (Prog.confined_invoke rfl) fun _ => .bind (Prog.confined_invoke rfl) fun _ => ?_
      trivial
  · split <;> trivial

end Confined

end AroundMuseo
