import AroundMuseo.Account.Pictures
import AroundMuseo.Account.ProfileMirror

/-!
# The last profile picture of a user

Users upload pictures and sign in with Google, on any devices and at the same time. The path
of a picture does not name its user, so a picture is overwritten by any other of that name.
-/

namespace AroundMuseo

open Async Firestore

inductive PictureOperationKind where
  | uploadUserProfilePicture
  | signInWithGoogle
  deriving DecidableEq

/-- An operation on a device. The label tells apart operations of one kind. -/
structure PictureOperation (δ : Type) where
  device : δ
  label : Nat
  kind : PictureOperationKind
  deriving DecidableEq

variable {δ : Type} [DecidableEq δ]

namespace PictureOperation

def body (op : PictureOperation δ) : App Unit :=
  match op.kind with
  | .uploadUserProfilePicture => UserController.uploadUserProfilePicture
  | .signInWithGoogle => AuthenticationRepository.signInWithGoogle.unawaited

/-- An operation sees its device. -/
abbrev parts : Parts (PictureOperation δ) World (Fleet δ) := Fleet.parts PictureOperation.device

end PictureOperation

/-- Uploads and sign-ins that overlap. -/
abbrev PicturePool (δ : Type) :=
  Async.Pool (NamedReply (PictureOperation δ) Reply) (Fleet δ) Exn (PictureOperation δ)

abbrev PictureMoment (δ : Type) :=
  Async.Moment (NamedReply (PictureOperation δ) Reply) (Fleet δ) Exn

/-- A run of uploads and sign-ins, no two of the same name, whose calls all succeed. -/
structure PictureRun (f₀ : Fleet δ) (ms : List (PictureMoment δ)) (c : PicturePool δ) : Prop where
  run : Pool.Run (platform.named PictureOperation.parts)
    (fun op => op.body.named PictureOperation.parts op) ⟨f₀, []⟩ ms c
  distinct : (c.tasks.map Prod.fst).Nodup
  answered : AllAnswered (answers ms)

/-- The uploads of the user `u`, in the order in which their images are sent. -/
def uploads (u : String) (ms : List (PictureMoment δ)) : List (PictureOperation δ × XFile) :=
  ms.filterMap fun
    | .issued f (op, .putFile _ file) =>
      if (f.see op.device).currentUser.any (·.uid = u) then some (op, file) else none
    | _ => none

/-- Nothing gets in the way of the upload `op` of the image `file` by the user `u`. -/
structure Undisturbed (u : String) (op : PictureOperation δ) (file : XFile)
    (ms : List (PictureMoment δ)) : Prop where
  /-- The user is still signed in when the URL is recorded. -/
  user : ∀ f id d, .issued f (op, .update .users id d) ∈ ms → (f.see op.device).SignedInAs u
  /-- Later objects of the same path have the same content. -/
  object : (answers ms).Pairwise fun ev ev' => ev.call = (op, .putFile (picturePath file) file) →
    ∀ file', ev'.call.2 = .putFile (picturePath file) file' → file'.bytes = file.bytes
  /-- What it records is overwritten by URLs of the same path only. -/
  record : (answers ms).Pairwise fun ev ev' => ev.call.1 = op → (ev.call.2.picture u).isSome →
    ∀ v, ev'.call.2.picture u = some v → ∃ url : String, v = .scalar (.string url) ∧
      ev'.state.cloud.downloadUrls.lookup url = some (picturePath file)

/-- The image is the one that is picked in the operation. -/
def PickedIn (op : PictureOperation δ) (file : XFile) (ms : List (PictureMoment δ)) : Prop :=
  ∃ f source, ⟨f, (op, .pickImage source), .ok (some file)⟩ ∈ answers ms

namespace Pictures

variable {u url path : String} {bytes : List UInt8} {p : Pictures}

/-- An object stays as it is until its path is written again. -/
theorem lookup_storage_after (h : p.storage.lookup path = some bytes) (ev : Event)
    (hev : ∀ file, ev.call = .putFile path file → file.bytes = bytes) :
    (p.after u ev).storage.lookup path = some bytes := by
  obtain ⟨w, c, e | v⟩ := ev
  · cases c <;> exact h
  · cases c with
    | putFile path' file =>
      by_cases hpath : path = path'
      · subst hpath
        rw [← hev file rfl]
        exact AList.lookup_insert _
      · exact (AList.lookup_insert_ne hpath).trans h
    | getDownloadURL path' =>
      rw [after]
      split <;> exact h
    | _ => exact h

/-- A URL denotes the same path for good. -/
theorem lookup_downloadUrls_after (h : p.downloadUrls.lookup url = some path) (ev : Event) :
    (p.after u ev).downloadUrls.lookup url = some path := by
  obtain ⟨w, c, e | v⟩ := ev
  · cases c <;> exact h
  · cases c with
    | getDownloadURL path' =>
      rw [after]
      split
      case isTrue hall =>
        by_cases hurl : url = v
        · subst hurl
          rw [h, Option.all_some, decide_eq_true_eq] at hall
          rw [hall]
          exact AList.lookup_insert _
        · exact (AList.lookup_insert_ne hurl).trans h
      case isFalse => exact h
    | _ => exact h

theorem field_after (w : World) {c : Call} (v : Reply c) :
    (p.after u ⟨w, c, .ok v⟩).field = (c.picture u).or p.field := by
  cases c with
  | getDownloadURL path' =>
    rw [after]
    split <;> rfl
  | _ => rfl

/-- The field denotes a path. -/
def Records (p : Pictures) (path : String) : Prop :=
  ∃ url, p.field = some (.scalar (.string url)) ∧ p.downloadUrls.lookup url = some path

/-- It does so until something else is written. -/
theorem records_after (h : p.Records path) (ev : Event)
    (hev : ∀ v, ev.call.picture u = some v → ∃ url : String, v = .scalar (.string url) ∧
      p.downloadUrls.lookup url = some path) : (p.after u ev).Records path := by
  obtain ⟨url, hfield, hurl⟩ := h
  obtain ⟨w, c, e | v⟩ := ev
  · cases c <;> exact ⟨url, hfield, hurl⟩
  cases hpicture : c.picture u with
  | none =>
    refine ⟨url, ?_, lookup_downloadUrls_after hurl _⟩
    rw [field_after, hpicture, Option.none_or, hfield]
  | some v' =>
    obtain ⟨url', rfl, hurl'⟩ := hev v' hpicture
    refine ⟨url', ?_, lookup_downloadUrls_after hurl' _⟩
    rw [field_after, hpicture, Option.some_or]

end Pictures

section Run

variable {u : String} {op : PictureOperation δ} {file : XFile} {f₀ : Fleet δ}
  {ms : List (PictureMoment δ)} {c : PicturePool δ}

/-- Only uploads store objects. -/
def PictureOperation.Makes (c : PictureOperation δ × Call) : Prop :=
  c.2.onPictures = true ∧ (c.2.isPutFile = true → c.1.kind = .uploadUserProfilePicture)

theorem confined_pictureOperation (u : String) (op : PictureOperation δ) :
    (op.body.named PictureOperation.parts op).Confined PictureOperation.Makes
      fun f => f.cloud.pictures u := by
  obtain ⟨device, label, kind⟩ := op
  cases kind with
  | uploadUserProfilePicture =>
    have hnamed := Fleet.confined_named confined_uploadUserProfilePicture PictureOperation.device
      (⟨device, label, .uploadUserProfilePicture⟩ : PictureOperation δ)
    refine (hnamed.comp (Cloud.pictures u)).mono fun call hcall => ⟨hcall.2, fun _ => ?_⟩
    rw [hcall.1]
  | signInWithGoogle =>
    have hnamed := Fleet.confined_named confined_signInWithGoogle.unawaited PictureOperation.device
      (⟨device, label, .signInWithGoogle⟩ : PictureOperation δ)
    refine (hnamed.comp (Cloud.pictures u)).mono fun call hcall => ?_
    obtain ⟨hon, hput⟩ := Bool.and_eq_true_iff.mp hcall.2
    refine ⟨hon, fun hput' => ?_⟩
    rw [hput'] at hput
    cases hput

/-- The calls of a run change the pictures as `after` says. -/
theorem showsOn_fleet (u : String) :
    (platform.named PictureOperation.parts).ShowsOn PictureOperation.Makes
      (fun f : Fleet δ => f.cloud.pictures u)
      fun p ev => p.after u (ev.seen PictureOperation.parts) := by
  intro call f f' r hcall h
  exact Fleet.showsOn_named (showsOn_pictures u) PictureOperation.device call f f' r hcall.1 h

omit [DecidableEq δ] in
theorem exists_issued_of_uploads (h : (op, file) ∈ uploads u ms) :
    ∃ f path, .issued f (op, .putFile path file) ∈ ms := by
  obtain ⟨m, hm, heq⟩ := List.mem_filterMap.mp h
  split at heq
  case h_1 f op' path file' =>
    obtain ⟨-, hop⟩ := Option.ite_none_right_eq_some.mp heq
    cases hop
    exact ⟨f, path, hm⟩
  case h_2 => cases heq

/-- A finished operation that stores an image is an upload of it, and the image was picked. -/
theorem exists_uploadMoments (h : PictureRun f₀ ms c) (hdone : (op, .finished) ∈ c.tasks)
    {f : Fleet δ} {path : String} (hput : .issued f (op, .putFile path file) ∈ ms) :
    PickedIn op file ms ∧ ∃ url id,
      UploadMoments ((own op ms).map (Moment.seen PictureOperation.parts)) file url id := by
  have hmakes := (h.run.confined (confined_pictureOperation "") (List.forall_mem_nil _)).2 _ hput
  have hkind : op.kind = .uploadUserProfilePicture := hmakes.2 rfl
  have hbody : op.body = UserController.uploadUserProfilePicture := by
    rw [PictureOperation.body, hkind]
  obtain ⟨f₁, out, f₂, hadmits⟩ := h.run.admits_of_finished h.distinct hdone
  rw [hbody] at hadmits
  have hmem : .issued (f.see op.device) (.putFile path file) ∈
      (own op ms).map (Moment.seen PictureOperation.parts) :=
    List.mem_map_of_mem (f := Moment.seen PictureOperation.parts)
      (List.mem_filter.mpr ⟨hput, decide_eq_true rfl⟩)
  rcases uploadUserProfilePicture_moments hadmits.seen (allAnswered_seen h.answered) with
    hnone | ⟨image, url, id, ⟨w, source, hpicked⟩, hmoments⟩
  · cases hnone _ hmem
  · obtain ⟨-, rfl⟩ := hmoments.only _ _ _ hmem
    refine ⟨?_, url, id, hmoments⟩
    obtain ⟨tr, htr, hforall⟩ := exists_answers_of_seen (List.singleton_sublist.mpr hpicked)
    obtain ⟨_, _, ⟨f, rfl⟩, -, rfl⟩ := List.forall₂_cons_right_iff.mp hforall
    exact ⟨f, source, htr.subset List.mem_cons_self⟩

/-- The three answers of an upload, in the history of the run. -/
theorem UploadMoments.answers_eq {url id : String}
    (h : UploadMoments ((own op ms).map (Moment.seen PictureOperation.parts)) file url id) :
    ∃ pre f₁ mid₁ f₂ mid₂ f₃ post, Async.answers ms =
      pre ++ ⟨f₁, (op, .putFile (picturePath file) file), .ok ()⟩ ::
        (mid₁ ++ ⟨f₂, (op, .getDownloadURL (picturePath file)), .ok url⟩ ::
          (mid₂ ++ ⟨f₃, (op, .update .users id (pictureFields url)), .ok ()⟩ :: post)) := by
  obtain ⟨w₁, w₂, w₃, hanswers⟩ := h.answers
  obtain ⟨tr, htr, hforall⟩ := exists_answers_of_seen hanswers
  obtain ⟨_, _, ⟨f₁, rfl⟩, hforall₁, rfl⟩ := List.forall₂_cons_right_iff.mp hforall
  obtain ⟨_, _, ⟨f₂, rfl⟩, hforall₂, rfl⟩ := List.forall₂_cons_right_iff.mp hforall₁
  obtain ⟨_, _, ⟨f₃, rfl⟩, hforall₃, rfl⟩ := List.forall₂_cons_right_iff.mp hforall₂
  cases hforall₃
  obtain ⟨pre, post₁, hms, htr₁⟩ := exists_split_of_cons_sublist htr
  obtain ⟨mid₁, post₂, rfl, htr₂⟩ := exists_split_of_cons_sublist htr₁
  obtain ⟨mid₂, post, rfl, -⟩ := exists_split_of_cons_sublist htr₂
  exact ⟨pre, f₁, mid₁, f₂, mid₂, f₃, post, hms⟩

/-- A URL that is answered denotes the path it was asked for. -/
theorem PictureRun.denotes (h : PictureRun f₀ ms c) {f : Fleet δ} {path url : String}
    (hmem : ⟨f, (op, .getDownloadURL path), .ok url⟩ ∈ answers ms) :
    ((f.cloud.pictures u).after u
      ⟨f.see op.device, .getDownloadURL path, .ok url⟩).downloadUrls.lookup
      url = some path := by
  obtain ⟨f', hperform⟩ := h.run.performed _ hmem
  obtain ⟨w, heffect, -⟩ := Platform.named_effect_eq_some.mp hperform
  obtain ⟨⟨-, hall⟩, -⟩ := Option.ite_none_right_eq_some.mp
    (show effect (.getDownloadURL path) (f.see op.device) url = some w from heffect)
  have hpictures : ((f.cloud.pictures u).downloadUrls.lookup url).all (· = path) = true := hall
  rw [Pictures.after, if_pos hpictures]
  exact AList.lookup_insert _

end Run

/-- The profile picture of a user is the last one that the user picked and uploaded, if nothing
gets in the way of that upload. -/
theorem lastUpload_shown {u : String} {op : PictureOperation δ} {file : XFile} {f₀ : Fleet δ}
    {ms : List (PictureMoment δ)} {c : PicturePool δ} (h : PictureRun f₀ ms c)
    (hlast : (uploads u ms).getLast? = some (op, file)) (hdone : (op, .finished) ∈ c.tasks)
    (hcalm : Undisturbed u op file ms) :
    PickedIn op file ms ∧ (c.state.cloud.pictures u).Shows file.bytes := by
  obtain ⟨f, path, hput⟩ := exists_issued_of_uploads (List.mem_of_getLast? hlast)
  obtain ⟨hpicked, url, id, hmoments⟩ := exists_uploadMoments h hdone hput
  obtain ⟨pre, f₁, mid₁, f₂, mid₂, f₃, post, hanswers⟩ := hmoments.answers_eq
  obtain ⟨w, hissued, huser⟩ := hmoments.user
  obtain ⟨f', hupdate, hsee⟩ := exists_issued_of_seen hissued
  obtain ⟨user, hcurrent, rfl⟩ := hcalm.user f' id _ hupdate
  have hid : id = user.uid := huser user (hsee ▸ hcurrent)
  have hpicture : (Call.update .users id (pictureFields url)).picture user.uid =
      some (.scalar (.string url)) := by
    simp [Call.picture, pictureFields, hid]
  -- The object is stored, and stays.
  have hstorage : (c.state.cloud.pictures user.uid).storage.lookup (picturePath file) =
      some file.bytes := by
    apply h.run.view_since (showsOn_fleet user.uid) (confined_pictureOperation user.uid)
      (List.forall_mem_nil _) hanswers
        (I := fun p => p.storage.lookup (picturePath file) = some file.bytes)
    · exact AList.lookup_insert _
    · intro ev hev hstored
      apply Pictures.lookup_storage_after hstored
      exact related_of_pairwise hcalm.object hanswers ev hev rfl
  -- Its URL denotes it when it is recorded.
  have hanswers₂ :
      answers ms = (pre ++ ⟨f₁, (op, .putFile (picturePath file) file), .ok ()⟩ :: mid₁)
      ++ ⟨f₂, (op, .getDownloadURL (picturePath file)), .ok url⟩ ::
        (mid₂ ++ ⟨f₃, (op, .update .users id (pictureFields url)), .ok ()⟩ :: post) := by
    simp [hanswers]
  have hurl : (f₃.cloud.pictures user.uid).downloadUrls.lookup url = some (picturePath file) := by
    apply h.run.view_until (showsOn_fleet user.uid) (confined_pictureOperation user.uid)
      (List.forall_mem_nil _) hanswers₂
      (I := fun p => p.downloadUrls.lookup url = some (picturePath file))
    · exact h.denotes (by simp [hanswers])
    · intro ev hev hdenotes
      exact Pictures.lookup_downloadUrls_after hdenotes _
  -- The URL is recorded, and afterwards URLs of the same path only.
  have hrecords : (c.state.cloud.pictures user.uid).Records (picturePath file) := by
    have hanswers₃ : answers ms = (pre ++ ⟨f₁, (op, .putFile (picturePath file) file), .ok ()⟩ ::
        (mid₁ ++ ⟨f₂, (op, .getDownloadURL (picturePath file)), .ok url⟩ :: mid₂)) ++
          ⟨f₃, (op, .update .users id (pictureFields url)), .ok ()⟩ :: post := by
      simp [hanswers]
    apply h.run.view_since (showsOn_fleet user.uid) (confined_pictureOperation user.uid)
      (List.forall_mem_nil _) hanswers₃ (I := (Pictures.Records · (picturePath file)))
    · refine ⟨url, ?_, hurl⟩
      rw [Event.seen, Pictures.field_after, hpicture, Option.some_or]
    · intro ev hev hrecords
      apply Pictures.records_after hrecords
      apply related_of_pairwise hcalm.record hanswers₃ ev hev rfl
      rw [hpicture, Option.isSome_some]
  obtain ⟨url', hfield, hurl'⟩ := hrecords
  exact ⟨hpicked, url', picturePath file, hfield, hurl', hstorage⟩

section Phones

/-- Two phones with a user on each. -/
def twoPhones : Fleet Bool where
  cloud := (World.withUsers [.of "ana" "ana@example.com" "password",
    .of "ben" "ben@example.com" "password"]).cloud
  devices phone := World.withUsers
    [if phone then .of "ben" "ben@example.com" "password"
      else .of "ana" "ana@example.com" "password"]

/-- The upload on a phone. -/
def uploadOn (phone : Bool) : PictureOperation Bool := ⟨phone, 0, .uploadUserProfilePicture⟩

/-- Both users pick an image of the same name. -/
def pickNamesakes (f : Fleet Bool) (c : PictureOperation Bool × Call) : Except Exn (Reply c.2) :=
  scenario (fun _ => fun
    | .showModalBottomSheet => some (.ok (some .gallery))
    | .pickImage _ => some (.ok (some ⟨"me.jpg", if c.1.device then [2] else [1]⟩))
    | _ => none) (f.see c.1.device) c.2

/-- The run in which the operations start and go on in the given order. -/
theorem exists_pictureRun (moves : List (Pool.Move (PictureOperation Bool)))
    (q : List (PictureMoment Bool) × PicturePool Bool → Bool)
    (h : ((⟨twoPhones, []⟩ : PicturePool Bool).follow (platform.named PictureOperation.parts)
      (fun op => op.body.named PictureOperation.parts op) pickNamesakes moves).any (fun out =>
        (decide (out.2.tasks.map Prod.fst).Nodup && decide (AllAnswered (answers out.1)))
          && q out) =
      true) : ∃ ms c, PictureRun twoPhones ms c ∧ q (ms, c) = true := by
  obtain ⟨ms, c, hrun, hall⟩ := Pool.exists_run_of_follow moves h
  obtain ⟨hsound, hq⟩ := Bool.and_eq_true_iff.mp hall
  obtain ⟨hdistinct, hanswered⟩ := Bool.and_eq_true_iff.mp hsound
  exact ⟨ms, c, ⟨hrun, of_decide_eq_true hdistinct, of_decide_eq_true hanswered⟩, hq⟩

/-- One user uploads a picture. -/
theorem lastUpload_shown_alone : ∃ (ms : List (PictureMoment Bool)) (c : PicturePool Bool),
    PictureRun twoPhones ms c ∧
      (uploads "ana" ms).getLast? = some (uploadOn false, ⟨"me.jpg", [1]⟩) ∧
      PickedIn (uploadOn false) ⟨"me.jpg", [1]⟩ ms ∧ (c.state.cloud.pictures "ana").Shows [1] := by
  obtain ⟨ms, c, hrun, hq⟩ := exists_pictureRun
    (.start (uploadOn false) :: List.replicate 10 (.go 0))
    (fun out =>
      (decide ((uploads "ana" out.1).getLast? = some (uploadOn false, ⟨"me.jpg", [1]⟩)) &&
        out.2.tasks.any fun x => decide (x.1 = uploadOn false) && x.2.isFinished) &&
      ((out.1.all fun m => decide ((m.state.see false).currentUser =
          some (.of "ana" "ana@example.com" "password"))) &&
        (decide (((answers out.1).map fun ev => ev.call.2).Pairwise fun (c c' : Call) =>
            c.isPutFile = true → c'.isPutFile = false) &&
          decide (((answers out.1).map fun ev => ev.call.2).Pairwise fun (c c' : Call) =>
            (c.picture "ana").isSome = true → c'.picture "ana" = none))))
    (by decide +kernel)
  obtain ⟨hfirst, hrest⟩ := Bool.and_eq_true_iff.mp hq
  obtain ⟨hlast, hdone⟩ := Bool.and_eq_true_iff.mp hfirst
  obtain ⟨huser, hlater⟩ := Bool.and_eq_true_iff.mp hrest
  obtain ⟨hobject, hrecord⟩ := Bool.and_eq_true_iff.mp hlater
  rw [decide_eq_true_eq, List.pairwise_map] at hobject hrecord
  rw [decide_eq_true_eq] at hlast
  have hcalm : Undisturbed "ana" (uploadOn false) ⟨"me.jpg", [1]⟩ ms := by
    refine ⟨fun f id d hmem => ?_, ?_, ?_⟩
    · exact ⟨_, of_decide_eq_true (List.all_eq_true.mp huser _ hmem), rfl⟩
    · apply hobject.imp
      intro ev ev' hno hev file' hev'
      have hput := hno (by rw [hev]; rfl)
      rw [hev'] at hput
      cases hput
    · apply hrecord.imp
      intro ev ev' hno hop hev v hv
      rw [hno hev] at hv
      cases hv
  exact ⟨ms, c, hrun, hlast, lastUpload_shown hrun hlast (finished_of_any hdone) hcalm⟩

/-- After another user has uploaded an image of the same name, the picture is theirs. -/
theorem not_lastUpload_shown_namesakes : ∃ (ms : List (PictureMoment Bool))
    (c : PicturePool Bool) (op : PictureOperation Bool) (file : XFile), PictureRun twoPhones ms c ∧
      (uploads "ana" ms).getLast? = some (op, file) ∧ (op, .finished) ∈ c.tasks ∧
      ¬ (c.state.cloud.pictures "ana").Shows file.bytes := by
  obtain ⟨ms, c, hrun, hq⟩ := exists_pictureRun
    (.start (uploadOn false) :: List.replicate 10 (.go 0) ++
      .start (uploadOn true) :: List.replicate 10 (.go 1))
    (fun out =>
      (decide ((uploads "ana" out.1).getLast? = some (uploadOn false, ⟨"me.jpg", [1]⟩)) &&
        out.2.tasks.any fun x => decide (x.1 = uploadOn false) && x.2.isFinished) &&
      decide ((out.2.state.cloud.pictures "ana").field =
          some (.scalar (.string "Users/Images/Profile/me.jpg")) ∧
        (out.2.state.cloud.pictures "ana").downloadUrls.lookup "Users/Images/Profile/me.jpg" =
          some "Users/Images/Profile/me.jpg" ∧
        (out.2.state.cloud.pictures "ana").storage.lookup "Users/Images/Profile/me.jpg" = some [2]))
    (by decide +kernel)
  obtain ⟨hfirst, hshown⟩ := Bool.and_eq_true_iff.mp hq
  obtain ⟨hlast, hdone⟩ := Bool.and_eq_true_iff.mp hfirst
  rw [decide_eq_true_eq] at hlast hshown
  refine ⟨ms, c, _, _, hrun, hlast, finished_of_any hdone, ?_⟩
  rintro ⟨url, path, hfield, hurl, hstored⟩
  obtain ⟨hfield', hurl', hstored'⟩ := hshown
  rw [hfield'] at hfield
  cases hfield
  rw [hurl'] at hurl
  cases hurl
  rw [hstored'] at hstored
  cases hstored

end Phones

end AroundMuseo
