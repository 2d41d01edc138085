import AroundMuseo.Platform.Frames
import AroundMuseo.Platform.Rules

/-!
# The directory of accounts and the audit log of a run

For questions about accounts a run is its audit log: who proved to be whom, and which
accounts and which documents of `Users` came into being or went. The directory is the view of
the state that the log determines: the uids with an account, the uids with a document, and
the uid that is signed in.
-/

namespace AroundMuseo

open Async Firestore Firestore.Collection

/-- What an event means for the accounts. -/
inductive Mark where
  /-- The Google prompt was cancelled. -/
  | cancelled
  /-- A call of the Google sign-in threw before a credential was accepted. -/
  | failed (e : Exn)
  /-- Firebase accepted a Google credential of the account and signed it in. -/
  | accepted (uid : String)
  | reauthenticated (uid : String)
  | registered (uid : String)
  | signedIn (uid : String)
  | signedOut
  /-- The document `Users/uid` was written as a whole or merged. -/
  | stored (uid : String)
  /-- The document `Users/uid`, which existed, was deleted. -/
  | docRemoved (uid : String)
  /-- The account was deleted. -/
  | userRemoved (uid : String)
  deriving DecidableEq, Repr

/-- The mark that an event leaves in the log. -/
def Mark.ofEvent : Event → Option Mark
  | ⟨_, .googleSignIn, .ok none⟩ => some .cancelled
  | ⟨_, .googleSignOut, .error e⟩ | ⟨_, .googleSignIn, .error e⟩
  | ⟨_, .googleAuthentication _, .error e⟩ | ⟨_, .signInWithCredential _, .error e⟩ =>
    some (.failed e)
  | ⟨_, .signInWithCredential _, .ok c⟩ => some (.accepted c.user.uid)
  | ⟨_, .reauthenticateWithCredential uid _ _, .ok _⟩ => some (.reauthenticated uid)
  | ⟨_, .createUserWithEmailAndPassword _ _, .ok c⟩ => some (.registered c.user.uid)
  | ⟨_, .signInWithEmailAndPassword _ _, .ok c⟩ => some (.signedIn c.user.uid)
  | ⟨_, .authSignOut, .ok _⟩ => some .signedOut
  | ⟨_, .set .users id _, .ok _⟩ | ⟨_, .setMerge .users id _, .ok _⟩ => some (.stored id)
  | ⟨_, .add .users _, .ok id⟩ => some (.stored id)
  | ⟨w, .delete .users id, .ok _⟩ => if id ∈ w.db .users then some (.docRemoved id) else none
  | ⟨_, .deleteUser uid, .ok _⟩ => some (.userRemoved uid)
  | _ => none

/-- The audit log of a run. -/
def audit (tr : List Event) : List Mark := tr.filterMap Mark.ofEvent

@[simp] theorem audit_nil : audit [] = [] := rfl

@[simp] theorem audit_append (tr tr' : List Event) : audit (tr ++ tr') = audit tr ++ audit tr' :=
  List.filterMap_append

theorem audit_cons (ev : Event) (tr : List Event) : audit (ev :: tr) = audit [ev] ++ audit tr :=
  audit_append [ev] tr

/-- Closing the loader and reporting an error leave no mark. -/
@[simp] theorem audit_catchEvents (w : World) (kind : SnackBarKind) (e : Exn) :
    audit (catchEvents w kind e) = [] := rfl

/-- The screens that a run navigates to. -/
def screens (tr : List Event) : List Screen :=
  tr.filterMap fun ev => match ev.call with
    | .getTo screen | .getOff screen | .getOffAll screen => some screen
    | _ => none

@[simp] theorem screens_append (tr tr' : List Event) :
    screens (tr ++ tr') = screens tr ++ screens tr' :=
  List.filterMap_append

@[simp] theorem screens_catchEvents (w : World) (kind : SnackBarKind) (e : Exn) :
    screens (catchEvents w kind e) = [] := rfl

/-- The check of the connection leaves no mark. -/
theorem log_checkConnectivity {ev : Event} (hev : ev.call = .checkConnectivity)
    (tr : List Event) : audit (ev :: tr) = audit tr ∧ screens (ev :: tr) = screens tr := by
  obtain ⟨w, c, r⟩ := ev
  cases hev
  cases r <;> exact ⟨rfl, rfl⟩

section Rules

variable {w : World} {α β : Type} {body : App Unit}
  {L : List Mark → List Screen → Option User → Prop}

/-- The loader around an operation leaves no mark and keeps the session. -/
theorem wp_withLoader_log {text : String} {kind : SnackBarKind}
    (h : body.wp platform (fun _ tr w' => L (audit tr) (screens tr) w'.currentUser)
      (w.withNav (w.nav.push (.loader text docerAnimation)))) :
    (withLoader text kind body).wp platform
      (fun _ tr w' => L (audit tr) (screens tr) w'.currentUser) w := by
  refine wp_withLoader.mpr (Prog.wp_mono h ?_)
  rintro (e | ⟨⟩) tr w' hL
  · show L (audit (tr ++ catchEvents w' kind e)) (screens (tr ++ catchEvents w' kind e)) _
    rwa [audit_append, audit_catchEvents, screens_append, screens_catchEvents, List.append_nil,
      List.append_nil]
  · exact hL

/-- Without a connection nothing is logged. -/
theorem wp_whenConnected_log (hnil : L [] [] w.currentUser)
    (h : body.wp platform (fun _ tr w' => L (audit tr) (screens tr) w'.currentUser) w) :
    (whenConnected body).wp platform
      (fun _ tr w' => L (audit tr) (screens tr) w'.currentUser) w := by
  refine wp_whenConnected (fun ev hev e => ?_) (fun ev hev => ?_) fun ev hev => ?_
  · rwa [(log_checkConnectivity hev _).1, (log_checkConnectivity hev _).2]
  · rwa [(log_checkConnectivity hev _).1, (log_checkConnectivity hev _).2]
  · simpa only [(log_checkConnectivity hev _).1, (log_checkConnectivity hev _).2] using h

/-- With a form that is not accepted nothing is logged. -/
theorem wp_whenValid_log {form : Option Bool} (hnil : L [] [] w.currentUser)
    (h : body.wp platform (fun _ tr w' => L (audit tr) (screens tr) w'.currentUser) w) :
    (whenValid form body).wp platform
      (fun _ tr w' => L (audit tr) (screens tr) w'.currentUser) w :=
  wp_whenValid hnil hnil h

/-- What follows an operation may be left out if it leaves no mark. -/
theorem wp_bind_audit {p : App α} {f : α → App β} {L : List Mark → Prop}
    (hp : p.wp platform (fun _ tr _ => L (audit tr)) w)
    (hf : ∀ a w, (f a).wp platform (fun _ tr _ => audit tr = []) w) :
    (p >>= f).wp platform (fun _ tr _ => L (audit tr)) w := by
  refine Prog.wp_bind_of hp (fun _ _ _ h => h) fun a tr w' h => Prog.wp_mono (hf a w') ?_
  intro r tr' w'' htr'
  rwa [audit_append, htr', List.append_nil]

end Rules

/-- Which uids have an account and a document, and which one is signed in. -/
@[ext] structure Directory where
  accounts : Set String
  docs : Set String
  session : Option String

/-- The directory of a state. -/
def World.directory (w : World) : Directory where
  accounts := {x | x ∈ w.accounts}
  docs := {x | x ∈ w.db .users}
  session := w.currentUser.map (·.uid)

theorem World.mem_docs {w : World} {x : String} : x ∈ w.directory.docs ↔ x ∈ w.db .users :=
  Iff.rfl

/-- The directory is a view of the services. -/
def Directory.ofServices : (AList fun _ : String => Account) × Option User ×
    (CollectionName → Collection) × Navigator RouteContent → Directory
  | (accounts, currentUser, db, _) =>
    { accounts := {x | x ∈ accounts}
      docs := {x | x ∈ db .users}
      session := currentUser.map fun u => u.uid }

/-- Synchronous steps that leave the services alone leave the directory alone. -/
theorem Local.directory {α : Type} {p : App α} (h : Local p) :
    p.Confined (fun _ => True) World.directory :=
  Prog.Confined.mono (Prog.Confined.comp h fun x => Directory.ofServices x.1) fun _ _ => trivial

namespace Directory

/-- What a mark does to the directory. -/
def act (d : Directory) : Mark → Directory
  | .accepted x | .registered x => { d with accounts := insert x d.accounts, session := some x }
  | .signedIn x => { d with session := some x }
  | .signedOut => { d with session := none }
  | .stored x => { d with docs := insert x d.docs }
  | .docRemoved x => { d with docs := d.docs \ {x} }
  | .userRemoved x =>
    { d with accounts := d.accounts \ {x}, session := d.session.filter (· ≠ x) }
  | .cancelled | .failed _ | .reauthenticated _ => d

/-- What an event does to the directory, which is what its mark does. -/
def actEvent (d : Directory) (ev : Event) : Directory :=
  match Mark.ofEvent ev with
  | some m => d.act m
  | none => d

/-- The events act on the directory as their marks do. -/
theorem foldl_actEvent (d : Directory) (tr : List Event) :
    tr.foldl actEvent d = (audit tr).foldl act d := by
  rw [audit, List.foldl_filterMap]
  congr 1
  funext d ev
  unfold actEvent
  split <;> simp_all

end Directory

/-- A collection other than the users is no part of the directory. -/
theorem World.directory_setDb_of_ne (w : World) {n : CollectionName} (c : Collection)
    (h : n ≠ .users) : (w.setDb n c).directory = w.directory := by
  simp [directory, setDb_db_of_ne w c h.symm]

/-- The documents of the directory are the ids of the users collection. -/
theorem World.directory_setDb_users (w : World) (c : Collection) :
    (w.setDb .users c).directory = { w.directory with docs := {x | x ∈ c} } := by
  simp [directory]

/-- A password sign-in, a registration or an accepted credential makes its account
the session. -/
theorem World.directory_signIn (w : World) (u : User) :
    (w.signIn u).directory = { w.directory with session := some u.uid } := rfl

/-- A recorded account is in the directory. -/
theorem World.directory_recordAccount (w : World) (u : User) (f : String → String → Bool) :
    (w.recordAccount u f).directory =
      { w.directory with accounts := insert u.uid w.directory.accounts } := by
  ext x <;> simp [directory, recordAccount]

theorem World.directory_deleteAccount (w : World) (x : String) :
    (w.deleteAccount x).directory = w.directory.act (.userRemoved x) := by
  apply Directory.ext
  · ext y
    simp [directory, deleteAccount, Directory.act, and_comm]
  · rfl
  · cases hu : w.currentUser with
    | none => simp [directory, deleteAccount, Directory.act, hu]
    | some u =>
      by_cases h : u.uid = x
        <;> simp [directory, deleteAccount, Directory.act, hu, h, Option.filter]

/-- A failed call leaves the directory alone, and so does the mark of its event. -/
theorem World.directory_of_error (w : World) (c : Call) (e : Exn) :
    w.directory.actEvent ⟨w, c, .error e⟩ = w.directory := by
  cases c <;> try rfl
  case set n id d => cases n <;> rfl
  case setMerge n id d => cases n <;> rfl
  case delete n id => cases n <;> rfl
  case add n d => cases n <;> rfl

/-- A write to another collection is not seen, and one to `Users` shows its keys. -/
theorem World.directory_setDb (w : World) (n : CollectionName) (c : Collection) :
    (w.setDb n c).directory =
      if n = .users then { w.directory with docs := {x | x ∈ c} } else w.directory := by
  split
  case isTrue h => rw [h, directory_setDb_users]
  case isFalse h => exact w.directory_setDb_of_ne c h

section Effect

variable {w w' : World}

/-- A Google credential creates the account if it is new. -/
theorem directory_signInWithCredential {g : GoogleSignInAuthentication} {c : UserCredential}
    (h : effect (.signInWithCredential g) w c = some w') :
    w'.directory = w.directory.act (.accepted c.user.uid) := by
  simp only [effect] at h
  split at h
  all_goals
    obtain ⟨-, hw⟩ := Option.ite_none_right_eq_some.mp h
    rw [← Option.some.inj hw, World.directory_signIn, World.directory_recordAccount]
    rfl

/-- A password creates no account. -/
theorem directory_signInWithEmailAndPassword {email password : String} {c : UserCredential}
    (h : effect (.signInWithEmailAndPassword email password) w c = some w') :
    w'.directory = w.directory.act (.signedIn c.user.uid) := by
  simp only [effect] at h
  split at h
  · obtain ⟨-, hw⟩ := Option.ite_none_right_eq_some.mp h
    rw [← Option.some.inj hw, World.directory_signIn]
    rfl
  · cases h

/-- A registration creates an account. -/
theorem directory_createUserWithEmailAndPassword {email password : String} {c : UserCredential}
    (h : effect (.createUserWithEmailAndPassword email password) w c = some w') :
    w'.directory = w.directory.act (.registered c.user.uid) := by
  obtain ⟨-, hw⟩ := Option.ite_none_left_eq_some.mp h
  rw [← Option.some.inj hw, World.directory_signIn, World.directory_recordAccount]
  rfl

/-- Writing a whole document of any collection. -/
theorem directory_set (n : CollectionName) (id : String) (d : Doc) :
    (w.setDb n ((w.db n).set id d)).directory =
      w.directory.actEvent ⟨w, .set n id d, .ok ()⟩ := by
  rw [World.directory_setDb]
  cases n <;> try rfl
  ext x <;> simp [Directory.actEvent, Mark.ofEvent, Directory.act, World.directory, mem_set]

theorem directory_add (n : CollectionName) (d : Doc) (id : String) :
    (w.setDb n ((w.db n).set id d)).directory =
      w.directory.actEvent ⟨w, .add n d, .ok id⟩ := by
  rw [directory_set]
  cases n <;> rfl

/-- A merge creates the document if it is absent. -/
theorem directory_setMerge (n : CollectionName) (id : String) (d : Doc) :
    (w.setDb n ((w.db n).setMerge id d)).directory =
      w.directory.actEvent ⟨w, .setMerge n id d, .ok ()⟩ := by
  rw [World.directory_setDb]
  cases n <;> try rfl
  ext x <;> simp [Directory.actEvent, Mark.ofEvent, Directory.act, World.directory, mem_setMerge]

theorem directory_delete (n : CollectionName) (id : String) :
    (w.setDb n ((w.db n).delete id)).directory =
      w.directory.actEvent ⟨w, .delete n id, .ok ()⟩ := by
  rw [World.directory_setDb]
  cases n <;> try rfl
  by_cases hid : id ∈ w.db .users
  · ext x <;> simp [Directory.actEvent, Mark.ofEvent, Directory.act, World.directory, mem_delete,
      hid, and_comm]
  · have hne : ∀ x ∈ w.db .users, x ≠ id := fun x hx he => hid (he ▸ hx)
    ext x <;> simp [Directory.actEvent, Mark.ofEvent, World.directory, mem_delete, hid]
    exact hne x

/-- A change of a document's fields, or of another collection, is not seen. -/
theorem directory_update {n : CollectionName} {id : String} {d : Doc}
    (h : effect (.update n id d) w () = some w') : w'.directory = w.directory := by
  obtain ⟨c, hc, rfl⟩ := Option.map_eq_some_iff.mp h
  rw [World.directory_setDb]
  split
  case isTrue hn =>
    subst hn
    ext x <;> simp [World.directory, mem_update hc]
  case isFalse => rfl

/-- Who is signed in is not changed by refreshing their data. -/
theorem directory_reload (w : World) : w.reload.directory = w.directory := by
  rw [World.directory, World.directory, World.reload]
  congr 1
  cases w.currentUser with
  | none => rfl
  | some u => cases h : w.accounts.lookup u.uid <;> simp [h, Account.toUser]

/-- The favourites are no part of the directory. -/
theorem directory_runTransaction {id : String} {tx : FavoritesTransaction}
    (h : w.runTransaction id tx = some w') : w'.directory = w.directory := by
  unfold World.runTransaction at h
  split at h
  · rw [← Option.some.inj h, World.directory_setDb_of_ne _ _ (by decide)]
  · rw [← Option.some.inj h]
  · cases h

end Effect

/-- The audit log is complete: no call changes the directory but by its mark. -/
theorem platform_shows_directory : platform.Shows World.directory Directory.actEvent := by
  rintro c w w' (e | v) h
  · have hw : w = w' := by
      simp only [Platform.perform, Option.ite_none_right_eq_some, Option.some.injEq] at h
      exact h.2
    rw [← hw, w.directory_of_error c e]
  simp only [Platform.perform_ok, platform] at h
  cases c with
  | signInWithCredential g => exact directory_signInWithCredential h
  | signInWithEmailAndPassword email password => exact directory_signInWithEmailAndPassword h
  | createUserWithEmailAndPassword email password =>
    exact directory_createUserWithEmailAndPassword h
  | deleteUser uid =>
    obtain ⟨-, hw⟩ := Option.ite_none_right_eq_some.mp h
    rw [← Option.some.inj hw, World.directory_deleteAccount]
    rfl
  | authSignOut =>
    cases h
    rfl
  | set n id d =>
    cases h
    exact directory_set n id d
  | setMerge n id d =>
    cases h
    exact directory_setMerge n id d
  | delete n id =>
    cases h
    exact directory_delete n id
  | update n id d => exact directory_update h
  | runTransaction id tx => exact directory_runTransaction h
  | add n d =>
    obtain ⟨-, hw⟩ := Option.ite_none_left_eq_some.mp h
    rw [← Option.some.inj hw]
    exact directory_add n d v
  | googleSignIn =>
    cases h
    cases v <;> rfl
  | reload =>
    cases h
    exact directory_reload w
  | getTo | getOff | getOffAll | googleSignOut | checkConnectivity | sendPasswordResetEmail
  | verifyBeforeUpdateEmail | putFile | showModalBottomSheet | pickImage | now | snackBar
  | sendEmailVerification | bitmapDescriptorAsset | animateCamera | addInfoWindow =>
    cases h
    rfl
  | googleAuthentication | reauthenticateWithCredential | get | getAll | whereEq | whereEqLimit
  | getDownloadURL | mapController | openLoadingDialog | stopLoading =>
    obtain ⟨-, hw⟩ := Option.ite_none_right_eq_some.mp h
    cases hw
    rfl
  | autoId n =>
    obtain ⟨-, hw⟩ := Option.ite_none_left_eq_some.mp h
    cases hw
    rfl

end AroundMuseo
