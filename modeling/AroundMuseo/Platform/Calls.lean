import AroundMuseo.Core.Run
import AroundMuseo.Platform.World
import AroundMuseo.Repositories.FavoritesTransaction

/-!
# The calls of the app and what they do

One constructor for each platform function that the modelled code calls, with the
type of its answer. `effect` states the documented behaviour: which answers are
possible in a state, and the state after one. An awaited call may throw any
exception instead and then changes nothing; the calls at the end of the list are
synchronous and cannot throw.
-/

namespace AroundMuseo

open Firestore

inductive SnackBarKind where
  | success | warning | error | plain
  deriving DecidableEq, Repr

inductive Call where
  /-- `Connectivity().checkConnectivity()` -/
  | checkConnectivity
  /-- `GoogleSignIn().signOut()` -/
  | googleSignOut
  /-- `signin.signIn()`: the account prompt, `null` when it is cancelled. -/
  | googleSignIn
  /-- `userAccount.authentication` -/
  | googleAuthentication (account : GoogleSignInAccount)
  /-- `_auth.signInWithCredential(credentials)` -/
  | signInWithCredential (credentials : GoogleSignInAuthentication)
  | signInWithEmailAndPassword (email password : String)
  | createUserWithEmailAndPassword (email password : String)
  /-- `user.reauthenticateWithCredential(EmailAuthProvider.credential(email, password))` -/
  | reauthenticateWithCredential (uid email password : String)
  /-- `user.delete()` -/
  | deleteUser (uid : String)
  /-- `FirebaseAuth.instance.signOut()` -/
  | authSignOut
  | sendPasswordResetEmail (email : String)
  /-- `user.sendEmailVerification()` -/
  | sendEmailVerification (uid : String)
  /-- `FirebaseAuth.instance.currentUser?.reload()` -/
  | reload
  /-- `user.verifyBeforeUpdateEmail(email)` -/
  | verifyBeforeUpdateEmail (uid email : String)
  /-- `collection(n).doc(id).get()` -/
  | get (n : CollectionName) (id : String)
  /-- `collection(n).doc(id).set(d)` -/
  | set (n : CollectionName) (id : String) (d : Doc)
  /-- `collection(n).doc(id).set(d, SetOptions(merge: true))` -/
  | setMerge (n : CollectionName) (id : String) (d : Doc)
  /-- `collection(n).doc(id).update(d)` -/
  | update (n : CollectionName) (id : String) (d : Doc)
  /-- `collection(n).doc(id).delete()` -/
  | delete (n : CollectionName) (id : String)
  /-- `collection(n).add(d)`, which picks the id. -/
  | add (n : CollectionName) (d : Doc)
  /-- `collection(n).get()` -/
  | getAll (n : CollectionName)
  /-- `collection(n).where(field, isEqualTo: v).get()` -/
  | whereEq (n : CollectionName) (field : String) (v : Value)
  /-- `collection(n).where(field, isEqualTo: v).limit(limit).get()` -/
  | whereEqLimit (n : CollectionName) (field : String) (v : Value) (limit : Nat)
  /-- `_db.runTransaction(..)` on the document `id` of `User_Favorites`. -/
  | runTransaction (id : String) (tx : FavoritesTransaction)
  /-- `ref(path).putFile(file)` -/
  | putFile (path : String) (file : XFile)
  /-- `ref(path).getDownloadURL()` -/
  | getDownloadURL (path : String)
  /-- The bottom sheet that asks for an image source; it is gone when it answers. -/
  | showModalBottomSheet
  | pickImage (source : ImageSource)
  /-- `BitmapDescriptor.asset(.., assetPath)` -/
  | bitmapDescriptorAsset (assetPath : String)
  /-- `mapController.future`, which completes when the map is created. -/
  | mapController
  /-- `controller.animateCamera(..)` -/
  | animateCamera (target : LatLng)
  /-- `DateTime.now()` and `Timestamp.now()` -/
  | now
  /-- `collection(n).doc()`: the id that the client generates for a new document. -/
  | autoId (n : CollectionName)
  /-- `FullScreenLoader`'s `showDialog(..)`; the answer is the route it pushed. -/
  | openLoadingDialog (text animation : String)
  /-- `Navigator.of(Get.overlayContext!).pop()`; the answer is the route it popped. -/
  | stopLoading
  /-- `Get.to(..)` -/
  | getTo (screen : Screen)
  /-- `Get.off(..)` -/
  | getOff (screen : Screen)
  /-- `Get.offAll(..)` -/
  | getOffAll (screen : Screen)
  | snackBar (kind : SnackBarKind) (title message : String)
  /-- `_customInfoWindowController.addInfoWindow!(..)` with the card of a location. -/
  | addInfoWindow (location : LocationModel) (position : LatLng)
  deriving DecidableEq

/-- What a call is answered by. -/
@[reducible] def Reply : Call → Type
  | .checkConnectivity => List ConnectivityResult
  | .googleSignIn => Option GoogleSignInAccount
  | .googleAuthentication _ => GoogleSignInAuthentication
  | .signInWithCredential _ => UserCredential
  | .signInWithEmailAndPassword _ _ => UserCredential
  | .createUserWithEmailAndPassword _ _ => UserCredential
  | .get _ _ => Option Doc
  | .add _ _ => String
  | .getAll _ | .whereEq _ _ _ | .whereEqLimit _ _ _ _ => List (String × Doc)
  | .getDownloadURL _ => String
  | .showModalBottomSheet => Option ImageSource
  | .pickImage _ => Option XFile
  | .bitmapDescriptorAsset _ => BitmapDescriptor
  | .now => DateTime
  | .autoId _ => String
  | .openLoadingDialog _ _ => Nat
  | .stopLoading => Option (Nat × RouteContent)
  | .googleSignOut | .reauthenticateWithCredential _ _ _ | .deleteUser _ | .authSignOut
  | .sendPasswordResetEmail _ | .sendEmailVerification _ | .reload | .verifyBeforeUpdateEmail _ _
  | .set _ _ _ | .setMerge _ _ _ | .update _ _ _ | .delete _ _ | .runTransaction _ _
  | .putFile _ _ | .mapController | .animateCamera _ | .getTo _ | .getOff _ | .getOffAll _
  | .snackBar _ _ _ | .addInfoWindow _ _ => Unit

/-- The calls whose result the code awaits. -/
def Call.awaited : Call → Bool
  | .now | .autoId _ | .openLoadingDialog _ _ | .stopLoading | .getTo _ | .getOff _ | .getOffAll _
  | .snackBar _ _ _ | .addInfoWindow _ _ => false
  | _ => true

namespace World

/-- The account of a successful sign-in becomes the current user. -/
def signIn (w : World) (u : User) : World := { w with currentUser := some u }

/-- Firebase records what it tells of an account under the account's uid. -/
def recordAccount (w : World) (u : User) (accepts : String → String → Bool) : World :=
  { w with accounts := w.accounts.insert u.uid (u.toAccount accepts) }

/-- Deleting an account ends its session. -/
def deleteAccount (w : World) (uid : String) : World :=
  { w with
    accounts := w.accounts.erase uid
    currentUser := w.currentUser.filter (·.uid ≠ uid) }

/-- Refresh what the app knows of the current user, if one is signed in. -/
def reload (w : World) : World :=
  { w with currentUser := w.currentUser.map fun u =>
      ((w.accounts.lookup u.uid).map (·.toUser u.uid)).getD u }

/-- The effect of a favourites transaction on the document `id`. -/
def runTransaction (w : World) (id : String) (tx : FavoritesTransaction) : Option World :=
  match tx.apply ((w.db .userFavorites).lookup id) with
  | .ok (some d) => some (w.setDb .userFavorites ((w.db .userFavorites).set id d))
  | .ok none => some w
  | .error _ => none

end World

/-- The state after call `c` was answered by `v`, or `none` if it cannot be.

Firebase Auth and Google: a Google credential belongs to an account whose email is
known to Firebase, or to a new one with the email of the Google account; signing in
makes it the current user. A password sign-in and a re-authentication succeed only
with a pair that the account accepts, the latter only for the current user.

Firestore: no document has an empty id, and reading one cannot be answered. -/
def effect : (c : Call) → World → Reply c → Option World
  | .checkConnectivity, w, _ => some w
  | .googleSignOut, w, _ => some w
  | .googleSignIn, w, _ => some w
  | .googleAuthentication account, w, v => if v.account = account then some w else none
  | .signInWithCredential credentials, w, v =>
    match w.accounts.lookup v.user.uid with
    | some a =>
      if v.user.email = a.email then some ((w.recordAccount v.user a.accepts).signIn v.user)
      else none
    | none =>
      if v.user.email = some credentials.account.email then
        some ((w.recordAccount v.user fun _ _ => false).signIn v.user)
      else none
  | .signInWithEmailAndPassword email password, w, v =>
    match w.accounts.lookup v.user.uid with
    | some a =>
      if a.accepts email password ∧ v.user = a.toUser v.user.uid then some (w.signIn v.user)
      else none
    | none => none
  | .createUserWithEmailAndPassword email password, w, v =>
    if v.user.uid ∈ w.accounts ∨ v.user.uid = "" then none
    else some ((w.recordAccount v.user fun e p =>
      e.toLower == email.toLower && p == password).signIn v.user)
  | .reauthenticateWithCredential uid email password, w, _ =>
    if w.currentUser.any (·.uid = uid) ∧
      (w.accounts.lookup uid).any (·.accepts email password) then some w else none
  | .deleteUser uid, w, _ => if uid ∈ w.accounts then some (w.deleteAccount uid) else none
  | .authSignOut, w, _ => some { w with currentUser := none }
  | .sendPasswordResetEmail _, w, _ => some w
  | .sendEmailVerification _, w, _ => some w
  | .reload, w, _ => some w.reload
  | .verifyBeforeUpdateEmail _ _, w, _ => some w
  | .get n id, w, v => if id ≠ "" ∧ v = (w.db n).lookup id then some w else none
  | .set n id d, w, _ => some (w.setDb n ((w.db n).set id d))
  | .setMerge n id d, w, _ => some (w.setDb n ((w.db n).setMerge id d))
  | .update n id d, w, _ => ((w.db n).update id d).map (w.setDb n)
  | .delete n id, w, _ => some (w.setDb n ((w.db n).delete id))
  | .add n d, w, v =>
    if v ∈ w.db n ∨ v = "" then none else some (w.setDb n ((w.db n).set v d))
  | .getAll n, w, v => if v = (w.db n).docs then some w else none
  | .whereEq n field x, w, v => if v = (w.db n).whereEq field x then some w else none
  | .whereEqLimit n field x limit, w, v =>
    if v = ((w.db n).whereEq field x).take limit then some w else none
  | .runTransaction id tx, w, _ => w.runTransaction id tx
  | .putFile path file, w, _ => some { w with storage := w.storage.insert path file.bytes }
  | .getDownloadURL path, w, v =>
    if path ∈ w.storage ∧ (w.downloadUrls.lookup v).all (· = path) then
      some { w with downloadUrls := w.downloadUrls.insert v path }
    else none
  | .showModalBottomSheet, w, _ => some w
  | .pickImage _, w, _ => some w
  | .bitmapDescriptorAsset _, w, _ => some w
  | .mapController, w, _ => if w.mapScreen.mapCreated then some w else none
  | .animateCamera _, w, _ => some w
  | .now, w, _ => some w
  | .autoId n, w, v => if v ∈ w.db n ∨ v = "" then none else some w
  | .openLoadingDialog text animation, w, v =>
    if v = w.nav.next then some (w.withNav (w.nav.push (.loader text animation))) else none
  | .stopLoading, w, v => if v = w.nav.top then some (w.withNav w.nav.pop) else none
  | .getTo screen, w, _ => some (w.withNav (getTo screen w.nav))
  | .getOff screen, w, _ => some (w.withNav (getOff screen w.nav))
  | .getOffAll screen, w, _ => some (w.withNav (w.nav.offAll (.page screen)))
  | .snackBar _ _ _, w, _ => some w
  | .addInfoWindow _ _, w, _ => some w

/-- The platform of the app. -/
def platform : Async.Platform Reply World where
  awaited := Call.awaited
  effect := effect

/-- The asynchronous functions of the app. -/
abbrev App (α : Type) := Async.Prog Reply World Exn α

/-- A call with its outcome and the state that it was made in. -/
abbrev Event := Async.Event Reply World Exn

/-- Await a platform function, or call a synchronous one. -/
abbrev await (c : Call) : App (Reply c) := Async.Prog.invoke c

/-- Throw what a decoder throws. -/
def liftExcept : Except Exn α → App α := Async.Prog.done

end AroundMuseo
