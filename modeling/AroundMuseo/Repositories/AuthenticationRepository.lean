import AroundMuseo.Repositories.UserRepository

/-!
# The authentication repository

Sign-in, re-authentication, sign-out and deletion of accounts, and the redirection
to the first screen. `signInWithGoogle` alone swallows exceptions: what no `on`
clause names becomes a `null` result, like a cancelled prompt.
-/

namespace AroundMuseo

open Async Firestore

namespace AuthenticationRepository

/-- The `on` clauses that close the functions of the repository. -/
def rethrowing (p : App α) : App α := do
  try p
  catch e => throw (e.authRethrown "Something went wrong. Please try again.")

/-- Update the LastActive field when the user is logged in -/
def updateLastActive (uid : String) : App Unit := do
  if uid ≠ "" then
    try
      let now ← await .now
      await (.update .users uid (Doc.ofFields [("LastActive", Scalar.timestamp now)]))
    catch _ => pure ()

/-- Function to show relevant screen -/
def screenRedirect : App Unit := do
  match ← authUser with
  | some user =>
    (updateLastActive user.uid).unawaited
    if user.emailVerified then
      await (.getOffAll .navigationMenu)
    else
      let current ← authUser
      await (.getOffAll (.verifyEmail (current.bind (·.email))))
  | none =>
    Prog.modify (·.writeIfNull "isFirstTime" (.bool true))
    let isFirstTime ← Prog.read (·.deviceStorage.lookup "isFirstTime")
    if isFirstTime ≠ some (.bool true) then
      await (.getOffAll .login)
    else
      await (.getOffAll .onBoarding)

/-- `userDoc['Email']` as a `String?`; a missing document or field throws. -/
def snapshotEmail : Option Doc → Except Exn (Option String)
  | none => .error (.other "Bad state: cannot get a field on a snapshot which does not exist")
  | some data =>
    match data.lookup "Email" with
    | none => .error (.other "Bad state: field does not exist within the snapshot")
    | some (.scalar .null) => .ok none
    | some (.scalar (.string email)) => .ok (some email)
    | some _ => .error Exn.typeError

/-- Match the login email to the firestore email of the user -/
def updateFirestoreEmailIfNeeded (uid : String) (authEmail : String) : App Unit := do
  try
    let userDoc ← await (.get .users uid)
    let firestoreEmail ← liftExcept (snapshotEmail userDoc)
    if firestoreEmail ≠ some authEmail then
      await (.update .users uid (Doc.ofFields [("Email", Scalar.string authEmail)]))
  catch _ => pure ()

/-- [Email Authentication] - Login -/
def loginWithEmailAndPassword (email password : String) : App UserCredential :=
  rethrowing do
    let userCredential ← await (.signInWithEmailAndPassword email password)
    updateFirestoreEmailIfNeeded userCredential.user.uid email
    return userCredential

/-- [Email Authentication] - Register -/
def registerWithEmailAndPassword (email password : String) : App UserCredential :=
  rethrowing (await (.createUserWithEmailAndPassword email password))

/-- [Email Verification] - Mail Verification -/
def sendEmailVerification : App Unit :=
  rethrowing do
    match ← authUser with
    | some currentUser => await (.sendEmailVerification currentUser.uid)
    | none => pure ()

/-- [Email Authentication] - Forget Password -/
def sendPasswordResetEmail (email : String) : App Unit :=
  rethrowing (await (.sendPasswordResetEmail email))

/-- [Re-Authenticate] - Re-authenticate User -/
def reAuthenticateWithEmailAndPassword (email password : String) : App Unit :=
  rethrowing do
    match ← authUser with
    | some user => await (.reauthenticateWithCredential user.uid email password)
    | none => throw Exn.nullCheck

/-- The fields that a Google sign-in merges into the user's document. -/
def googleProfile (userAccount : GoogleSignInAccount) (now : DateTime) : Doc :=
  Doc.ofFields [
    ("Email", Scalar.string userAccount.email),
    ("DisplayName", nullable .string userAccount.displayName),
    ("ProfilePicture", nullable .string userAccount.photoUrl),
    ("LastActive", Scalar.timestamp now)]

/-- [Google Authentication] - Google Sign-in -/
def signInWithGoogle : App (Option UserCredential) := do
  try
    await .googleSignOut
    match ← await .googleSignIn with
    | none => pure none
    | some userAccount =>
      let googleAuth ← await (.googleAuthentication userAccount)
      let userCredential ← await (.signInWithCredential googleAuth)
      let now ← await .now
      await (.setMerge .users userCredential.user.uid (googleProfile userAccount now))
      pure (some userCredential)
  catch e =>
    if e.isMapped then throw (e.authRethrown "") else pure none

/-- Helper method to check if the email is registered -/
def isRegisteredEmail : Option String → App Bool
  | some email => do
    try
      let querySnapshot ← await (.whereEq .users "Email" (Scalar.string email))
      pure !querySnapshot.isEmpty
    catch _ => pure false
  | none => pure false

/-- [Logout User] - Valid for any authentication -/
def logout : App Unit :=
  rethrowing do
    await .googleSignOut
    await .authSignOut
    await (.getOffAll .login)

/-- `_auth.currentUser?.delete()` -/
def deleteCurrentUser : App Unit := do
  match ← authUser with
  | some user => await (.deleteUser user.uid)
  | none => pure ()

/-- [Delete User] - Remove User Auth and Firestore Account -/
def deleteAccount : App Unit :=
  rethrowing do
    match ← authUser with
    | some user =>
      UserRepository.removeUserRecord user.uid
      deleteCurrentUser
    | none => throw Exn.nullCheck

/-- [Delete User Auth] - Remove User Auth Account -/
def deleteUser : Option String → App Unit
  | some _ => do
    try deleteCurrentUser
    catch _ => pure ()
  | none => pure ()

end AuthenticationRepository

end AroundMuseo
