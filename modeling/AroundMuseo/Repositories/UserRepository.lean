import AroundMuseo.Platform.Calls

/-!
# The user repository

Reads and writes of the `Users` collection, and the upload of images. Every
function maps its exceptions to texts in the same way.
-/

namespace AroundMuseo

open Async Firestore

/-- `AuthenticationRepository.authUser`, that is `_auth.currentUser`. -/
def authUser : App (Option User) := Prog.read (·.currentUser)

/-- `collection(n).doc(path)`: without a path the client generates a new id. -/
def docRef (n : CollectionName) : Option String → App String
  | some path => pure path
  | none => await (.autoId n)

/-- `collection.doc(path)` of a path that comes from a document. -/
def doc (path : String) : App String :=
  if IsDocumentPath path then pure (documentId path) else throw Exn.invalidPath

/-- It makes no call. -/
theorem exists_doc_eq (path : String) : ∃ r, doc path = Prog.done r := by
  rw [doc]
  split
  · exact ⟨_, rfl⟩
  · exact ⟨_, rfl⟩

namespace UserRepository

/-- The `on` clauses that close each function of the repository. -/
def rethrowing (p : App α) : App α := do
  try p
  catch e => throw (e.firestoreRethrown "Something went wrong. Please try again")

/-- Function to save user data to Firestore -/
def saveUserRecord (user : UserModel) : App Unit :=
  rethrowing do
    let createdNow ← await .now
    let updatedNow ← await .now
    let activeNow ← await .now
    await (.set .users user.id (user.toJson createdNow updatedNow activeNow).1)

/-- Function to fetch user details based on user ID -/
def fetchUserDetails : App UserModel :=
  rethrowing do
    let user ← authUser
    let id ← docRef .users (user.map (·.uid))
    let documentSnapshot ← await (.get .users id)
    let createdNow ← await .now
    let updatedNow ← await .now
    let activeNow ← await .now
    match documentSnapshot with
    | some data =>
        liftExcept (UserModel.fromSnapshot createdNow updatedNow activeNow id (some data))
    | none => return UserModel.empty createdNow updatedNow activeNow

/-- Update any field in specific Users Collection -/
def updateSingleField (json : Doc) : App Unit :=
  rethrowing do
    let user ← authUser
    let id ← docRef .users (user.map (·.uid))
    await (.update .users id json)

/-- Function to remove user data from Firestore -/
def removeUserRecord (userId : String) : App Unit :=
  rethrowing (await (.delete .users userId))

/-- Upload any Image -/
def uploadImage (path : String) (image : XFile) : App String :=
  rethrowing do
    await (.putFile (path ++ image.name) image)
    await (.getDownloadURL (path ++ image.name))

end UserRepository

end AroundMuseo
