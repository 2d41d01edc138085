import AroundMuseo.Core.Navigator
import AroundMuseo.Models.LocationCategoryModel
import AroundMuseo.Models.LocationModel
import AroundMuseo.Models.MuseumLogbookModel
import AroundMuseo.Models.UserModel
import Mathlib.Data.Finset.Basic

/-!
# The state of the app and of its services

`World` puts together what the functions of the app read and write: Firebase Auth,
the collections of Firestore, Cloud Storage, the navigator, the device storage and
the state of the controllers. The first three are remote and change only by an
answered call; the rest lives in the app.
-/

namespace AroundMuseo

open Firestore

/-- The account that the Google prompt offers. -/
structure GoogleSignInAccount where
  id : String
  email : String
  displayName : Option String := none
  photoUrl : Option String := none
  deriving DecidableEq, Repr

/-- The access and id tokens of a Google account. They are opaque, and what they
prove is the account. -/
structure GoogleSignInAuthentication where
  account : GoogleSignInAccount
  deriving DecidableEq, Repr

/-- A Firebase `User`: what the app knows of the account that is signed in. -/
structure User where
  uid : String
  email : Option String
  emailVerified : Bool
  /-- The provider ids of `providerData`. -/
  providerData : List String
  deriving DecidableEq, Repr

/-- On success the SDK fills in the user. -/
structure UserCredential where
  user : User
  deriving DecidableEq, Repr

/-- An account of Firebase Auth. `accepts` tells which email and password pairs
authenticate it; how Firebase matches the spelling of an email is its own affair. -/
structure Account where
  email : Option String
  emailVerified : Bool
  providerData : List String
  accepts : String → String → Bool

/-- What the app is told of an account. -/
def Account.toUser (uid : String) (a : Account) : User where
  uid
  email := a.email
  emailVerified := a.emailVerified
  providerData := a.providerData

/-- An account with the data that the app is told. -/
def User.toAccount (u : User) (accepts : String → String → Bool) : Account where
  email := u.email
  emailVerified := u.emailVerified
  providerData := u.providerData
  accepts

/-- The collections of Firestore, by their names there. -/
inductive CollectionName where
  /-- `Users` -/
  | users
  /-- `User_Favorites` -/
  | userFavorites
  /-- `Museum_Logbook` -/
  | museumLogbook
  /-- `QR_Code` -/
  | qrCode
  /-- `Locations` -/
  | locations
  /-- `Location_Categories` -/
  | locationCategories
  deriving DecidableEq, Repr

inductive ConnectivityResult where
  | bluetooth | wifi | ethernet | mobile | none | vpn | other
  deriving DecidableEq, Repr

inductive ImageSource where
  | camera | gallery
  deriving DecidableEq, Repr

/-- A picked image with the content of its file. -/
structure XFile where
  name : String
  bytes : List UInt8
  deriving DecidableEq, Repr

inductive Screen where
  | onBoarding
  | login
  | verifyEmail (email : Option String)
  /-- `SuccessScreen` of a verified email, whose button calls `screenRedirect`. -/
  | success
  | resetPassword (email : String)
  | navigationMenu
  | profile
  | changeEmail
  | reAuthLoginFormForDeletion
  | reAuthLoginFormEmailChange
  | qrCodeScanner
  | arContentCamera
  deriving DecidableEq, Repr

/-- What a route of the navigator shows. -/
inductive RouteContent where
  | page (screen : Screen)
  | dialog (title : String)
  | loader (text animation : String)
  deriving DecidableEq, Repr

/-- The name of a page's route, which is the type of its widget. -/
def Screen.routeName : Screen → String
  | onBoarding => "/OnBoardingScreen"
  | login => "/LoginScreen"
  | verifyEmail _ => "/VerifyEmailScreen"
  | success => "/SuccessScreen"
  | resetPassword _ => "/ResetPasswordScreen"
  | navigationMenu => "/NavigationMenu"
  | profile => "/ProfileScreen"
  | changeEmail => "/ChangeEmail"
  | reAuthLoginFormForDeletion => "/ReAuthLoginFormForDeletion"
  | reAuthLoginFormEmailChange => "/ReAuthLoginFormEmailChange"
  | qrCodeScanner => "/QRCodeScannerScreen"
  | arContentCamera => "/ArContentCameraScreen"

/-- The current page of a navigator, which a dialog may cover. -/
def currentPage (nav : Navigator RouteContent) : Option (Nat × RouteContent) :=
  nav.routes.find? fun r => match r.2 with
    | .page _ => true
    | _ => false

/-- `Get.currentRoute` is the name of the screen: dialogs do not change it. -/
def ShowsRoute (screen : Screen) (nav : Navigator RouteContent) : Bool :=
  match currentPage nav with
  | some (_, .page current) => current.routeName = screen.routeName
  | _ => false

/-- `Get.to(..)`, which prevents duplicates: it does nothing on a page of the same name. -/
def getTo (screen : Screen) (nav : Navigator RouteContent) : Navigator RouteContent :=
  if ShowsRoute screen nav then nav else nav.push (.page screen)

/-- `Get.off(..)`, which prevents duplicates like `Get.to(..)`. -/
def getOff (screen : Screen) (nav : Navigator RouteContent) : Navigator RouteContent :=
  if ShowsRoute screen nav then nav else nav.off (.page screen)

section PreventDuplicates

variable {k : Nat} {nav : Navigator RouteContent}

/-- A route that is gone does not come back. -/
theorem gone_getTo (h : nav.Gone k) (screen : Screen) : (getTo screen nav).Gone k := by
  unfold getTo
  split
  · exact h
  · exact h.push _

/-- Nor when the current route is replaced. -/
theorem gone_getOff (h : nav.Gone k) (screen : Screen) : (getOff screen nav).Gone k := by
  unfold getOff
  split
  · exact h
  · exact h.off _

end PreventDuplicates

/-- The observable state of `UserController`. -/
structure UserControllerState where
  user : UserModel
  profileLoading : Bool := false
  imageUploading : Bool := false

/-- The observable state of `QRCodeController`. -/
structure QRCodeControllerState where
  scannedCode : Option String := none
  scanCompleted : Bool := false
  documentId : String := ""

/-- The observable lists of `LocationController`. -/
inductive LocationList where
  | allLocations | featuredLocations | touristSpots | accommodations | dining | shopping
  | favoriteLocations
  deriving DecidableEq, Repr

/-- The observable state of `LocationController`. A decoded location is a new object, which
the lists share and the controller writes to, so it carries an identity. -/
structure LocationControllerState where
  isLoading : Bool := false
  lists : LocationList → List (Nat × LocationModel) := fun _ => []
  /-- The first identity that is still unused. -/
  nextLocation : Nat := 0
  favoriteLocationIds : Finset String := ∅
  /-- The error that `Future.wait` keeps in `fetchFeaturedLocations`. -/
  featuredError : Option Exn := none

/-- The observable state of `LocationCategoryController`. -/
structure LocationCategoryControllerState where
  isLoading : Bool := false
  allLocationCategories : List LocationCategoryModel := []
  featuredCategories : List LocationCategoryModel := []

/-- A point of the map. -/
structure LatLng where
  latitude : Rat
  longitude : Rat
  deriving DecidableEq, Repr

/-- An image for a marker. -/
structure BitmapDescriptor where
  data : String
  deriving DecidableEq, Repr

/-- A marker, without its `onTap`, which does not count when markers are compared. -/
structure Marker where
  markerId : String
  position : LatLng
  icon : BitmapDescriptor
  deriving DecidableEq, Repr

/-- The state of an open `MapScreen`. -/
structure MapScreenState where
  /-- `markers` of its `MapController`. -/
  controllerMarkers : List Marker := []
  /-- `_markers`, which it shows. -/
  markers : List Marker := []
  /-- The locations whose cards the markers of the controller open, in their order, as they were
  when the markers were made. -/
  onTaps : List (Nat × LocationModel) := []
  /-- The `mapController` is completed. -/
  mapCreated : Bool := false

/-- The state of the app and of the services it uses. -/
structure World where
  /-- Firebase Auth's accounts, by uid. -/
  accounts : AList fun _ : String => Account := ∅
  /-- `FirebaseAuth.instance.currentUser`. -/
  currentUser : Option User := none
  db : CollectionName → Collection := fun _ => ∅
  /-- The objects of Cloud Storage, by path. -/
  storage : AList fun _ : String => List UInt8 := ∅
  /-- The path that a download URL denotes. -/
  downloadUrls : AList fun _ : String => String := ∅
  nav : Navigator RouteContent := .empty
  /-- `GetStorage()`. -/
  deviceStorage : AList fun _ : String => Scalar := ∅
  userController : UserControllerState
  qrCodeController : QRCodeControllerState := {}
  locationController : LocationControllerState := {}
  locationCategoryController : LocationCategoryControllerState := {}
  /-- The `VerifyEmailScreen` routes whose timer is active. -/
  verifyEmailTimers : Finset Nat := ∅
  mapScreen : MapScreenState := {}
  /-- `MapController.selectedLocation`, which is static. -/
  selectedLocation : Option LatLng := none

namespace World

/-- Replace one collection. -/
def setDb (w : World) (n : CollectionName) (c : Collection) : World :=
  { w with db := Function.update w.db n c }

/-- `deviceStorage.writeIfNull(key, value)`. -/
def writeIfNull (w : World) (key : String) (value : Scalar) : World :=
  if key ∈ w.deviceStorage then w
  else { w with deviceStorage := w.deviceStorage.insert key value }

/-- `deviceStorage.write(key, value)`. -/
def writeStorage (w : World) (key : String) (value : Scalar) : World :=
  { w with deviceStorage := w.deviceStorage.insert key value }

/-- `deviceStorage.remove(key)`. -/
def removeStorage (w : World) (key : String) : World :=
  { w with deviceStorage := w.deviceStorage.erase key }

@[simp] theorem setDb_db_self (w : World) (n : CollectionName) (c : Collection) :
    (w.setDb n c).db n = c := by
  simp [setDb]

theorem setDb_db_of_ne (w : World) {n m : CollectionName} (c : Collection) (h : m ≠ n) :
    (w.setDb n c).db m = w.db m := by
  simp [setDb, h]

@[simp] theorem setDb_accounts (w : World) (n : CollectionName) (c : Collection) :
    (w.setDb n c).accounts = w.accounts := rfl

@[simp] theorem setDb_currentUser (w : World) (n : CollectionName) (c : Collection) :
    (w.setDb n c).currentUser = w.currentUser := rfl

@[simp] theorem setDb_nav (w : World) (n : CollectionName) (c : Collection) :
    (w.setDb n c).nav = w.nav := rfl

/-- The current page, which a dialog may cover. -/
def page (w : World) : Option (Nat × RouteContent) := currentPage w.nav

/-- The state with another navigator. -/
def withNav (w : World) (nav : Navigator RouteContent) : World := { w with nav := nav }

section WithNav

variable (w : World) (nav : Navigator RouteContent)

@[simp] theorem withNav_nav : (w.withNav nav).nav = nav := rfl

@[simp] theorem withNav_self : w.withNav w.nav = w := rfl

@[simp] theorem withNav_accounts : (w.withNav nav).accounts = w.accounts := rfl

@[simp] theorem withNav_currentUser : (w.withNav nav).currentUser = w.currentUser := rfl

@[simp] theorem withNav_db : (w.withNav nav).db = w.db := rfl

end WithNav

end World

end AroundMuseo
