import AroundMuseo.Controllers.AuthControllers

/-!
# The first screens

The pages of the onboarding, and the fields of the login screen when it opens. Both use the
device storage: the onboarding is shown until it has been finished, and the fields are filled
with the login that was remembered.
-/

namespace AroundMuseo

open Async Firestore

/-- The state of `OnBoardingController`. -/
structure OnBoardingController where
  currentPageIndex : Nat := 0
  /-- The page of `pageController`, or the one that it moves to. -/
  page : Nat := 0
  deriving DecidableEq, Repr

namespace OnBoardingController

/-- Update the current Index when Page Scrolls -/
def updatePageIndicator (index : Nat) (s : OnBoardingController) : OnBoardingController :=
  { s with currentPageIndex := index }

/-- Jump to the specific dot selected page -/
def dotNavigationClick (index : Nat) (s : OnBoardingController) : OnBoardingController :=
  { s with currentPageIndex := index, page := index }

/-- Update Current Index and jump to next page -/
def nextPage (s : OnBoardingController) : OnBoardingController × App Unit :=
  if s.currentPageIndex = 2 then
    (s, do
      Prog.modify (·.writeStorage "isFirstTime" (.bool false))
      await (.getOffAll .login))
  else ({ s with page := s.currentPageIndex + 1 }, pure ())

/-- Update Current Index and jump to the last Page -/
def skipPage (s : OnBoardingController) : OnBoardingController :=
  { s with currentPageIndex := 2, page := 2 }

/-- What happens on the screen, which shows three pages. -/
inductive Input where
  /-- The user scrolls to a page. -/
  | scroll (page : Fin 3)
  /-- The page that was moved to is reached. -/
  | settle
  | dot (index : Fin 3)
  | next
  | skip
  deriving DecidableEq, Repr

/-- The controller after an event. -/
def Input.handle (s : OnBoardingController) : Input → OnBoardingController
  | scroll page => updatePageIndicator page { s with page := page }
  | settle => updatePageIndicator s.page s
  | dot index => dotNavigationClick index s
  | next => s.nextPage.1
  | skip => skipPage s

end OnBoardingController

/-- What the fields of the login screen show. -/
structure LoginFields where
  email : String
  password : String
  rememberMe : Bool
  deriving DecidableEq, Repr

/-- `localStorage.read(key) ?? ''`, where a text is wanted. -/
def World.readText (w : World) (key : String) : Except Exn String :=
  match w.deviceStorage.lookup key with
  | none | some .null => .ok ""
  | some (.string text) => .ok text
  | some _ => .error Exn.typeError

/-- The fields are filled when the controller is created. -/
def LoginController.onInit (w : World) : Except Exn LoginFields := do
  let email ← w.readText "REMEMBER_ME_EMAIL"
  let password ← w.readText "REMEMBER_ME_PASSWORD"
  return ⟨email, password, !email.isEmpty && !password.isEmpty⟩

end AroundMuseo
