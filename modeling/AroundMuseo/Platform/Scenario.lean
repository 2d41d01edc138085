import AroundMuseo.Core.Segments
import AroundMuseo.Platform.Calls

/-!
# Scenarios

To exhibit a run one names the answer of every call. Most answers are not of
interest: `World.reply` gives the plainest one, and a scenario overrides a few.
-/

namespace AroundMuseo

open Firestore

/-- Operations of the app that overlap. -/
abbrev AppPool (ι : Type) := Async.Pool Reply World Exn ι

/-- The calls that were issued and answered. -/
abbrev History := List (Async.Moment Reply World Exn)

/-- A user who has verified their email and signs in by one provider. -/
def User.of (uid email provider : String) : User where
  uid
  email := some email
  emailVerified := true
  providerData := [provider]

/-- The plainest answer: what is stored and shown, a connection, a prompt that is
cancelled, and a clock that stands still. -/
def World.reply (w : World) : (c : Call) → Reply c
  | .checkConnectivity => [.wifi]
  | .googleSignIn => none
  | .googleAuthentication account => ⟨account⟩
  | .signInWithCredential credentials =>
    ⟨User.of credentials.account.id credentials.account.email "google.com"⟩
  | .signInWithEmailAndPassword email _ | .createUserWithEmailAndPassword email _ =>
    ⟨User.of email email "password"⟩
  | .get n id => (w.db n).lookup id
  | .add _ _ | .autoId _ => "new"
  | .getAll n => (w.db n).docs
  | .whereEq n field v => (w.db n).whereEq field v
  | .whereEqLimit n field v limit => ((w.db n).whereEq field v).take limit
  | .getDownloadURL path => path
  | .showModalBottomSheet => none
  | .pickImage _ => none
  | .bitmapDescriptorAsset assetPath => ⟨assetPath⟩
  | .now => 0
  | .openLoadingDialog _ _ => w.nav.next
  | .stopLoading => w.nav.top
  | .googleSignOut | .reauthenticateWithCredential _ _ _ | .deleteUser _ | .authSignOut
  | .sendPasswordResetEmail _ | .sendEmailVerification _ | .reload | .verifyBeforeUpdateEmail _ _
  | .set _ _ _ | .setMerge _ _ _ | .update _ _ _ | .delete _ _ | .runTransaction _ _
  | .putFile _ _ | .mapController | .animateCamera _ | .getTo _ | .getOff _ | .getOffAll _
  | .snackBar _ _ _ | .addInfoWindow _ _ => ()

/-- The outcomes of a scenario: the exceptions and answers it names, and the plainest
answer everywhere else. -/
def scenario (special : World → (c : Call) → Option (Except Exn (Reply c))) (w : World) (c : Call) :
    Except Exn (Reply c) :=
  (special w c).getD (.ok (w.reply c))

section Special

/-- Calls of a kind throw. -/
def throwing (kind : Call → Bool) (e : Exn) (_ : World) (c : Call) :
    Option (Except Exn (Reply c)) :=
  if kind c then some (.error e) else none

/-- The prompt of Google is answered with an account. -/
def choosing (account : GoogleSignInAccount) (_ : World) :
    (c : Call) → Option (Except Exn (Reply c))
  | .googleSignIn => some (.ok (some account))
  | _ => none

/-- A password is accepted, and the user signed in. -/
def admitting (user : User) (_ : World) : (c : Call) → Option (Except Exn (Reply c))
  | .signInWithEmailAndPassword _ _ => some (.ok ⟨user⟩)
  | _ => none

/-- The clock stands still at a time. -/
def showing (now : DateTime) (_ : World) : (c : Call) → Option (Except Exn (Reply c))
  | .now => some (.ok now)
  | _ => none

end Special

/-- The run of a scenario, with what was computed of it. -/
theorem scenario_run {α : Type} (p : App α) (w : World)
    (special : World → (c : Call) → Option (Except Exn (Reply c)))
    (q : List Event × Except Exn α × World → Bool)
    (h : (p.follow platform (scenario special) w).any q = true) :
    ∃ tr r w', p.Run platform w tr r w' ∧ q (tr, r, w') = true :=
  Async.Prog.exists_run_of_follow h

/-- The run of overlapping operations in which the moves happen in the given order. -/
theorem scenario_pool_run {ι : Type} (body : ι → App Unit) (w : World)
    (special : World → (c : Call) → Option (Except Exn (Reply c)))
    (moves : List (Async.Pool.Move ι))
    (q : History × AppPool ι → Bool)
    (h : ((⟨w, []⟩ : AppPool ι).follow platform body (scenario special) moves).any q =
      true) :
    ∃ ms c, Async.Pool.Run platform body ⟨w, []⟩ ms c ∧ q (ms, c) = true :=
  Async.Pool.exists_run_of_follow moves h

/-- The run of overlapping operations in which the moves happen in the given order, if each step
is `ok`. -/
theorem scenario_pool_runMeeting {ι : Type} (body : ι → App Unit) (w : World)
    (special : World → (c : Call) → Option (Except Exn (Reply c)))
    (ok : AppPool ι → History → AppPool ι → Bool) (cond : AppPool ι → History → AppPool ι → Prop)
    (hok : ∀ c ms c', ok c ms c' = true → cond c ms c') (moves : List (Async.Pool.Move ι))
    (q : History × AppPool ι → Bool)
    (h : ((⟨w, []⟩ : AppPool ι).followMeeting platform body (scenario special) ok moves).any q =
      true) :
    ∃ ms c, Async.Pool.RunMeeting platform body cond ⟨w, []⟩ ms c ∧ q (ms, c) = true :=
  Async.Pool.exists_runMeeting_of_followMeeting hok moves h

/-- A state with accounts and documents of `Users`, where the first user is signed in. -/
def World.withUsers (users : List User) : World where
  accounts := (users.map fun u =>
    (⟨u.uid, u.toAccount fun _ _ => true⟩ : Sigma fun _ : String => Account)).toAList
  currentUser := users.head?
  db := fun
    | .users => (users.map fun u =>
      (⟨u.uid, Doc.ofFields [("Email", nullable .string u.email)]⟩ :
        Sigma fun _ : String => Doc)).toAList
    | _ => ∅
  userController := { user := UserModel.empty 0 0 0 }

end AroundMuseo
