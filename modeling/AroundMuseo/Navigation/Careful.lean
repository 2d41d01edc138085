import AroundMuseo.Controllers.QRCodeController
import AroundMuseo.Controllers.VerifyEmailController
import AroundMuseo.Platform.Overlapping
import AroundMuseo.Screens.ArContentCameraScreen

/-!
# Opening the main screens

The screens that only a verified user should see are opened in three places. One of them
asks who is signed in; a QR check and the exit of the AR screen do not.
-/

namespace AroundMuseo

open Async

/-- The screens that are meant for verified users. -/
def Screen.gated : Screen → Bool
  | navigationMenu | arContentCamera => true
  | _ => false

/-- The route is a page that only a verified user should see. -/
def RouteContent.gated : RouteContent → Bool
  | page screen => screen.gated
  | _ => false

/-- A page that only a verified user should see. -/
def Gated (r : Nat × RouteContent) : Prop := r.2.gated = true

instance (r : Nat × RouteContent) : Decidable (Gated r) :=
  inferInstanceAs (Decidable (r.2.gated = true))

/-- The user stays the same, and only for a verified user a gated page is new or, unless the
operation `pops` routes, becomes the current one. -/
structure Careful (pops : Bool) (w w' : World) : Prop where
  sameUser : w'.currentUser = w.currentUser
  opens : ∀ r ∈ w'.nav.routes, r ∉ w.nav.routes → Gated r → w.Verified
  shows : pops = false → ∀ r, Gated r → w'.page = some r → w.page ≠ some r → w.Verified

/-- The user stays the same. -/
def SameUser (w w' : World) : Prop := w'.currentUser = w.currentUser

/-- The calls that open a gated page. -/
def Call.opensGated : Call → Bool
  | .getTo screen | .getOff screen | .getOffAll screen => screen.gated
  | _ => false

/-- The calls that remove the top route. -/
def Call.pops : Call → Bool
  | .stopLoading => true
  | _ => false

/-- The call opens no gated page, and removes a route only if the operation may. -/
def Call.Tame (pops : Bool) (c : Call) : Prop :=
  c.opensGated = false ∧ (c.pops = true → pops = true)

section Careful

variable {pops : Bool} {w₀ w w' : World}

/-- A state is careful about itself. -/
theorem Careful.refl (pops : Bool) (w : World) : Careful pops w w :=
  ⟨rfl, fun _ hr hno => absurd hr hno, fun _ _ _ hr hno => absurd hr hno⟩

/-- Who is verified now was so before. -/
theorem Careful.verified (h : Careful pops w₀ w) (hv : w.Verified) : w₀.Verified := by
  obtain ⟨u, hu, hemail⟩ := hv
  exact ⟨u, h.sameUser ▸ hu, hemail⟩

/-- What is careful may also pop. -/
theorem Careful.popping (h : Careful pops w₀ w) : Careful true w₀ w :=
  ⟨h.sameUser, h.opens, fun hpops => by cases hpops⟩

/-- A step that adds at most one route, which is not gated unless a verified user is signed
in, and uncovers no gated page, unless it may. -/
theorem Careful.extend (h : Careful pops w₀ w) (huser : w'.currentUser = w.currentUser)
    (hroutes : ∀ r ∈ w'.nav.routes, r ∈ w.nav.routes ∨ (Gated r → w.Verified))
    (hpage : pops = false → ∀ r, Gated r → w'.page = some r → w.page = some r ∨ w.Verified) :
    Careful pops w₀ w' where
  sameUser := huser.trans h.sameUser
  opens r hr hno hgated := by
    rcases hroutes r hr with hold | hnew
    · exact h.opens r hold hno hgated
    · exact h.verified (hnew hgated)
  shows hpops r hgated hr hno := by
    rcases hpage hpops r hgated hr with hold | hv
    · exact h.shows hpops r hgated hold hno
    · exact h.verified hv

/-- What is neither shown nor about the session does not matter. -/
theorem Careful.of_view (h : Careful pops w₀ w) (hview : w'.sessionView = w.sessionView) :
    Careful pops w₀ w' := by
  have hnav : w'.nav = w.nav := congrArg Prod.fst hview
  have hpage : w'.page = w.page := congrArg currentPage hnav
  refine h.extend (congrArg Prod.snd hview) (fun r hr => .inl ?_) fun _ r _ hr => .inl ?_
  · rw [← hnav]
    exact hr
  · rw [← hpage]
    exact hr

/-- A route that was just pushed, or one of the old ones. -/
theorem mem_routes_push {n : Navigator RouteContent} {x : RouteContent} {r : Nat × RouteContent}
    (hx : x.gated = false) (hr : r ∈ (n.push x).routes) : r ∈ n.routes ∨ ¬ Gated r := by
  rcases List.mem_cons.mp hr with rfl | hr
  · right
    intro hgated
    have hx' : x.gated = true := hgated
    rw [hx] at hx'
    cases hx'
  · exact .inl hr

/-- A gated page is not the one that was just pushed. -/
theorem currentPage_push {n : Navigator RouteContent} {x : RouteContent} {r : Nat × RouteContent}
    (hx : x.gated = false) (hgated : Gated r) (hr : currentPage (n.push x) = some r) :
    currentPage n = some r ∧ ∀ screen, x ≠ .page screen := by
  cases x with
  | page screen =>
    cases hr
    have hscreen : screen.gated = true := hgated
    rw [show screen.gated = false from hx] at hscreen
    cases hscreen
  | dialog | loader => exact ⟨hr, fun _ hpage => by cases hpage⟩

/-- A push of what is not gated. -/
theorem Careful.push (h : Careful pops w₀ w) {x : RouteContent} (hx : x.gated = false) :
    Careful pops w₀ (w.withNav (w.nav.push x)) := by
  refine h.extend rfl (fun r hr => ?_) fun _ r hgated hr => .inl ?_
  · rcases mem_routes_push hx hr with hold | hungated
    · exact .inl hold
    · exact .inr fun hgated => absurd hgated hungated
  · exact (currentPage_push hx hgated hr).1

/-- A pop adds no route. -/
theorem Careful.pop (h : Careful true w₀ w) : Careful true w₀ (w.withNav w.nav.pop) :=
  h.extend rfl (fun _ hr => .inl (List.mem_of_mem_tail hr)) fun hpops => by cases hpops

/-- The new top route is not gated. -/
theorem Careful.off (h : Careful pops w₀ w) {screen : Screen} (hx : screen.gated = false) :
    Careful pops w₀ (w.withNav (w.nav.off (.page screen))) := by
  refine h.extend rfl (fun r hr => ?_) fun _ r hgated hr => ?_
  · rcases mem_routes_push (x := .page screen) hx hr with hold | hungated
    · exact .inl (List.mem_of_mem_tail hold)
    · exact .inr fun hgated => absurd hgated hungated
  · exact absurd rfl ((currentPage_push (x := .page screen) hx hgated hr).2 screen)

/-- `Get.to` pushes a page, or does nothing. -/
theorem Careful.getTo (h : Careful pops w₀ w) {screen : Screen} (hx : screen.gated = false) :
    Careful pops w₀ (w.withNav (getTo screen w.nav)) := by
  unfold AroundMuseo.getTo
  split
  · exact h
  · exact h.push hx

/-- `Get.off` replaces the top route, or does nothing. -/
theorem Careful.getOff (h : Careful pops w₀ w) {screen : Screen} (hx : screen.gated = false) :
    Careful pops w₀ (w.withNav (getOff screen w.nav)) := by
  unfold AroundMuseo.getOff
  split
  · exact h
  · exact h.off hx

/-- The current page is on the stack. -/
theorem World.mem_routes_of_page {w : World} {r : Nat × RouteContent} (h : w.page = some r) :
    r ∈ w.nav.routes :=
  List.mem_of_find?_eq_some h

/-- Only the new route is left, whatever was popped before. -/
theorem Careful.offAll (h : Careful true w₀ w) {screen : Screen}
    (hx : screen.gated = true → w.Verified) :
    Careful pops w₀ (w.withNav (w.nav.offAll (.page screen))) := by
  have hgated (r : Nat × RouteContent) (hr : r ∈ (w.nav.offAll (.page screen)).routes)
      (hgated : Gated r) : w₀.Verified := by
    rw [List.mem_singleton.mp hr] at hgated
    exact h.verified (hx hgated)
  refine ⟨h.sameUser, fun r hr _ => hgated r hr, fun _ r hr hpage _ => ?_⟩
  exact hgated r (World.mem_routes_of_page hpage) hr

/-- A synchronous call that does not navigate leaves the screens and the user alone. -/
theorem sessionView_of_sync {c : Call} (ha : overlapping.awaited c = false)
    (hc : c.navigates = false) {v : Reply c} (heffect : overlapping.effect c w v = some w') :
    w'.sessionView = w.sessionView := by
  rcases perform_of_overlapping (r := .ok v) heffect with heffect | rfl
  swap
  · rfl
  cases c with
  | now | snackBar | addInfoWindow =>
    cases heffect
    rfl
  | autoId =>
    obtain ⟨-, hw⟩ := Option.ite_none_left_eq_some.mp heffect
    cases hw
    rfl
  | update =>
    obtain ⟨docs, -, rfl⟩ := Option.map_eq_some_iff.mp heffect
    rfl
  | openLoadingDialog | stopLoading | getTo | getOff | getOffAll => cases hc
  | _ => cases ha

/-- A synchronous call that opens no gated page. -/
theorem careful_call {c : Call} (hc : c.Tame pops) (ha : overlapping.awaited c = false)
    (w₀ w : World) (v : Reply c) (w' : World) (h : Careful pops w₀ w)
    (heffect : overlapping.effect c w v = some w') : Careful pops w₀ w' := by
  by_cases hn : c.navigates = false
  · exact h.of_view (sessionView_of_sync ha hn heffect)
  rcases perform_of_overlapping (r := .ok v) heffect with heffect | rfl
  swap
  · exact h
  cases c with
  | openLoadingDialog text animation =>
    obtain ⟨-, hw⟩ := Option.ite_none_right_eq_some.mp heffect
    cases hw
    exact h.push rfl
  | stopLoading =>
    obtain ⟨-, hw⟩ := Option.ite_none_right_eq_some.mp heffect
    cases hw
    obtain rfl : pops = true := hc.2 rfl
    exact h.pop
  | getTo screen =>
    cases heffect
    exact h.getTo hc.1
  | getOff screen =>
    cases heffect
    exact h.getOff hc.1
  | getOffAll screen =>
    cases heffect
    have hs : screen.gated = false := hc.1
    exact h.popping.offAll fun hgated => by simp [hs] at hgated
  | _ => exact absurd rfl hn

end Careful

section Keeps

variable {α : Type} {p : App α} {body : App Unit} {pops : Bool}

/-- Operations all of whose calls are tame. -/
theorem keeps_of_tame (h : p.Confined (Call.Tame pops) World.sessionView) :
    p.Keeps overlapping (Careful pops) :=
  h.keeps (Careful.refl pops) (fun _ _ _ hw hview => hw.of_view hview) fun _ hc ha =>
    careful_call hc ha

/-- A call that neither opens a gated page nor removes a route. -/
theorem keeps_tame {c : Call} (hopens : c.opensGated = false) (hpops : c.pops = false) :
    (await c).Keeps overlapping (Careful pops) := by
  apply keeps_of_tame
  exact Prog.confined_invoke ⟨hopens, fun h => by simp [hpops] at h⟩

/-- What does not navigate. -/
theorem keeps_quiet (h : Quiet p) : p.Keeps overlapping (Careful pops) := by
  apply keeps_of_tame
  have hcalls : p.Confined (Call.Tame pops) World.surroundings := by
    apply Prog.Confined.mono h
    intro c hc
    have hnav : c.navigates = false := (Bool.or_eq_false_iff.mp hc).1
    have hpops : c.pops = false := by
      cases c <;> first | rfl | cases hnav
    refine ⟨?_, fun h => by simp [hpops] at h⟩
    cases c <;> first | rfl | cases hnav
  exact hcalls.comp fun x => (x.1.2.2.2, x.1.2.1)

/-- The loader that is closed may have a page above it, which then goes instead. -/
theorem keeps_stopLoading : FullScreenLoader.stopLoading.Keeps overlapping (Careful true) :=
  .bind (keeps_of_tame (Prog.confined_invoke ⟨rfl, fun _ => rfl⟩)) fun _ => Prog.keeps_done _

/-- A loader is no page. -/
theorem keeps_openLoadingDialog (text animation : String) :
    (FullScreenLoader.openLoadingDialog text animation).Keeps overlapping (Careful pops) :=
  .bind (keeps_tame rfl rfl) fun _ => Prog.keeps_done _

/-- The `catch` block closes the loader once more. -/
theorem keeps_withLoader (h : body.Keeps overlapping (Careful true)) (text : String)
    (kind : SnackBarKind) : (withLoader text kind body).Keeps overlapping (Careful true) := by
  apply Prog.Keeps.handle ((keeps_openLoadingDialog text docerAnimation).bind fun _ => h)
  intro e
  exact keeps_stopLoading.bind fun _ => keeps_tame rfl rfl

/-- Without a connection the loader is closed. -/
theorem keeps_whenConnected (h : body.Keeps overlapping (Careful true)) :
    (whenConnected body).Keeps overlapping (Careful true) := by
  apply (keeps_quiet quiet_isConnected).bind
  intro connected
  cases connected with
  | true => exact h
  | false => exact keeps_stopLoading

/-- A form that is not accepted closes the loader, and one that is not built throws. -/
theorem keeps_whenValid (h : body.Keeps overlapping (Careful true)) (form : Option Bool) :
    (whenValid form body).Keeps overlapping (Careful true) := by
  match form with
  | none => exact Prog.keeps_done _
  | some true => exact h
  | some false => exact keeps_stopLoading

/-- A handler that is not enabled does nothing. -/
theorem keeps_whenEnabled (enabled : World → Bool) (h : body.Keeps overlapping (Careful pops)) :
    (whenEnabled enabled body).Keeps overlapping (Careful pops) := by
  apply (Prog.keeps_read enabled).bind
  intro b
  cases b with
  | true => exact h
  | false => exact Prog.keeps_done _

/-- The write of the last activity is over in the segment that makes it. -/
theorem segments_updateLastActive (uid : String) (w₀ w : World) :
    (AuthenticationRepository.updateLastActive uid).unawaited.Segments overlapping (Careful pops)
      (fun r w₁ w' => r = .ok () ∧ w₁ = w₀ ∧ w'.sessionView = w.sessionView) w₀ w := by
  have hconfined : (AuthenticationRepository.updateLastActive uid).Confined
      (fun c => overlapping.awaited c = false ∧ c.navigates = false) World.sessionView := by
    unfold AuthenticationRepository.updateLastActive
    split
    · refine .handle ?_ fun _ => trivial
      exact .bind (Prog.confined_invoke ⟨rfl, rfl⟩) fun _ => Prog.confined_invoke ⟨rfl, rfl⟩
    · trivial
  have hsegments :
      (AuthenticationRepository.updateLastActive uid).Segments overlapping (Careful pops)
      (fun _ w₁ w' => w₁ = w₀ ∧ w'.sessionView = w.sessionView) w₀ w :=
    hconfined.segments_sync (fun c hc => hc.1)
      (fun c w v w' hc h => sessionView_of_sync hc.1 hc.2 h) w₀ w
  apply Prog.segments_andThen
  exact Prog.segments_mono hsegments fun r w₁ w' h => ⟨rfl, h⟩

open AuthenticationRepository in
/-- The redirection asks who is signed in, and opens the menu in the same segment. -/
theorem keeps_screenRedirect : screenRedirect.Keeps overlapping (Careful pops) := by
  intro w₀ w hw
  have hbranch : ∀ user, w.currentUser = some user → (do
      (updateLastActive user.uid).unawaited
      if user.emailVerified then await (.getOffAll .navigationMenu)
      else
        let current ← authUser
        await (.getOffAll (.verifyEmail (current.bind (·.email)))) : App Unit).Segments overlapping
          (Careful pops) (fun _ => Careful pops) w₀ w := by
    intro user hu
    apply Prog.segments_bind
    apply Prog.segments_mono (segments_updateLastActive user.uid w₀ w)
    rintro r w₁ w' ⟨rfl, rfl, hview⟩
    have hw' : Careful pops w₁ w' := hw.of_view hview
    have huser : w'.currentUser = some user := (congrArg Prod.snd hview).trans hu
    dsimp only
    split
    case isTrue hemail =>
      apply Prog.segments_invoke rfl
      intro v w'' heffect
      cases heffect
      exact hw'.popping.offAll fun _ => ⟨user, huser, hemail⟩
    case isFalse =>
      exact keeps_tame (c := .getOffAll (.verifyEmail _)) rfl rfl w₁ w' hw'
  have hfirst : (do
      Prog.modify (·.writeIfNull "isFirstTime" (.bool true))
      let isFirstTime ← Prog.read (·.deviceStorage.lookup "isFirstTime")
      if isFirstTime ≠ some (.bool true) then await (.getOffAll .login)
      else await (.getOffAll .onBoarding) : App Unit).Keeps overlapping (Careful pops) := by
    apply keeps_of_tame
    refine .bind (Prog.confined_modify fun w => ?_) fun _ =>
      .bind (Prog.confined_read _) fun _ => ?_
    · unfold World.writeIfNull
      split <;> rfl
    · have htame (screen : Screen) (h : screen.gated = false) :
          (Call.getOffAll screen).Tame pops := ⟨h, fun hpops => by cases hpops⟩
      split <;> exact Prog.confined_invoke (htame _ rfl)
  rw [screenRedirect]
  apply Prog.segments_read_bind.mpr
  cases hu : w.currentUser with
  | none => exact hfirst w₀ w hw
  | some user => exact hbranch user hu

end Keeps

end AroundMuseo
