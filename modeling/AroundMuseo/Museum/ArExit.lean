import AroundMuseo.Museum.LifeCycle

/-!
# Leaving the AR screen

Whatever Unity tells and the visitor does, in any order: the AR screen is left by confirming the
exit dialog, or because Unity tells that the device does not support AR while no dialog is shown.
The time of leaving is sent in the first case only.
-/

namespace AroundMuseo

open Async Firestore ArContentCameraScreen

/-- What a visit to the AR screen has come to. -/
inductive ArStage where
  | camera | dialog | left
  deriving DecidableEq, Repr

/-- The stage after an input. The message closes what is on top, be it the screen or the dialog. -/
def ArStage.next : ArStage → Input → ArStage
  | camera, .back => dialog
  | camera, .messageFromUnity data => if data = "ar:false" then left else camera
  | dialog, .back | dialog, .cancel => camera
  | dialog, .messageFromUnity data => if data = "ar:false" then camera else dialog
  | dialog, .confirm => left
  | stage, _ => stage

/-- No route shows the AR screen. -/
def NoCamera (routes : List (Nat × RouteContent)) : Prop :=
  ∀ r ∈ routes, r.2 ≠ .page .arContentCamera

/-- The routes at each stage: there is one AR screen, and the dialog is above it. -/
def ArStage.Shown (w : World) : ArStage → Prop
  | camera => ∃ k rest, w.nav.routes = (k, .page .arContentCamera) :: rest ∧ NoCamera rest
  | dialog => ∃ j k rest, w.nav.routes = (j, exitDialog) :: (k, .page .arContentCamera) :: rest ∧
      NoCamera rest
  | left => NoCamera w.nav.routes

/-- The time of leaving is sent. -/
def SendsTimeOut (tr : List Event) : Prop :=
  ∃ ev ∈ tr, ∃ id t, ev.call = .update .museumLogbook id (MuseumLogbookRepository.timeOutFields t)

/-- From a visit the inputs are handled one after the other, whatever the calls are answered. -/
inductive ArVisit.Handles (c₀ : ArVisit) : List Input → List Event → ArVisit → Prop
  | nil : Handles c₀ [] [] c₀
  | snoc {c : ArVisit} {i : Input} {is : List Input} {tr tr' : List Event} {r : Except Exn Unit}
      {w : World} (h : Handles c₀ is tr c) (henabled : i.Enabled c.world)
      (hrun : (i.handle c.state c.world).2.Run platform c.world tr' r w) :
      Handles c₀ (is ++ [i]) (tr ++ tr') ⟨(i.handle c.state c.world).1, w⟩

section Stages

variable {w : World} {stage : ArStage}

theorem onScreen_iff (h : stage.Shown w) : OnScreen w ↔ stage ≠ .left := by
  cases stage with
  | camera =>
    obtain ⟨k, rest, hroutes, -⟩ := h
    exact iff_of_true ⟨_, by rw [hroutes]; exact List.mem_cons_self, rfl⟩ nofun
  | dialog =>
    obtain ⟨j, k, rest, hroutes, -⟩ := h
    refine iff_of_true ⟨(k, _), ?_, rfl⟩ nofun
    rw [hroutes]
    exact List.mem_cons_of_mem _ List.mem_cons_self
  | left => exact iff_of_false (fun ⟨r, hr, heq⟩ => h r hr heq) fun hne => hne rfl

theorem shown_camera (h : ArStage.camera.Shown w) : shown w = some (.page .arContentCamera) := by
  obtain ⟨k, rest, hroutes, -⟩ := h
  simp [shown, Navigator.top, hroutes]

theorem shown_dialog (h : ArStage.dialog.Shown w) : shown w = some exitDialog := by
  obtain ⟨j, k, rest, hroutes, -⟩ := h
  simp [shown, Navigator.top, hroutes]

/-- The screen or the dialog is closed. -/
theorem shown_pop (h : ArStage.camera.Shown w) : ArStage.left.Shown (w.withNav w.nav.pop) := by
  obtain ⟨k, rest, hroutes, hrest⟩ := h
  simpa [ArStage.Shown, Navigator.pop, hroutes] using hrest

theorem shown_pop_dialog (h : ArStage.dialog.Shown w) :
    ArStage.camera.Shown (w.withNav w.nav.pop) := by
  obtain ⟨j, k, rest, hroutes, hrest⟩ := h
  exact ⟨k, rest, by simp [Navigator.pop, hroutes], hrest⟩

theorem shown_push (h : ArStage.camera.Shown w) :
    ArStage.dialog.Shown (w.withNav (w.nav.push exitDialog)) := by
  obtain ⟨k, rest, hroutes, hrest⟩ := h
  exact ⟨w.nav.next, k, rest, by simp [Navigator.push, hroutes], hrest⟩

/-- The dialog is confirmed: one write is tried, and the menu is all that is left. -/
theorem onConfirm_spec (w : World) : onConfirm.wp platform
    (fun _ tr w' => SendsTimeOut tr ∧ ArStage.left.Shown w') w := by
  have hleft (w : World) (tr : List Event) (h : SendsTimeOut tr) :
      (await (.getOffAll .navigationMenu)).wp platform
        (fun _ tr' w' => SendsTimeOut (tr ++ tr') ∧ ArStage.left.Shown w') w := by
    refine (Sync.getOffAll .navigationMenu).wp.mpr ⟨?_, ?_⟩
    · obtain ⟨ev, hev, hcall⟩ := h
      exact ⟨ev, List.mem_append_left _ hev, hcall⟩
    · intro r hr
      cases List.mem_singleton.mp hr
      exact nofun
  refine Prog.wp_bind.mpr (Prog.wp_unawaited.mpr ?_)
  rw [QRCodeController.updateMuseumVisitTimeOut, Prog.wp_handle]
  refine wp_now_bind.mpr fun t => Prog.wp_read_bind.mpr ?_
  rw [MuseumLogbookRepository.updateTimeOut, Prog.wp_handle]
  refine Prog.wp_invoke.mpr ⟨fun _ e => ?_, fun v w' hv => ?_⟩
  · refine Prog.wp_throw.mpr ((Sync.snackBar (w := w) .warning "Update Failed" _).wp.mpr ?_)
    exact hleft w _
      ⟨_, List.mem_append_left _ (List.mem_cons_of_mem _ List.mem_cons_self), _, t, rfl⟩
  · exact hleft w' _ ⟨_, List.mem_cons_of_mem _ List.mem_cons_self, _, t, rfl⟩

/-- Every input needs the screen. -/
theorem ne_left_of_enabled (h : stage.Shown w) {i : Input} (henabled : i.Enabled w) :
    stage ≠ .left := by
  apply (onScreen_iff h).mp
  cases i with
  | messageFromUnity => exact henabled
  | _ => exact henabled.1

/-- An input that can happen leads to the next stage, and only confirming sends the time. -/
theorem handle_spec (h : stage.Shown w) {i : Input} (henabled : i.Enabled w) (s : State) :
    (i.handle s w).2.wp platform
      (fun _ tr w' => (stage.next i).Shown w' ∧ (SendsTimeOut tr ↔ i = .confirm)) w := by
  have hsilent (hne : i ≠ .confirm) : SendsTimeOut [] ↔ i = .confirm := by
    apply iff_of_false _ hne
    rintro ⟨_, hev, -⟩
    exact List.not_mem_nil hev
  cases stage with
  | left => exact absurd rfl (ne_left_of_enabled h henabled)
  | camera =>
    cases i with
    | messageFromUnity data =>
      simp only [Input.handle, onMessageFromUnity, ArStage.next]
      by_cases hfalse : data = "ar:false"
      · subst hfalse
        exact ⟨shown_pop h, hsilent (by simp)⟩
      · simp only [if_neg hfalse]
        split
        · exact ⟨h, hsilent (by simp)⟩
        · split <;> exact ⟨h, hsilent (by simp)⟩
    | back =>
      simp only [Input.handle, shown_camera h]
      exact ⟨shown_push h, hsilent (by simp)⟩
    | confirm | cancel =>
      cases (shown_camera h).symm.trans henabled.2
  | dialog =>
    cases i with
    | messageFromUnity data =>
      simp only [Input.handle, onMessageFromUnity, ArStage.next]
      by_cases hfalse : data = "ar:false"
      · subst hfalse
        exact ⟨shown_pop_dialog h, hsilent (by simp)⟩
      · simp only [if_neg hfalse]
        split
        · exact ⟨h, hsilent (by simp)⟩
        · split <;> exact ⟨h, hsilent (by simp)⟩
    | back =>
      simp only [Input.handle, shown_dialog h, if_true]
      exact ⟨shown_pop_dialog h, hsilent (by simp)⟩
    | cancel => exact ⟨shown_pop_dialog h, hsilent (by simp)⟩
    | confirm =>
      apply Prog.wp_mono (onConfirm_spec w)
      intro _ _ _ hconfirmed
      exact ⟨hconfirmed.2, iff_of_true hconfirmed.1 rfl⟩

/-- The last input that was handled found the screen open. -/
theorem next_eq_left_iff {i : Input} (h : stage.Shown w) (henabled : i.Enabled w) :
    stage.next i = .left ↔
      i = .confirm ∨ i = .messageFromUnity "ar:false" ∧ stage = .camera := by
  cases stage with
  | left => exact absurd rfl (ne_left_of_enabled h henabled)
  | camera =>
    cases i with
    | messageFromUnity data => simp [ArStage.next]
    | back => simp [ArStage.next]
    | confirm | cancel => cases (shown_camera h).symm.trans henabled.2
  | dialog =>
    cases i with
    | messageFromUnity data =>
      rw [ArStage.next]
      split <;> simp
    | _ => simp [ArStage.next]

end Stages

section Runs

variable {c c' : ArVisit} {is : List Input} {tr : List Event}

/-- The visit goes through the stages, and after the last one nothing happens. -/
theorem handles_spec (h : c.Handles is tr c') (hstart : ArStage.camera.Shown c.world) :
    (is.foldl ArStage.next .camera).Shown c'.world ∧
      (is.foldl ArStage.next .camera = .left ↔ is.getLast? = some .confirm ∨
        is.getLast? = some (.messageFromUnity "ar:false") ∧
          is.dropLast.foldl ArStage.next .camera = .camera) ∧
      (SendsTimeOut tr ↔ is.getLast? = some .confirm) := by
  induction h with
  | nil =>
    refine ⟨hstart, by simp, iff_of_false ?_ nofun⟩
    exact fun ⟨_, hev, _⟩ => List.not_mem_nil hev
  | @snoc c₁ i is tr tr' r w h henabled hrun ih =>
    obtain ⟨hshown, hleft, hsent⟩ := ih
    obtain ⟨hnext, hsent'⟩ := Prog.wp_iff_run.mp (handle_spec hshown henabled c₁.state) _ _ _ hrun
    -- had the time been sent before, the screen would have been left
    have hbefore : ¬ SendsTimeOut tr := by
      intro hbefore
      exact ne_left_of_enabled hshown henabled (hleft.mpr (.inl (hsent.mp hbefore)))
    simp only [List.foldl_concat, List.getLast?_concat, List.dropLast_concat, Option.some.injEq]
    refine ⟨hnext, next_eq_left_iff hshown henabled, ?_⟩
    rw [← hsent']
    constructor
    · rintro ⟨ev, hev, hcall⟩
      rcases List.mem_append.mp hev with hev | hev
      · exact absurd ⟨ev, hev, hcall⟩ hbefore
      · exact ⟨ev, hev, hcall⟩
    · rintro ⟨ev, hev, hcall⟩
      exact ⟨ev, List.mem_append_right _ hev, hcall⟩

/-- The AR screen is left exactly by confirming, or by the message that AR is not supported while
no dialog is shown; the time of leaving is sent exactly by confirming. -/
theorem arScreen_left_iff (h : c.Handles is tr c') (hstart : ArStage.camera.Shown c.world) :
    (¬ OnScreen c'.world ↔ is.getLast? = some .confirm ∨
      is.getLast? = some (.messageFromUnity "ar:false") ∧
        is.dropLast.foldl ArStage.next .camera = .camera) ∧
      (SendsTimeOut tr ↔ is.getLast? = some .confirm) := by
  obtain ⟨hshown, hleft, hsent⟩ := handles_spec h hstart
  refine ⟨?_, hsent⟩
  rw [onScreen_iff hshown, not_not, hleft]

end Runs

/-- The AR screen is all that is shown. -/
def World.atCamera : World :=
  (World.withUsers []).withNav (Navigator.empty.push (.page .arContentCamera))

/-- The visitor is asked whether to leave when the message comes, which closes the dialog only. -/
theorem arScreen_left_iff_dialog : ∃ (tr : List Event) (c' : ArVisit),
    ArVisit.Handles { world := World.atCamera } [.back, .messageFromUnity "ar:false"] tr c' ∧
      OnScreen c'.world ∧ ¬ SendsTimeOut tr := by
  have hback : ArVisit.Handles { world := World.atCamera } [.back] []
      { world := World.atCamera.withNav (World.atCamera.nav.push exitDialog) } :=
    .snoc (r := .ok ()) .nil (by decide) ⟨rfl, rfl, rfl⟩
  have h : ArVisit.Handles { world := World.atCamera } [.back, .messageFromUnity "ar:false"] []
      ⟨⟨some false, false⟩, World.atCamera.withNav (World.atCamera.nav.push exitDialog).pop⟩ :=
    hback.snoc (i := .messageFromUnity "ar:false") (r := .ok ()) (by decide) ⟨rfl, rfl, rfl⟩
  have hstart : ArStage.camera.Shown World.atCamera := ⟨0, [], rfl, List.forall_mem_nil _⟩
  obtain ⟨hleft, hsent⟩ := arScreen_left_iff h hstart
  exact ⟨_, _, h, not_not.mp (mt hleft.mp (by decide)), mt hsent.mp (by decide)⟩

end AroundMuseo
