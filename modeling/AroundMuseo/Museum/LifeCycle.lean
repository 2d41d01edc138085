import AroundMuseo.Museum.Access
import AroundMuseo.Screens.ArContentCameraScreen

/-!
# The life of a logbook entry

From the scan until the visitor has left the AR screen, the entry of a visit keeps the
fields it was added with. Its time-out is another matter: leaving writes it to a field
that no reader looks at, or not at all, and the missing time is read back as the
reader's own clock.
-/

namespace AroundMuseo

open Async Firestore ArContentCameraScreen

/-- The AR screen with the state of the app. -/
structure ArVisit where
  state : State := {}
  world : World

namespace ArVisit

/-- `Run c tr c'`: from `c` the inputs of some sequence are handled one after the other,
every call being answered. -/
inductive Run : ArVisit → List Event → ArVisit → Prop
  | nil (c : ArVisit) : Run c [] c
  | cons {c c' : ArVisit} {i : Input} {tr tr' : List Event} {r : Except Exn Unit} {w : World}
      (henabled : i.Enabled c.world)
      (hrun : (i.handle c.state c.world).2.Run platform c.world tr r w) (hok : AllAnswered tr)
      (hrest : Run ⟨(i.handle c.state c.world).1, w⟩ tr' c') : Run c (tr ++ tr') c'

/-- A property that every handler keeps holds after every run. -/
theorem Run.keeps {Inv : World → Prop}
    (hstep : ∀ (i : Input) (s : State) (w : World), Inv w →
      (i.handle s w).2.wp platform (fun _ _ w' => Inv w') w)
    {c c' : ArVisit} {tr : List Event} (hrun : Run c tr c') (hinv : Inv c.world) :
    Inv c'.world := by
  induction hrun with
  | nil c => exact hinv
  | cons _ hrun _ _ ih => exact ih (Prog.wp_iff_run.mp (hstep _ _ _ hinv) _ _ _ hrun)

/-- The run of the given inputs in which the calls have the outcomes of the script, if
there is one. -/
def follow (script : World → (c : Call) → Except Exn (Reply c)) :
    List Input → ArVisit → Option (List Event × ArVisit)
  | [], c => some ([], c)
  | i :: is, c =>
    if i.Enabled c.world then do
      let (tr, _, w) ← (i.handle c.state c.world).2.follow platform script c.world
      if AllAnswered tr then
        let (tr', c') ← follow script is ⟨(i.handle c.state c.world).1, w⟩
        return (tr ++ tr', c')
      else none
    else none

theorem follow_run {script : World → (c : Call) → Except Exn (Reply c)} {is : List Input}
    {c c' : ArVisit} {tr : List Event} (h : follow script is c = some (tr, c')) : Run c tr c' := by
  induction is generalizing c tr with
  | nil =>
    cases h
    exact .nil _
  | cons i is ih =>
    rw [follow] at h
    split at h
    case isFalse => cases h
    case isTrue henabled =>
      simp only [Option.bind_eq_bind, Option.bind_eq_some_iff] at h
      obtain ⟨⟨tr₁, r, w⟩, hrun, h⟩ := h
      split at h
      case isFalse => cases h
      case isTrue hok =>
        simp only [Option.bind_eq_some_iff] at h
        obtain ⟨⟨tr₂, c₂⟩, hrest, h⟩ := h
        cases h
        exact .cons henabled (Prog.follow_run hrun) hok (ih hrest)

/-- A run with a property, from the computation that finds it. -/
theorem exists_run_of_follow {script : World → (c : Call) → Except Exn (Reply c)} {is : List Input}
    {c : ArVisit} {q : List Event × ArVisit → Bool} (h : (follow script is c).any q = true) :
    ∃ tr c', Run c tr c' ∧ q (tr, c') = true := by
  cases hf : follow script is c with
  | none =>
    rw [hf] at h
    cases h
  | some out =>
    rw [hf] at h
    exact ⟨out.1, out.2, follow_run hf, h⟩

end ArVisit

/-- The entry `id` was added with the fields of `log`, and none was changed that a reader
looks at. -/
structure RecordKept (before : Collection) (log : MuseumLogbookModel) (id : String) (w : World) :
    Prop where
  documentId : w.qrCodeController.documentId = id
  others : ∀ i ≠ id, (w.db .museumLogbook).lookup i = before.lookup i
  entry : ∃ data, (w.db .museumLogbook).lookup id = some data ∧
    ∀ key ≠ "timeOut", data.lookup key = log.toJson.lookup key

/-- What is promised of the record of a visit: open while the visitor is on the AR screen,
closed at the time of leaving once they have left, and alone in being changed. -/
structure RecordCorrect (before : Collection) (log : MuseumLogbookModel) (id : String)
    (tr : List Event) (w : World) : Prop where
  others : ∀ i ≠ id, (w.db .museumLogbook).lookup i = before.lookup i
  entry : ∃ data timeOut, (w.db .museumLogbook).lookup id = some data ∧
    (if OnScreen w then timeOut = none else ∃ t, timeOut = some t ∧
      ∃ ev ∈ tr, ev.call = .update .museumLogbook id (MuseumLogbookRepository.timeOutFields t)) ∧
    ∀ inNow outNow, MuseumLogbookModel.fromSnapshot inNow outNow id (some data) =
      .ok { log with id, timeOut }

section Kept

variable {before : Collection} {log : MuseumLogbookModel} {id : String} {w : World}

/-- What shows does not matter. -/
theorem RecordKept.withNav (h : RecordKept before log id w) (nav : Navigator RouteContent) :
    RecordKept before log id (w.withNav nav) :=
  ⟨h.documentId, h.others, h.entry⟩

/-- The update of the time-out touches a field of its own. -/
theorem RecordKept.update (h : RecordKept before log id w) {t : DateTime} {c : Collection}
    (hc : (w.db .museumLogbook).update id (MuseumLogbookRepository.timeOutFields t) = some c) :
    RecordKept before log id (w.setDb .museumLogbook c) := by
  obtain ⟨old, hold, rfl⟩ := Collection.update_eq_some.mp hc
  obtain ⟨data, hdata, hfields⟩ := h.entry
  cases hold.symm.trans hdata
  refine ⟨h.documentId, fun i hi => ?_, ?_⟩
  · rw [World.setDb_db_self, AList.lookup_insert_ne hi]
    exact h.others i hi
  · refine ⟨old.merge (MuseumLogbookRepository.timeOutFields t), ?_, fun key hkey => ?_⟩
    · rw [World.setDb_db_self, AList.lookup_insert]
    · rw [Doc.lookup_merge, MuseumLogbookRepository.timeOutFields, Doc.lookup_ofFields_cons,
        if_neg hkey, Doc.lookup_ofFields_nil, Option.none_or]
      exact hfields key hkey

theorem recordKept_updateMuseumVisitTimeOut (h : RecordKept before log id w) :
    QRCodeController.updateMuseumVisitTimeOut.wp platform
      (fun _ _ w' => RecordKept before log id w') w := by
  rw [QRCodeController.updateMuseumVisitTimeOut, Prog.wp_handle]
  refine wp_now_bind.mpr fun t => Prog.wp_read_bind.mpr ?_
  rw [MuseumLogbookRepository.updateTimeOut, Prog.wp_handle, h.documentId]
  refine Prog.wp_invoke.mpr ⟨fun _ e => ?_, fun v w' hv => ?_⟩
  · refine Prog.wp_throw.mpr ((Sync.snackBar (w := w) .warning "Update Failed" _).wp.mpr ?_)
    exact h.withNav w.nav
  · obtain ⟨c, hc, rfl⟩ := Option.map_eq_some_iff.mp hv
    exact h.update hc

/-- No input changes a field of the entry that is read. -/
theorem recordKept_handle (i : Input) (s : State) (h : RecordKept before log id w) :
    (i.handle s w).2.wp platform (fun _ _ w' => RecordKept before log id w') w := by
  have hpop : pop.wp platform (fun _ _ w' => RecordKept before log id w') w := h.withNav _
  cases i with
  | messageFromUnity data =>
    simp only [Input.handle, onMessageFromUnity]
    split
    · exact h
    split
    · exact hpop
    split <;> exact h
  | back =>
    simp only [Input.handle]
    split
    · exact hpop
    · exact h.withNav _
  | cancel => exact hpop
  | confirm =>
    refine Prog.wp_bind.mpr (Prog.wp_unawaited.mpr ?_)
    refine Prog.wp_mono (recordKept_updateMuseumVisitTimeOut h) fun r tr w' h' => ?_
    exact (Sync.getOffAll .navigationMenu).wp.mpr (h'.withNav _)

/-- What a reader of the record gets: the fields it was added with, and as the time-out
the time of reading. -/
theorem RecordKept.read_back (h : RecordKept before log id w) {timeIn : DateTime}
    (hin : log.timeIn = some timeIn) (hout : log.timeOut = none) :
    ∃ data, (w.db .museumLogbook).lookup id = some data ∧
      ∀ inNow outNow, MuseumLogbookModel.fromSnapshot inNow outNow id (some data) =
        .ok { log with id, timeOut := some outNow } := by
  obtain ⟨data, hdata, hfields⟩ := h.entry
  refine ⟨data, hdata, fun inNow outNow => ?_⟩
  rw [MuseumLogbookModel.fromSnapshot_of_toJson hfields, hin, hout]
  rfl

/-- One time-out cannot be the time of every reading. -/
theorem RecordKept.not_correct (h : RecordKept before log id w) {timeIn : DateTime}
    (hin : log.timeIn = some timeIn) (hout : log.timeOut = none) (tr : List Event) :
    ¬ RecordCorrect before log id tr w := by
  intro hcorrect
  obtain ⟨data, hdata, hread⟩ := h.read_back hin hout
  obtain ⟨data', timeOut, hdata', -, hread'⟩ := hcorrect.entry
  cases hdata.symm.trans hdata'
  have htimeOut (t : DateTime) : some t = timeOut := by
    have heq := Except.ok.inj ((hread 0 t).symm.trans (hread' 0 t))
    exact congrArg MuseumLogbookModel.timeOut heq
  have hzero : (0 : DateTime) = 1 := Option.some.inj ((htimeOut 0).trans (htimeOut 1).symm)
  exact absurd hzero (by decide)

end Kept

/-- A scan that adds an entry adds it under a new id, with the fields of the record that
was fetched. -/
theorem recordKept_checkQRCode {w w₀ : World} {code : String} {tr : List Event}
    {r : Except Exn Unit} {user : UserModel} {now : DateTime} {id : String}
    (hscan : (QRCodeController.checkQRCode code).Run platform w tr r w₀)
    (hvisit : visits tr = [((QRCodeController.museumLogbook user now).toJson, id)]) :
    RecordKept (w.db .museumLogbook) (QRCodeController.museumLogbook user now) id w₀ := by
  obtain ⟨-, -, hlog⟩ | ⟨-, -, hnone⟩ :=
    Prog.wp_iff_run.mp (checkQRCode_spec code w) tr r w₀ hscan
  · rw [hvisit] at hlog
    generalize hd : (QRCodeController.museumLogbook user now).toJson = d at hlog
    cases hlog with
    | logged _ _ hdoc hdb =>
      refine ⟨hdoc, fun i hi => ?_, ?_⟩
      · rw [hdb, Collection.lookup_set, if_neg hi]
      · rw [hdb, Collection.lookup_set, if_pos rfl, ← hd]
        exact ⟨_, rfl, fun _ _ => rfl⟩
  · rw [hvisit] at hnone
    cases hnone

/-- No record of a visit is ever what it should be: at no point of a run on the AR screen,
nor after it. -/
theorem record_never_correct {w w₀ : World} {code : String} {tr tr' : List Event}
    {r : Except Exn Unit} {user : UserModel} {now : DateTime} {id : String} {c : ArVisit}
    (hscan : (QRCodeController.checkQRCode code).Run platform w tr r w₀)
    (hvisit : visits tr = [((QRCodeController.museumLogbook user now).toJson, id)])
    (hrun : ArVisit.Run { world := w₀ } tr' c) :
    ¬ RecordCorrect (w.db .museumLogbook)
      (QRCodeController.museumLogbook user now) id tr' c.world :=
  (hrun.keeps (fun i s _ h => recordKept_handle i s h)
    (recordKept_checkQRCode hscan hvisit)).not_correct rfl rfl tr'

/-- The visitor whose run is looked at. -/
def visitorModel : UserModel := { UserModel.empty 0 0 0 with id := "u", email := "u@example.com" }

/-- The visitor scans the code at time 0, presses the back button and confirms at time 9. -/
theorem exists_visit : ∃ tr r w₀ tr' c,
    (QRCodeController.checkQRCode "code").Run platform visitor tr r w₀ ∧
    visits tr = [((QRCodeController.museumLogbook visitorModel 0).toJson, "new")] ∧
    ArVisit.Run { world := w₀ } tr' c ∧ ¬ OnScreen c.world ∧
    ∃ ev ∈ tr', ev.call =
      .update .museumLogbook "new" (MuseumLogbookRepository.timeOutFields 9) := by
  obtain ⟨tr, r, w₀, hscan, hq⟩ := scenario_run (QRCodeController.checkQRCode "code") visitor
    (fun _ _ => none)
    (fun out => visits out.1 = [((QRCodeController.museumLogbook visitorModel 0).toJson, "new")] ∧
      (ArVisit.follow
        (scenario (showing 9)) [.back, .confirm] { world := out.2.2 }).any fun out' =>
          decide (¬ OnScreen out'.2.world) && out'.1.any fun ev => ev.call =
            .update .museumLogbook "new" (MuseumLogbookRepository.timeOutFields 9))
    (by decide +kernel)
  obtain ⟨hvisit, hleave⟩ := of_decide_eq_true hq
  obtain ⟨tr', c, hrun, hq'⟩ := ArVisit.exists_run_of_follow hleave
  simp only [Bool.and_eq_true, decide_eq_true_eq, List.any_eq_true] at hq'
  exact ⟨tr, r, w₀, tr', c, hscan, hvisit, hrun, hq'.1, hq'.2⟩

/-- The visitor's record is not correct when they have left. -/
theorem visitor_record_not_correct : ∃ w₀ tr' c, ArVisit.Run { world := w₀ } tr' c ∧
    ¬ OnScreen c.world ∧ ¬ RecordCorrect (visitor.db .museumLogbook)
      (QRCodeController.museumLogbook visitorModel 0) "new" tr' c.world := by
  obtain ⟨tr, r, w₀, tr', c, hscan, hvisit, hrun, hleft, -⟩ := exists_visit
  exact ⟨w₀, tr', c, hrun, hleft, record_never_correct hscan hvisit hrun⟩

/-- The record of the visit that ended at time 9 is not read back with that time-out. -/
theorem record_not_correct_after_confirm :
    ¬ ∀ (w w₀ : World) (code : String) (tr tr' : List Event) (r : Except Exn Unit)
      (user : UserModel) (now : DateTime) (id : String) (c : ArVisit),
      (QRCodeController.checkQRCode code).Run platform w tr r w₀ →
        visits tr = [((QRCodeController.museumLogbook user now).toJson, id)] →
        ArVisit.Run { world := w₀ } tr' c →
        RecordCorrect (w.db .museumLogbook) (QRCodeController.museumLogbook user now) id tr'
          c.world := by
  intro hall
  obtain ⟨tr, r, w₀, tr', c, hscan, hvisit, hrun, -⟩ := exists_visit
  have hcorrect := hall visitor w₀ "code" tr tr' r visitorModel 0 "new" c hscan hvisit hrun
  have hkept := hrun.keeps (fun i s _ h => recordKept_handle i s h)
    (recordKept_checkQRCode hscan hvisit)
  exact hkept.not_correct rfl rfl tr' hcorrect

end AroundMuseo
