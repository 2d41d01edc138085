import AroundMuseo.Account.Directory
import AroundMuseo.Controllers.QRCodeController
import AroundMuseo.Platform.Scenario

/-!
# Access to the museum

A matching code opens the AR screen. The visit is logged on the way, under the id of
the user record that was fetched, and neither a record that could not be fetched nor an
entry that could not be added keeps the screen closed.
-/

namespace AroundMuseo

open Async Firestore

/-- The entries that a run adds to the logbook, with their ids. -/
def visits (tr : List Event) : List (Doc × String) :=
  tr.filterMap fun
    | ⟨_, .add .museumLogbook d, .ok id⟩ => some (d, id)
    | _ => none

@[simp] theorem visits_append (tr tr' : List Event) :
    visits (tr ++ tr') = visits tr ++ visits tr' :=
  List.filterMap_append

section Silent

variable (w : World) (tr : List Event)

theorem visits_now (t : DateTime) : visits (⟨w, .now, .ok t⟩ :: tr) = visits tr := rfl

theorem screens_now (t : DateTime) : screens (⟨w, .now, .ok t⟩ :: tr) = screens tr := rfl

theorem failures_now (t : DateTime) :
    failures ((⟨w, .now, .ok t⟩ : Event) :: tr) = failures tr := rfl

variable (k : SnackBarKind) (title message : String)

theorem visits_snackBar : visits (⟨w, .snackBar k title message, .ok ()⟩ :: tr) = visits tr := rfl

theorem screens_snackBar :
    screens (⟨w, .snackBar k title message, .ok ()⟩ :: tr) = screens tr := rfl

theorem failures_snackBar :
    failures ((⟨w, .snackBar k title message, .ok ()⟩ : Event) :: tr) = failures tr := rfl

end Silent

/-- The AR screen is opened only if a visit of the signed-in user was logged, and the
controller holds the id of the entry. -/
def AccessLogged (w : World) (tr : List Event) (w' : World) : Prop :=
  .arContentCamera ∈ screens tr → ∃ u, w.currentUser = some u ∧ ∃ d id, (d, id) ∈ visits tr ∧
    d.lookup "UserId" = some (.scalar (.string u.uid)) ∧ w'.qrCodeController.documentId = id

/-- The stored code is the scanned one. -/
def CodeMatches (w : World) (scannedCode : String) : Prop :=
  ∃ data, (w.db .qrCode).lookup "currentQRCode" = some data ∧
    QRCodeRepository.codeField data = .ok (some scannedCode)

/-- The document of `u` exists and decodes. -/
def Readable (w : World) (u : User) : Prop :=
  ∃ data, (w.db .users).lookup u.uid = some data ∧
    ∃ user, UserModel.fromSnapshot 0 0 0 u.uid (some data) = .ok user

/-- The record of `u`, who is signed in, was fetched in a run with the given failures. -/
def Fetched (w : World) (failed : List Call) (u : User) : Prop :=
  w.currentUser = some u ∧ Readable w u ∧ .get .users u.uid ∉ failed

section Fetch

variable {w : World}

/-- The fetched record has the id of the signed-in user, and every substitute for it has
the empty id. -/
def FetchedId (w : World) (failed : List Call) (id : String) : Prop :=
  (∃ u, Fetched w failed u ∧ id = u.uid) ∨ ¬ (∃ u, Fetched w failed u) ∧ id = ""

/-- A run that adds nothing and opens nothing, and fails at most in reading a user. -/
structure NoVisit (tr : List Event) : Prop where
  visits : visits tr = []
  screens : screens tr = []
  failures : ∀ c ∈ failures tr, ∃ id, c = .get .users id

theorem NoVisit.add {tr : List Event} (h : NoVisit tr) (d : Doc) :
    .add .museumLogbook d ∉ Async.failures tr := by
  intro hd
  obtain ⟨-, ⟨⟩⟩ := h.failures _ hd

theorem NoVisit.code {tr : List Event} (h : NoVisit tr) :
    .get .qrCode "currentQRCode" ∉ Async.failures tr := by
  intro hd
  obtain ⟨-, ⟨⟩⟩ := h.failures _ hd

/-- The record of the signed-in user is fetched, or another one with the empty id, or
the function throws. -/
theorem fetchUserDetails_spec (w : World) :
    UserRepository.fetchUserDetails.wp platform (fun r tr w' => w' = w ∧ NoVisit tr ∧ match r with
      | .ok user => FetchedId w (failures tr) user.id
      | .error _ => ¬ ∃ u, Fetched w (failures tr) u) w := by
  rw [UserRepository.fetchUserDetails, UserRepository.rethrowing, Prog.wp_handle, authUser,
    Prog.wp_read_bind]
  cases hu : w.currentUser with
  | none =>
    have hno (failed : List Call) : ¬ ∃ u, Fetched w failed u := by
      rintro ⟨u, h, -⟩
      rw [hu] at h
      cases h
    refine Prog.wp_invoke_bind.mpr ⟨nofun, fun (id : String) w' hid => ?_⟩
    obtain ⟨hfresh, hw⟩ := Option.ite_none_left_eq_some.mp hid
    cases hw
    -- no document has an id that was just generated
    have hnone : (w.db .users).lookup id = none :=
      AList.lookup_eq_none.mpr fun h => hfresh (.inl h)
    rw [wp_get_bind, hnone]
    refine ⟨fun e => ⟨rfl, ⟨rfl, rfl, by simp [failures]⟩, hno _⟩, fun _ => ?_⟩
    refine wp_now_bind.mpr fun t₁ => wp_now_bind.mpr fun t₂ => wp_now_bind.mpr fun t₃ => ?_
    exact ⟨rfl, ⟨rfl, rfl, by simp [failures]⟩, .inr ⟨hno _, rfl⟩⟩
  | some u =>
    have honly {failed : List Call} {v : User} (h : Fetched w failed v) : v = u :=
      Option.some.inj (h.1.symm.trans hu)
    rw [show docRef .users ((some u).map (·.uid)) = pure u.uid from rfl, Prog.wp_pure_bind,
      wp_get_bind]
    refine ⟨fun e => ⟨rfl, ⟨rfl, rfl, by simp [failures]⟩, ?_⟩, fun _ => ?_⟩
    · rintro ⟨v, hv⟩
      cases honly hv
      exact hv.2.2 (by simp [failures])
    refine wp_now_bind.mpr fun t₁ => wp_now_bind.mpr fun t₂ => wp_now_bind.mpr fun t₃ => ?_
    cases hdoc : (w.db .users).lookup u.uid with
    | none =>
      refine ⟨rfl, ⟨rfl, rfl, by simp [failures]⟩, .inr ⟨?_, rfl⟩⟩
      rintro ⟨v, hv⟩
      cases honly hv
      obtain ⟨-, ⟨data, hdata, -⟩, -⟩ := hv
      rw [hdoc] at hdata
      cases hdata
    | some data =>
      dsimp only
      cases hdec : UserModel.fromSnapshot t₁ t₂ t₃ u.uid (some data) with
      | error e =>
        refine ⟨rfl, ⟨rfl, rfl, by simp [failures]⟩, ?_⟩
        rintro ⟨v, hv⟩
        cases honly hv
        obtain ⟨-, ⟨data', hdata, hread⟩, -⟩ := hv
        cases hdoc.symm.trans hdata
        obtain ⟨user, huser⟩ := UserModel.decodes_of_decodes t₁ t₂ t₃ hread
        rw [hdec] at huser
        cases huser
      | ok user =>
        have hread : Readable w u := ⟨data, hdoc, UserModel.decodes_of_decodes 0 0 0 ⟨user, hdec⟩⟩
        exact ⟨rfl, ⟨rfl, rfl, by simp [failures]⟩, .inl ⟨u, ⟨hu, hread, by simp [failures]⟩,
          UserModel.fromSnapshot_id hdec⟩⟩

/-- Every failure is absorbed; what replaces the record then has the empty id. -/
theorem fetchUserRecord_spec (w : World) :
    UserController.fetchUserRecord.wp platform (fun r tr w' => r = .ok () ∧ NoVisit tr ∧
      w'.db = w.db ∧ FetchedId w (failures tr) w'.userController.user.id) w := by
  rw [UserController.fetchUserRecord, Prog.wp_ensure, Prog.wp_handle]
  refine Prog.wp_modify_bind.mpr (Prog.wp_bind_of (fetchUserDetails_spec _) ?_ ?_)
  · rintro e tr w' ⟨rfl, hvisit, hno⟩
    refine wp_now_bind.mpr fun t₁ => wp_now_bind.mpr fun t₂ => wp_now_bind.mpr fun t₃ => ?_
    refine ⟨rfl, ⟨?_, ?_, ?_⟩, rfl, .inr ⟨?_, rfl⟩⟩
    · rw [List.append_nil, visits_append, visits_now, visits_now, visits_now, hvisit.visits]
      rfl
    · rw [List.append_nil, screens_append, screens_now, screens_now, screens_now, hvisit.screens]
      rfl
    · rw [List.append_nil, failures_append, failures_now, failures_now, failures_now, failures_nil,
        List.append_nil]
      exact hvisit.failures
    · rw [List.append_nil, failures_append, failures_now, failures_now, failures_now, failures_nil,
        List.append_nil]
      exact hno
  · rintro user tr w' ⟨rfl, hvisit, hid⟩
    show _ ∧ NoVisit (tr ++ [] ++ []) ∧ _
    rw [List.append_nil, List.append_nil]
    exact ⟨rfl, hvisit, rfl, hid⟩

end Fetch

/-- A visit is logged under the id that was fetched, or adding it threw. -/
inductive LogOutcome (w : World) : List (Doc × String) → List Call → World → Prop
  | logged {w' : World} {user : UserModel} {now : DateTime} {id : String} {failed : List Call}
      (hid : FetchedId w failed user.id) (hadd : ∀ d, .add .museumLogbook d ∉ failed)
      (hdoc : w'.qrCodeController.documentId = id)
      (hdb : w'.db .museumLogbook = (w.db .museumLogbook).set id
        (QRCodeController.museumLogbook user now).toJson) :
      LogOutcome w [((QRCodeController.museumLogbook user now).toJson, id)] failed w'
  | unlogged {w' : World} {failed : List Call} (hadd : ∃ d, .add .museumLogbook d ∈ failed) :
      LogOutcome w [] failed w'

/-- The outcome does not depend on what shows. -/
theorem LogOutcome.of_eq {w v w' v' : World} {entries : List (Doc × String)} {failed : List Call}
    (h : LogOutcome w entries failed w') (hid : ∀ id, FetchedId w failed id → FetchedId v failed id)
    (hdoc : v'.qrCodeController.documentId = w'.qrCodeController.documentId)
    (hw : v.db = w.db) (hw' : v'.db = w'.db) : LogOutcome v entries failed v' := by
  cases h with
  | logged hid' hadd hdoc' hdb =>
    refine .logged (hid _ hid') hadd (hdoc.trans hdoc') ?_
    rw [hw, hw', hdb]
  | unlogged hadd => exact .unlogged hadd

theorem museumLogbook_userId (user : UserModel) (now : DateTime) :
    (QRCodeController.museumLogbook user now).toJson.lookup "UserId" =
      some (.scalar (.string user.id)) := rfl

/-- The entry is stored under a new id, or nothing happens. -/
theorem addMuseumVisitLog_spec (log : MuseumLogbookModel) (w : World) :
    (MuseumLogbookRepository.addMuseumVisitLog log).wp platform (fun r tr w' =>
      screens tr = [] ∧ match r with
        | .ok id => visits tr = [(log.toJson, id)] ∧ failures tr = [] ∧
          w'.db .museumLogbook = (w.db .museumLogbook).set id log.toJson
        | .error _ => visits tr = [] ∧ failures tr = [.add .museumLogbook log.toJson]) w := by
  rw [MuseumLogbookRepository.addMuseumVisitLog, Prog.wp_handle]
  refine Prog.wp_invoke.mpr ⟨fun _ e => ⟨rfl, rfl, rfl⟩, fun (id : String) w' hadd => ?_⟩
  obtain ⟨-, hw⟩ := Option.ite_none_left_eq_some.mp hadd
  cases hw
  exact ⟨rfl, rfl, rfl, w.setDb_db_self _ _⟩

/-- Every failure is absorbed. -/
theorem logMuseumVisit_spec (w : World) :
    QRCodeController.logMuseumVisit.wp platform (fun r tr w' => r = .ok () ∧ screens tr = [] ∧
      .get .qrCode "currentQRCode" ∉ failures tr ∧
      LogOutcome w (visits tr) (failures tr) w') w := by
  rw [QRCodeController.logMuseumVisit, Prog.wp_handle]
  refine Prog.wp_bind_of (fetchUserRecord_spec w) ?_ ?_
  · rintro e tr w' ⟨⟨⟩, -⟩
  rintro - tr w₁ ⟨-, hvisit, hdb, hid⟩
  refine Prog.wp_read_bind.mpr (wp_now_bind.mpr fun now => ?_)
  refine Prog.wp_bind_of (addMuseumVisitLog_spec _ w₁) ?_ ?_
  · rintro e tr' w' ⟨hscreens, hvisits, hfailed⟩
    refine (Sync.snackBar .warning "Oh Snap!" e.toText).wp.mpr ?_
    rw [screens_append, screens_append, screens_now, screens_snackBar, hvisit.screens, hscreens,
      visits_append, visits_append, visits_now, visits_snackBar, hvisit.visits, hvisits]
    have hthrew : ∃ d, .add .museumLogbook d ∈ failures tr' := by
      rw [hfailed]
      exact ⟨_, List.mem_cons_self⟩
    obtain ⟨d, hd⟩ := hthrew
    rw [failures_append, failures_append, failures_now, failures_snackBar, failures_nil]
    refine ⟨rfl, rfl, ?_, .unlogged ⟨d, ?_⟩⟩
    · simp [hfailed, hvisit.code]
    · exact List.mem_append_left _ (List.mem_append_right _ hd)
  · rintro id tr' w' ⟨hscreens, hvisits, hfailed, hdb'⟩
    refine ⟨rfl, ?_, ?_, ?_⟩
    · rw [List.append_nil, screens_append, screens_now, hvisit.screens, hscreens]
      rfl
    · rw [List.append_nil, failures_append, failures_now, hfailed, List.append_nil]
      exact hvisit.code
    · rw [List.append_nil, visits_append, visits_now, hvisit.visits, hvisits, failures_append,
        failures_now, hfailed, List.append_nil]
      exact .logged hid hvisit.add rfl (hdb ▸ hdb')

section Verdict

variable {w : World} {failed : List Call}

/-- What it takes to log a visit: the record of the signed-in user is fetched and the
entry is added. An empty uid would be right even in a substitute for the record. -/
def VisitLogged (w : World) (failed : List Call) : Prop :=
  (∀ d, .add .museumLogbook d ∉ failed) ∧
    ∃ u, w.currentUser = some u ∧ (u.uid = "" ∨ Fetched w failed u)

/-- The scan is answered by the AR screen. -/
def GateOpens (w : World) (failed : List Call) (scannedCode : String) : Prop :=
  CodeMatches w scannedCode ∧ .get .qrCode "currentQRCode" ∉ failed

/-- The id of an entry is the signed-in user's exactly if the record was fetched. -/
theorem FetchedId.eq_uid_iff {id : String} (h : FetchedId w failed id) :
    (∃ u, w.currentUser = some u ∧ id = u.uid) ↔
      ∃ u, w.currentUser = some u ∧ (u.uid = "" ∨ Fetched w failed u) := by
  refine exists_congr fun u => and_congr_right fun hu => ?_
  obtain ⟨v, hv, rfl⟩ | ⟨hno, rfl⟩ := h
  · have huv : u = v := Option.some.inj (hu.symm.trans hv.1)
    subst huv
    exact iff_of_true rfl (.inr hv)
  · have hnot : ¬ Fetched w failed u := fun h => hno ⟨u, h⟩
    rw [or_iff_left hnot, eq_comm]

end Verdict

/-- A logged visit is what `AccessLogged` asks for, and nothing less. -/
theorem LogOutcome.logged_iff {w w' : World} {tr : List Event}
    (h : LogOutcome w (visits tr) (failures tr) w') (hscreen : .arContentCamera ∈ screens tr) :
    AccessLogged w tr w' ↔ VisitLogged w (failures tr) := by
  rw [AccessLogged, imp_iff_right hscreen]
  generalize visits tr = entries at h
  generalize failures tr = failed at h
  cases h with
  | unlogged hadd =>
    refine iff_of_false ?_ fun hlogged => hadd.elim hlogged.1
    rintro ⟨-, -, d, id, hmem, -⟩
    cases hmem
  | @logged _ user now id _ hid hadd hdoc hdb =>
    have huser := museumLogbook_userId user now
    rw [VisitLogged, and_iff_right hadd, ← hid.eq_uid_iff]
    refine exists_congr fun u => and_congr_right fun _ => ?_
    constructor
    · rintro ⟨d, id, hmem, hd, -⟩
      cases List.mem_singleton.mp hmem
      rw [huser] at hd
      simpa using hd
    · intro huid
      exact ⟨_, _, List.mem_singleton_self _, huid ▸ huser, hdoc⟩

/-- The stored code is read, and whether it matches is known, unless this throws. -/
theorem getCurrentQRCode_spec (w : World) :
    QRCodeRepository.getCurrentQRCode.wp platform (fun r tr w' => w' = w ∧ visits tr = [] ∧
      screens tr = [] ∧ match r with
        | .ok code => failures tr = [] ∧ ∀ c, CodeMatches w c ↔ code = some c
        | .error _ => ∀ c, ¬ GateOpens w (failures tr) c) w := by
  rw [QRCodeRepository.getCurrentQRCode]
  refine wp_get_bind.mpr ⟨fun e => ⟨rfl, rfl, rfl, fun c h => h.2 List.mem_cons_self⟩,
    fun _ => ?_⟩
  cases hdoc : (w.db .qrCode).lookup "currentQRCode" with
  | none =>
    refine ⟨rfl, rfl, rfl, rfl, fun c => iff_of_false ?_ nofun⟩
    rintro ⟨data, hdata, -⟩
    rw [hdoc] at hdata
    cases hdata
  | some data =>
    have honly (c : String) : CodeMatches w c ↔ QRCodeRepository.codeField data = .ok (some c) := by
      constructor
      · rintro ⟨data', hdata, hc⟩
        cases hdoc.symm.trans hdata
        exact hc
      · exact fun hc => ⟨data, hdoc, hc⟩
    dsimp only
    cases hcode : QRCodeRepository.codeField data with
    | error e =>
      refine ⟨rfl, rfl, rfl, fun c h => ?_⟩
      have hc := (honly c).mp h.1
      rw [hcode] at hc
      cases hc
    | ok code =>
      refine ⟨rfl, rfl, rfl, rfl, fun c => ?_⟩
      rw [honly, hcode]
      exact ⟨Except.ok.inj, congrArg Except.ok⟩

/-- A scan that does not match, or whose code cannot be read, opens nothing; any other
logs a visit, or tries to, and opens the AR screen. -/
theorem checkQRCode_spec (scannedCode : String) (w : World) :
    (QRCodeController.checkQRCode scannedCode).wp platform (fun _ tr w' =>
      GateOpens w (failures tr) scannedCode ∧ screens tr = [.arContentCamera] ∧
          LogOutcome w (visits tr) (failures tr) w' ∨
        ¬ GateOpens w (failures tr) scannedCode ∧ screens tr = [] ∧ visits tr = []) w := by
  rw [QRCodeController.checkQRCode, Prog.wp_handle]
  refine Prog.wp_modify_bind.mpr (Prog.wp_bind_of (getCurrentQRCode_spec _) ?_ ?_)
  · rintro e tr w' ⟨rfl, hvisits, hscreens, hclosed⟩
    refine (Sync.snackBar _ _ _).wp.mpr (.inr ⟨?_, ?_, ?_⟩)
    · rw [failures_append, failures_snackBar, failures_nil, List.append_nil]
      exact hclosed scannedCode
    · rw [screens_append, screens_snackBar, hscreens]
      rfl
    · rw [visits_append, visits_snackBar, hvisits]
      rfl
  rintro code tr w₁ ⟨rfl, hvisits, hscreens, hfailed, hmatches⟩
  by_cases hcode : code = some scannedCode
  · rw [if_pos hcode]
    have hmatch : CodeMatches w scannedCode := (hmatches scannedCode).mpr hcode
    refine (Sync.snackBar _ _ _).wp_bind.mpr ?_
    refine Prog.wp_bind_of (logMuseumVisit_spec _) ?_ ?_
    · rintro e tr' w' ⟨⟨⟩, -⟩
    rintro - tr' w₂ ⟨-, hscreens', hcode', hlog⟩
    refine (Sync.getOff .arContentCamera).wp.mpr (.inl ?_)
    rw [failures_append, failures_snackBar, failures_append, screens_append, screens_snackBar,
      screens_append, visits_append, visits_snackBar, visits_append, hfailed, hscreens, hscreens',
      hvisits]
    show GateOpens w ([] ++ (failures tr' ++ [])) scannedCode ∧ _ ∧
      LogOutcome w ([] ++ (visits tr' ++ [])) ([] ++ (failures tr' ++ [])) _
    rw [List.nil_append, List.append_nil, List.nil_append, List.append_nil]
    exact ⟨⟨hmatch, hcode'⟩, rfl, hlog.of_eq (fun _ h => h) rfl rfl rfl⟩
  · rw [if_neg hcode]
    refine (Sync.snackBar _ _ _).wp.mpr (.inr ⟨fun h => ?_, ?_, ?_⟩)
    · exact hcode ((hmatches scannedCode).mp h.1)
    · rw [screens_append, screens_snackBar, hscreens]
      rfl
    · rw [visits_append, visits_snackBar, hvisits]
      rfl

/-- The museum is entered with a registered visit, in a run of a scan, exactly if the
code does not match or the visit could be logged. -/
theorem accessLogged_iff {w w' : World} {scannedCode : String} {tr : List Event}
    {r : Except Exn Unit}
    (hrun : (QRCodeController.checkQRCode scannedCode).Run platform w tr r w') :
    AccessLogged w tr w' ↔
      (GateOpens w (failures tr) scannedCode → VisitLogged w (failures tr)) := by
  obtain ⟨hopen, hscreens, hlog⟩ | ⟨hclosed, hscreens, -⟩ :=
    Prog.wp_iff_run.mp (checkQRCode_spec scannedCode w) tr r w' hrun
  · rw [imp_iff_right hopen]
    exact hlog.logged_iff (by simp [hscreens])
  · refine iff_of_true (fun h => ?_) fun h => absurd h hclosed
    rw [hscreens] at h
    cases h

/-- A user with a record, and the code that the entrance shows. -/
def visitor : World :=
  { World.withUsers [.of "u" "u@example.com" "password"] with
    db := fun
      | .users => AList.singleton "u" (Doc.ofFields [("Email", Scalar.string "u@example.com")])
      | .qrCode => AList.singleton "currentQRCode" (Doc.ofFields [("Code", Scalar.string "code")])
      | _ => ∅ }

/-- A visitor with a record gets in, and the visit is logged. -/
theorem access_logged_for_visitor :
    ∃ tr r w', (QRCodeController.checkQRCode "code").Run platform visitor tr r w' ∧
      .arContentCamera ∈ screens tr ∧ AccessLogged visitor tr w' := by
  obtain ⟨tr, r, w', hrun, hq⟩ := scenario_run (QRCodeController.checkQRCode "code") visitor
    (fun _ _ => none) (fun out => screens out.1 = [.arContentCamera] ∧ failures out.1 = [])
    (by decide +kernel)
  obtain ⟨hscreens, hfailed⟩ := of_decide_eq_true hq
  refine ⟨tr, r, w', hrun, by simp [hscreens], (accessLogged_iff hrun).mpr fun _ => ?_⟩
  have hread : Readable visitor (.of "u" "u@example.com" "password") :=
    ⟨Doc.ofFields [("Email", Scalar.string "u@example.com")], rfl, _, rfl⟩
  rw [hfailed]
  exact ⟨fun d => List.not_mem_nil, _, rfl, .inr ⟨rfl, hread, List.not_mem_nil⟩⟩

/-- The calls that log a visit. -/
def Call.logsVisit : Call → Bool
  | .add .museumLogbook _ => true
  | _ => false

/-- The entry cannot be added, and the AR screen opens all the same. -/
theorem access_not_logged_when_adding_fails :
    ¬ ∀ (scannedCode : String) (w w' : World) (tr : List Event) (r : Except Exn Unit),
      (QRCodeController.checkQRCode scannedCode).Run platform w tr r w' → AccessLogged w tr w' := by
  intro hall
  obtain ⟨tr, r, w', hrun, hq⟩ := scenario_run (QRCodeController.checkQRCode "code") visitor
    (throwing Call.logsVisit (.firebase "permission-denied" ""))
    (fun out => screens out.1 = [.arContentCamera] ∧ visits out.1 = []) (by decide +kernel)
  obtain ⟨hscreens, hvisits⟩ := of_decide_eq_true hq
  obtain ⟨u, -, d, id, hmem, -⟩ := hall "code" visitor w' tr r hrun (by simp [hscreens])
  rw [hvisits] at hmem
  cases hmem

end AroundMuseo
