import AroundMuseo.Core.Phases
import AroundMuseo.Core.Projection
import AroundMuseo.Museum.Access
import AroundMuseo.Platform.Frames
import AroundMuseo.Screens.QRCodeScannerScreen

/-!
# The scanner

Detections arrive while a check is under way, and the code at the entrance may change at any
time. The first check completes the scan before it awaits anything, so that every later
detection is dropped.
-/

namespace AroundMuseo

open Async Async.Prog Firestore QRCodeScannerScreen

/-- What happens while the scanner is open: the camera delivers a capture, or the document of
the code is changed. -/
inductive ScannerOperation where
  | onDetect (barcodes : List Barcode)
  | changeCode (doc : Option Doc)
  deriving DecidableEq

/-- The document of the code is stored or deleted. -/
def World.changeCode (doc : Option Doc) (w : World) : World :=
  w.setDb .qrCode (match doc with
    | some data => (w.db .qrCode).set "currentQRCode" data
    | none => (w.db .qrCode).delete "currentQRCode")

namespace ScannerOperation

def body : ScannerOperation → App Unit
  | onDetect barcodes => QRCodeScannerScreen.onDetect barcodes
  | changeCode doc => Prog.modify (World.changeCode doc)

/-- The code of a capture, if there is one: that of the first barcode. -/
def detected : ScannerOperation → Option String
  | onDetect (⟨some code⟩ :: _) => if code = "" then none else some code
  | _ => none

end ScannerOperation

/-- The calls of a scanner, with the operation that makes them. -/
abbrev ScannerReply := NamedReply ScannerOperation Reply

abbrev ScannerEvent := Async.Event ScannerReply World Exn

/-- The code that an event has read from the store. -/
def readCode : ScannerEvent → Option String
  | ⟨_, (_, .get .qrCode "currentQRCode"), .ok (some data)⟩ =>
    match QRCodeRepository.codeField data with
    | .ok code => code
    | .error _ => none
  | _ => none

/-- The calls that log a visit or let a visitor in. -/
def Call.admits : Call → Bool
  | .getOff .arContentCamera => true
  | c => c.logsVisit

/-- The entries that the named operations add to the logbook. -/
def scannerVisits (tr : List ScannerEvent) : List (Doc × String) :=
  visits (tr.map fun ev => ⟨ev.state, ev.call.2, ev.reply⟩)

/-- At most one visit is logged, and none is, nor is the AR screen opened, but by an operation
that detected the code it read. -/
structure OneScanOneVisit (tr : List ScannerEvent) : Prop where
  once : (scannerVisits tr).length ≤ 1
  matched : ∀ pre ev post, tr = pre ++ ev :: post → ev.call.2.admits = true →
    ∃ ev' ∈ pre, ∃ code, ev'.call.1 = ev.call.1 ∧ ev.call.1.detected = some code ∧
      readCode ev' = some code

section Monitor

/-- How far the scan is. -/
inductive ScanPhase where
  | reading
  | granted (op : ScannerOperation)
  | logged (op : ScannerOperation)

namespace ScanPhase

/-- A visitor is let in after the code has matched, and logged once. -/
def next : ScanPhase → ScannerEvent → ScanPhase
  | reading, ev =>
    if ev.call.1.detected.isSome ∧ readCode ev = ev.call.1.detected then granted ev.call.1
    else reading
  | granted op, ev => if ev.call.2.logsVisit then logged op else granted op
  | logged op, _ => logged op

/-- The calls of a phase. -/
def Allows : ScanPhase → ScannerOperation × Call → Prop
  | reading, c => c.2.admits = false
  | granted op, c => c.1 = op
  | logged op, c => c.1 = op ∧ c.2.logsVisit = false

/-- The entries that were added, at most. -/
def entries : ScanPhase → Nat
  | logged _ => 1
  | _ => 0

theorem admits_of_logsVisit {c : Call} (h : c.logsVisit = true) : c.admits = true := by
  cases c <;> first | exact h | cases h

/-- An allowed call that logs a visit is the first one. -/
theorem entries_next {g : ScanPhase} {ev : ScannerEvent} (h : g.Allows ev.call) :
    (g.entries + if ev.call.2.logsVisit then 1 else 0) ≤ (g.next ev).entries := by
  cases g with
  | reading =>
    have hno : ev.call.2.logsVisit = false := by
      by_contra hlogs
      have hadmits := admits_of_logsVisit (Bool.not_eq_false _ ▸ hlogs)
      exact absurd h (by simp [Allows, hadmits])
    simp [hno, entries]
  | granted op =>
    rw [next]
    cases ev.call.2.logsVisit <;> simp [entries]
  | logged op =>
    have hno : ev.call.2.logsVisit = false := h.2
    simp [hno, next]

end ScanPhase

/-- The monitor of a scan. -/
def scanMonitor : Monitor ScannerReply World Exn ScanPhase where
  first := .reading
  next := ScanPhase.next
  allowed := ScanPhase.Allows

variable {tr : List ScannerEvent} {op : ScannerOperation}

/-- A scan that is not reading any more has read the code that it detected. -/
theorem exists_read_of_phase
    (h : scanMonitor.phase tr = .granted op ∨ scanMonitor.phase tr = .logged op) :
    ∃ ev ∈ tr, ∃ code, ev.call.1 = op ∧ op.detected = some code ∧ readCode ev = some code := by
  induction tr using List.reverseRecOn with
  | nil => rcases h with h | h <;> cases h
  | append_singleton tr ev ih =>
    rw [Monitor.phase_snoc] at h
    have hearlier (hphase : scanMonitor.phase tr = .granted op ∨
      scanMonitor.phase tr = .logged op) :
        ∃ ev' ∈ tr ++ [ev], ∃ code, ev'.call.1 = op ∧ op.detected = some code ∧
          readCode ev' = some code := by
      obtain ⟨ev', hev', hread⟩ := ih hphase
      exact ⟨ev', List.mem_append_left _ hev', hread⟩
    have hnext : (scanMonitor.phase tr).next ev = .granted op ∨
        (scanMonitor.phase tr).next ev = .logged op := h
    cases hphase : scanMonitor.phase tr with
    | reading =>
      rw [hphase, ScanPhase.next] at hnext
      by_cases hread : ev.call.1.detected.isSome ∧ readCode ev = ev.call.1.detected
      · obtain ⟨code, hcode⟩ := Option.isSome_iff_exists.mp hread.1
        have hop : ev.call.1 = op := by simpa [hread] using hnext
        refine ⟨ev, by simp, code, hop, hop ▸ hcode, ?_⟩
        rw [hread.2, hcode]
      · simp [hread] at hnext
    | granted op' =>
      apply hearlier
      rw [hphase, ScanPhase.next] at hnext
      rw [hphase]
      left
      by_cases hlogs : ev.call.2.logsVisit = true <;> simpa [hlogs] using hnext
    | logged op' =>
      apply hearlier
      rw [hphase, ScanPhase.next] at hnext
      rw [hphase]
      right
      simpa using hnext

theorem scannerVisits_snoc (tr : List ScannerEvent) (ev : ScannerEvent) :
    scannerVisits (tr ++ [ev]) = scannerVisits tr ++ scannerVisits [ev] := by
  simp [scannerVisits]

/-- An event adds at most one entry, and none unless its call logs a visit. -/
theorem length_scannerVisits_singleton (ev : ScannerEvent) :
    (scannerVisits [ev]).length ≤ if ev.call.2.logsVisit then 1 else 0 := by
  obtain ⟨w, ⟨op, c⟩, r⟩ := ev
  cases c with
  | add n d =>
    cases n with
    | museumLogbook => cases r <;> simp [scannerVisits, visits, Call.logsVisit]
    | _ => exact Nat.zero_le 0
  | _ => exact Nat.zero_le 0

/-- The calls that were allowed have added at most one entry. -/
theorem length_scannerVisits_le (h : scanMonitor.Accepts tr) :
    (scannerVisits tr).length ≤ (scanMonitor.phase tr).entries := by
  induction tr using List.reverseRecOn with
  | nil => exact Nat.zero_le 0
  | append_singleton tr ev ih =>
    obtain ⟨hacc, hallowed⟩ := Monitor.accepts_snoc.mp h
    have hbefore := ih hacc
    have hlast := length_scannerVisits_singleton ev
    have hnext := ScanPhase.entries_next hallowed
    rw [scannerVisits_snoc, List.length_append, Monitor.phase_snoc]
    show _ ≤ ((scanMonitor.phase tr).next ev).entries
    omega

/-- What the monitor accepts is one scan with one visit. -/
theorem oneScanOneVisit_of_accepts (h : scanMonitor.Accepts tr) : OneScanOneVisit tr where
  once := by
    have hlength := length_scannerVisits_le h
    have hentries : (scanMonitor.phase tr).entries ≤ 1 := by
      cases scanMonitor.phase tr <;> simp [ScanPhase.entries]
    omega
  matched pre ev post htr hadmits := by
    have hallowed : (scanMonitor.phase pre).Allows ev.call := h pre ev post htr
    have hread : scanMonitor.phase pre = .granted ev.call.1 ∨
        scanMonitor.phase pre = .logged ev.call.1 := by
      cases hphase : scanMonitor.phase pre with
      | reading =>
        rw [hphase] at hallowed
        simp [ScanPhase.Allows, hadmits] at hallowed
      | granted op =>
        rw [hphase] at hallowed
        left
        rw [show ev.call.1 = op from hallowed]
      | logged op =>
        rw [hphase] at hallowed
        right
        rw [hallowed.1]
    exact exists_read_of_phase hread

end Monitor

section Check

variable {op : ScannerOperation} {code : String} {w : World}

/-- A scan is completed. -/
def ScanCompleted (w : World) : Prop := w.qrCodeController.scanCompleted = true

theorem scanCompleted_of_perform {c : Call} {w w' : World} {r : Except Exn (Reply c)}
    (h : platform.perform c w r = some w') : ScanCompleted w' ↔ ScanCompleted w := by
  have hcontroller : w'.qrCodeController = w.qrCodeController :=
    congrArg (·.2.1) (controllers_of_perform h)
  rw [ScanCompleted, ScanCompleted, hcontroller]

theorem scanCompleted_of_effect {c : Call} {w w' : World} {v : Reply c}
    (h : platform.effect c w v = some w') : ScanCompleted w' ↔ ScanCompleted w :=
  scanCompleted_of_perform (r := .ok v) h

/-- The code has matched for `op`. -/
def Admitted (op : ScannerOperation) (g : ScanPhase) : Prop := g = .granted op ∨ g = .logged op

/-- Whoever is admitted makes any calls but those that log a visit. -/
theorem follows_unlogged {α : Type} {p : App α} {g : ScanPhase} (hg : Admitted op g)
    (hp : p.Confined (fun c => c.logsVisit = false) (·.qrCodeController.scanCompleted))
    (hw : ScanCompleted w) : p.Follows platform (scanMonitor.caller op) ScanCompleted
      (fun _ g' w' => g' = g ∧ ScanCompleted w') g w := by
  refine Confined.follows ?_ ?_ ?_ ?_ hp hw
  · intro c hc
    rcases hg with rfl | rfl
    · exact rfl
    · exact ⟨rfl, hc⟩
  · intro c s r hc
    rcases hg with rfl | rfl
    · show (if c.logsVisit = true then _ else _) = _
      rw [hc]
      rfl
    · rfl
  · intro s s' hview hs
    rw [ScanCompleted, hview]
    exact hs
  · exact fun c s v s' h => (scanCompleted_of_effect h).mpr

/-- The stored code is read, and admits `op` if it is the one that `op` detected. -/
theorem follows_getCurrentQRCode (hop : op.detected = some code) (hw : ScanCompleted w) :
    QRCodeRepository.getCurrentQRCode.Follows platform (scanMonitor.caller op) ScanCompleted
      (fun r g w' => ScanCompleted w' ∧ match r with
        | .ok current => g = if current = some code then .granted op else .reading
        | .error _ => g = .reading) .reading w := by
  have hnext (w₁ : World) (r : Except Exn (Option Doc)) : (scanMonitor.caller op).next .reading
      ⟨w₁, .get .qrCode "currentQRCode", r⟩ =
        if readCode ⟨w₁, (op, .get .qrCode "currentQRCode"), r⟩ = some code then .granted op
        else .reading := by
    show (if op.detected.isSome ∧ _ = op.detected then _ else _) = _
    simp [hop]
  unfold QRCodeRepository.getCurrentQRCode
  refine follows_bind (follows_invoke rfl rfl hw fun r w₁ w₂ _ hw₂ => ?_)
  rw [hnext]
  cases r with
  | error e => exact ⟨hw₂, rfl⟩
  | ok data =>
    cases data with
    | none => exact ⟨hw₂, rfl⟩
    | some data =>
      have hread : readCode ⟨w₁, (op, .get .qrCode "currentQRCode"), .ok (some data)⟩ =
        match QRCodeRepository.codeField data with
        | .ok current => current
        | .error _ => none := rfl
      rw [hread]
      dsimp only [liftExcept]
      cases QRCodeRepository.codeField data with
      | error e => exact ⟨hw₂, rfl⟩
      | ok current => exact ⟨hw₂, rfl⟩

/-- A snack bar may show in every phase, and it does not throw. -/
theorem follows_snackBar {g : ScanPhase} (hg : g = .reading ∨ Admitted op g) (hw : ScanCompleted w)
    {kind : SnackBarKind} {title message : String} {Q : Except Exn Unit → ScanPhase → World → Prop}
    (hQ : ∀ w', ScanCompleted w' → Q (.ok ()) g w') :
    (await (.snackBar kind title message)).Follows platform (scanMonitor.caller op)
      ScanCompleted Q g w := by
  refine follows_invoke_sync rfl ?_ fun v w' h => ?_
  · rcases hg with rfl | rfl | rfl
    · exact rfl
    · exact rfl
    · exact ⟨rfl, rfl⟩
  · have hnext : (scanMonitor.caller op).next g ⟨w, .snackBar kind title message, .ok v⟩ = g := by
      rcases hg with rfl | rfl | rfl
      · show (if op.detected.isSome ∧ none = op.detected then _ else _) = _
        cases op.detected <;> simp
      · rfl
      · rfl
    rw [hnext]
    exact hQ w' ((scanCompleted_of_effect h).mpr hw)

/-- The visit is logged at most once, and every failure is absorbed. -/
theorem follows_logMuseumVisit (hw : ScanCompleted w) :
    QRCodeController.logMuseumVisit.Follows platform (scanMonitor.caller op) ScanCompleted
      (fun _ g w' => Admitted op g ∧ ScanCompleted w') (.granted op) w := by
  have hfetch : UserController.fetchUserRecord.Confined (fun c => c.logsVisit = false)
      (·.qrCodeController.scanCompleted) := by
    apply confined_fetchUserRecord
    · intro c hc
      cases c <;> first | rfl | cases hc
    · exact fun w u => rfl
  unfold QRCodeController.logMuseumVisit
  apply follows_handle
  refine follows_bind (follows_mono (follows_unlogged (.inl rfl) hfetch hw) ?_)
  rintro r g w₁ ⟨rfl, hw₁⟩
  cases r with
  | error e => exact follows_snackBar (.inr (.inl rfl)) hw₁ fun w' hw' => ⟨.inl rfl, hw'⟩
  | ok =>
    refine follows_read_bind (follows_bind (follows_invoke_sync rfl rfl fun now w₂ hnow => ?_))
    have hw₂ : ScanCompleted w₂ := (scanCompleted_of_effect hnow).mpr hw₁
    unfold MuseumLogbookRepository.addMuseumVisitLog
    refine follows_bind (follows_handle (follows_invoke rfl rfl hw₂ fun id w₃ w₄ _ hw₄ => ?_))
    -- the one call that logs a visit has been made
    cases id with
    | error e => exact follows_snackBar (.inr (.inr rfl)) hw₄ fun w' hw' => ⟨.inr rfl, hw'⟩
    | ok id => exact ⟨.inr rfl, hw₄⟩

/-- A check completes the scan and then follows the monitor. -/
theorem follows_checkQRCode (hop : op.detected = some code) :
    (QRCodeController.checkQRCode code).Follows platform (scanMonitor.caller op) ScanCompleted
      (fun _ _ w' => ScanCompleted w') .reading w := by
  unfold QRCodeController.checkQRCode
  apply follows_handle
  refine follows_modify_bind (follows_bind (follows_mono (follows_getCurrentQRCode hop rfl) ?_))
  rintro r g w₁ ⟨hw₁, hread⟩
  cases r with
  | error e => exact follows_snackBar (.inl hread) hw₁ fun w' hw' => hw'
  | ok current =>
    dsimp only at hread ⊢
    by_cases hcode : current = some code
    · rw [if_pos hcode] at hread ⊢
      subst hread
      refine follows_bind (follows_snackBar (.inr (.inl rfl)) hw₁ fun w₂ hw₂ => ?_)
      refine follows_bind (follows_mono (follows_logMuseumVisit hw₂) ?_)
      rintro r g w₃ ⟨hg, hw₃⟩
      have hopen : (await (.getOff .arContentCamera)).Confined (fun c => c.logsVisit = false)
          (·.qrCodeController.scanCompleted) := confined_invoke rfl
      cases r with
      | error e => exact follows_snackBar (.inr hg) hw₃ fun w' hw' => hw'
      | ok =>
        refine follows_mono (follows_unlogged hg hopen hw₃) ?_
        rintro r g' w₄ ⟨rfl, hw₄⟩
        cases r with
        | error e => exact follows_snackBar (.inr hg) hw₄ fun w' hw' => hw'
        | ok => exact hw₄
    · rw [if_neg hcode] at hread ⊢
      subst hread
      exact follows_snackBar (.inl rfl) hw₁ fun w' hw' => hw'

end Check

/-- The platform of the named operations. -/
abbrev scannerPlatform : Async.Platform ScannerReply World :=
  platform.named (Parts.whole ScannerOperation World)

/-- An operation under its name. -/
abbrev scannerBody (op : ScannerOperation) : Async.Prog ScannerReply World Exn Unit :=
  op.body.named (Parts.whole ScannerOperation World) op

section Start

variable {barcodes : List Barcode} {w w' : World}
  {ms : List (Moment ScannerReply World Exn)} {t : Task ScannerReply World Exn}

/-- What `onDetect` does once it has read the flag. -/
theorem onDetect_eq (barcodes : List Barcode) :
    QRCodeScannerScreen.onDetect barcodes = (do
      let scanCompleted ← Prog.read (·.qrCodeController.scanCompleted)
      match (ScannerOperation.onDetect barcodes).detected with
      | some code => if scanCompleted = false then (QRCodeController.checkQRCode code).unawaited
      | none => pure ()) := by
  unfold QRCodeScannerScreen.onDetect
  congr 1
  ext scanCompleted
  match barcodes with
  | [] => simp [ScannerOperation.detected]
  | ⟨none⟩ :: _ => simp [ScannerOperation.detected]
  | ⟨some code⟩ :: _ =>
    by_cases hcode : code = "" <;> simp [ScannerOperation.detected, hcode]

/-- An operation that starts does nothing to the scan, or the scan is not completed and it
follows the monitor. -/
theorem scanner_start {op : ScannerOperation}
    (h : (scannerBody op).Advance scannerPlatform w ms t w') :
    ms = [] ∧ t = .finished ∧ (ScanCompleted w' ↔ ScanCompleted w) ∨
      ¬ ScanCompleted w ∧ (scannerBody op).Follows scannerPlatform scanMonitor ScanCompleted
        (fun _ _ => ScanCompleted) .reading w := by
  cases op with
  | changeCode doc =>
    obtain ⟨rfl, rfl, rfl⟩ := h
    exact .inl ⟨rfl, rfl, Iff.rfl⟩
  | onDetect barcodes =>
    have hbody : scannerBody (.onDetect barcodes) =
        (QRCodeScannerScreen.onDetect barcodes).named (Parts.whole ScannerOperation World)
          (.onDetect barcodes) := rfl
    rw [hbody, onDetect_eq] at h ⊢
    cases hdetected : (ScannerOperation.onDetect barcodes).detected with
    | none =>
      rw [hdetected] at h
      obtain ⟨rfl, rfl, rfl⟩ := h
      exact .inl ⟨rfl, rfl, Iff.rfl⟩
    | some code =>
      by_cases hw : w.qrCodeController.scanCompleted = false
      · right
        refine ⟨by simp [ScanCompleted, hw], Follows.named (follows_read_bind ?_)⟩
        dsimp only
        rw [if_pos hw]
        exact follows_unawaited (follows_checkQRCode hdetected)
      · left
        have hdone : ((if w.qrCodeController.scanCompleted = false then
            (QRCodeController.checkQRCode code).unawaited else pure ()).named
              (Parts.whole ScannerOperation World) (.onDetect barcodes)).Advance
                scannerPlatform w ms t w' := by
          rw [hdetected] at h
          exact h
        rw [if_neg hw] at hdone
        obtain ⟨rfl, rfl, rfl⟩ := hdone
        exact ⟨rfl, rfl, Iff.rfl⟩

end Start

/-- Whatever the camera delivers and whatever becomes of the stored code, one visit is logged
at most, and the AR screen opens only on a code that was read. -/
theorem one_scan_one_visit {w₀ : World} {ms : List (Moment ScannerReply World Exn)}
    {c : Async.Pool ScannerReply World Exn ScannerOperation}
    (hrun : Pool.Run scannerPlatform scannerBody ⟨w₀, []⟩ ms c) : OneScanOneVisit (answers ms) := by
  have hexclusive : Pool.Exclusive scannerPlatform scanMonitor ScanCompleted c ms := by
    refine hrun.exclusive ?_ fun op s ms t s' => scanner_start
    intro call w r w' h
    obtain ⟨op, call⟩ := call
    rw [platform.named_whole_perform] at h
    exact scanCompleted_of_perform h
  exact oneScanOneVisit_of_accepts hexclusive.accepts

/-- Three frames of the code of the entrance, which changes in between. -/
theorem one_scan_one_visit_visitor : ∃ ms c,
    Pool.Run scannerPlatform scannerBody ⟨visitor, []⟩ ms c ∧
      (scannerVisits (answers ms)).length = 1 ∧ OneScanOneVisit (answers ms) := by
  have hfollow : ((⟨visitor, []⟩ : Async.Pool ScannerReply World Exn ScannerOperation).follow
      scannerPlatform scannerBody (fun w c => scenario (fun _ _ => none) w c.2)
      [.start (.onDetect [⟨some "code"⟩]), .start (.onDetect [⟨some "code"⟩]), .go 0,
        .start (.changeCode none), .go 0, .start (.onDetect [⟨some "code"⟩]), .go 0, .go 0, .go 0,
        .go 0]).any (fun out => (scannerVisits (answers out.1)).length = 1) = true := by
    decide +kernel
  obtain ⟨ms, c, hrun, hq⟩ := Async.Pool.exists_run_of_follow _ hfollow
  exact ⟨ms, c, hrun, of_decide_eq_true hq, one_scan_one_visit hrun⟩

end AroundMuseo
