import AroundMuseo.Core.Segments
import AroundMuseo.Museum.Scanner

/-!
# Scanning again

A check completes the scan and nothing takes this back, whatever comes of the check. So the
first code that is detected is also the last one.
-/

namespace AroundMuseo

open Async Async.Prog Firestore QRCodeScannerScreen

/-- The scanner takes a code: the check of it starts, and one that matches is logged and opens
the AR screen if every call is answered. -/
structure ScannerReady (w : World) : Prop where
  starts : ∀ barcodes code, (ScannerOperation.onDetect barcodes).detected = some code →
    ∀ ms t w', (QRCodeScannerScreen.onDetect barcodes).Advance platform w ms t w' ↔
      (QRCodeController.checkQRCode code).unawaited.Advance platform w ms t w'
  admits : ∀ barcodes code, (ScannerOperation.onDetect barcodes).detected = some code →
    CodeMatches w code → ∀ tr r w', (QRCodeScannerScreen.onDetect barcodes).Run platform w tr r w' →
      AllAnswered tr → screens tr = [.arContentCamera] ∧ (visits tr).length = 1

section Ready

variable {w : World} {barcodes : List Barcode} {code : String}

/-- While no scan is completed, `onDetect` does what the check does. -/
theorem onDetect_advance (hdetected : (ScannerOperation.onDetect barcodes).detected = some code)
    (hw : w.qrCodeController.scanCompleted = false) {ms : History} {t : Task Reply World Exn}
    {w' : World} : (QRCodeScannerScreen.onDetect barcodes).Advance platform w ms t w' ↔
      (QRCodeController.checkQRCode code).unawaited.Advance platform w ms t w' := by
  rw [onDetect_eq, hdetected, Prog.advance_read_bind]
  dsimp only
  rw [if_pos hw]

theorem onDetect_run (hdetected : (ScannerOperation.onDetect barcodes).detected = some code)
    (hw : w.qrCodeController.scanCompleted = false) {tr : List Event} {r : Except Exn Unit}
    {w' : World} (hrun : (QRCodeScannerScreen.onDetect barcodes).Run platform w tr r w') :
    (QRCodeController.checkQRCode code).unawaited.Run platform w tr r w' := by
  rw [onDetect_eq, hdetected] at hrun
  have hbranch : (if w.qrCodeController.scanCompleted = false then
      (QRCodeController.checkQRCode code).unawaited else pure ()).Run platform w tr r w' := hrun
  rwa [if_pos hw] at hbranch

/-- A completed scan drops every capture. -/
theorem onDetect_dropped (hw : ScanCompleted w) :
    (QRCodeScannerScreen.onDetect barcodes).Advance platform w [] .finished w := by
  have hopen : ¬ w.qrCodeController.scanCompleted = false := by simp [show _ = true from hw]
  rw [onDetect_eq, Prog.advance_read_bind]
  split
  · rw [if_neg hopen]
    exact ⟨rfl, rfl, rfl⟩
  · exact ⟨rfl, rfl, rfl⟩

/-- A check of the stored code logs a visit and opens the AR screen if nothing throws. -/
theorem checkQRCode_admits (hmatches : CodeMatches w code) :
    (QRCodeController.checkQRCode code).unawaited.wp platform (fun _ tr _ => AllAnswered tr →
      screens tr = [.arContentCamera] ∧ (visits tr).length = 1) w := by
  refine Prog.wp_unawaited.mpr (Prog.wp_mono (checkQRCode_spec code w) ?_)
  intro r tr w' hspec hanswered
  rw [failures_eq_nil_iff.mpr hanswered] at hspec
  rcases hspec with ⟨-, hscreens, hlog⟩ | ⟨hclosed, -⟩
  · refine ⟨hscreens, ?_⟩
    generalize visits tr = entries at hlog
    cases hlog with
    | logged => rfl
    | unlogged hadd =>
      obtain ⟨d, hd⟩ := hadd
      cases hd
  · exact absurd ⟨hmatches, List.not_mem_nil⟩ hclosed

/-- The scanner is ready exactly until a scan is completed. -/
theorem scannerReady_iff : ScannerReady w ↔ ¬ ScanCompleted w := by
  constructor
  · intro h hw
    have hcheck := (h.starts [⟨some "code"⟩] "code" rfl [] .finished w).mp (onDetect_dropped hw)
    obtain ⟨hissued, -⟩ := hcheck
    cases hissued
  · intro hw
    have hopen : w.qrCodeController.scanCompleted = false := Bool.eq_false_iff.mpr hw
    constructor
    · intro barcodes code hdetected ms t w'
      exact onDetect_advance hdetected hopen
    · intro barcodes code hdetected hmatches tr r w' hrun hanswered
      have hcheck := onDetect_run hdetected hopen hrun
      exact Prog.wp_iff_run.mp (checkQRCode_admits hmatches) tr r w' hcheck hanswered

end Ready

section Latch

/-- A segment does not take a completed scan back, and completes one only for an operation that
has detected a code. -/
def ScanLatched (op : ScannerOperation) (w w' : World) : Prop :=
  (ScanCompleted w → ScanCompleted w') ∧
    (op.detected = none → ScanCompleted w' → ScanCompleted w)

variable {op : ScannerOperation} {code : String}

theorem ScanLatched.refl (op : ScannerOperation) (w : World) : ScanLatched op w w :=
  ⟨id, fun _ => id⟩

theorem ScanLatched.of_iff {w₀ w w' : World} (h : ScanLatched op w₀ w)
    (hw : ScanCompleted w' ↔ ScanCompleted w) : ScanLatched op w₀ w' := by
  unfold ScanLatched at h ⊢
  rw [hw]
  exact h

/-- What leaves the flag alone keeps it. -/
theorem keeps_scanLatched {α : Type} {p : App α}
    (hp : p.Confined (fun _ => True) (·.qrCodeController.scanCompleted)) :
    p.Keeps platform (ScanLatched op) := by
  apply hp.keeps
  · exact ScanLatched.refl op
  · intro w₀ w w' h hview
    apply h.of_iff
    rw [ScanCompleted, hview]
    rfl
  · intro c _ _ w₀ w v w' h heffect
    exact h.of_iff (scanCompleted_of_effect heffect)

theorem keeps_checkQRCode (hop : op.detected ≠ none) :
    (QRCodeController.checkQRCode code).Keeps platform (ScanLatched op) := by
  have hsnack (title message : String) : (await (.snackBar .plain title message)).Keeps platform
      (ScanLatched op) := keeps_scanLatched (confined_invoke trivial)
  refine .handle (.bind (keeps_modify ?_) fun _ => .bind ?_ fun current => ?_) fun e => hsnack _ _
  · exact fun w₀ w h => ⟨fun _ => rfl, fun hnone => absurd hnone hop⟩
  · exact keeps_scanLatched (confined_getCurrentQRCode trivial)
  · split
    · refine .bind (hsnack _ _) fun _ => .bind (keeps_scanLatched ?_) fun _ => ?_
      · exact confined_logMuseumVisit (fun _ _ => rfl) fun _ _ => rfl
      · exact keeps_scanLatched (confined_invoke trivial)
    · exact hsnack _ _

theorem keeps_scannerBody (op : ScannerOperation) : op.body.Keeps platform (ScanLatched op) := by
  cases op with
  | changeCode doc => exact keeps_modify fun w₀ w h => h
  | onDetect barcodes =>
    have hbody :
        (ScannerOperation.onDetect barcodes).body = QRCodeScannerScreen.onDetect barcodes :=
      rfl
    rw [hbody, onDetect_eq]
    refine .bind (keeps_read _) fun b => ?_
    cases hdetected : (ScannerOperation.onDetect barcodes).detected with
    | none => exact keeps_done _
    | some code =>
      cases b with
      | true => exact keeps_done _
      | false => exact .unawaited (keeps_checkQRCode (by simp [hdetected]))

/-- A detection that starts completes the scan before it awaits anything. -/
theorem scanCompleted_of_start {w w' : World} {ms : History} {t : Task Reply World Exn}
    (hop : op.detected ≠ none) (h : op.body.Advance platform w ms t w') : ScanCompleted w' := by
  by_cases hw : ScanCompleted w
  · have hkept := ((keeps_scannerBody op w w (ScanLatched.refl op w)).advance h).1
    exact hkept.1 hw
  · cases op with
    | changeCode doc => exact absurd rfl hop
    | onDetect barcodes =>
      obtain ⟨code, hdetected⟩ := Option.ne_none_iff_exists'.mp hop
      have hcheck := (onDetect_advance hdetected (Bool.eq_false_iff.mpr hw)).mp h
      obtain ⟨-, -, rfl⟩ := hcheck
      rfl

end Latch

section Runs

variable {w₀ : World} {ms : History} {c : AppPool ScannerOperation}

/-- A scan is completed exactly if a code was detected. -/
theorem scanCompleted_iff_detected (hfresh : ¬ ScanCompleted w₀)
    (hrun : Pool.Run platform ScannerOperation.body ⟨w₀, []⟩ ms c) :
    ScanCompleted c.state ↔ ∃ op ∈ c.tasks.map Prod.fst, op.detected ≠ none := by
  generalize hstart : (⟨w₀, []⟩ : AppPool ScannerOperation) = c₀ at hrun
  induction hrun with
  | nil =>
    subst hstart
    simp [hfresh]
  | snoc hrun hstep ih =>
    subst hstart
    have hbefore := ih
    have htasks := hrun.tasks_keep ScanLatched.refl keeps_scannerBody (List.forall_mem_nil _)
    cases hstep with
    | @start w w' ts ms' t op h =>
      have hkept := ((keeps_scannerBody op w w (ScanLatched.refl op w)).advance h).1
      dsimp only at hbefore ⊢
      by_cases hop : op.detected = none
      · have hw : ScanCompleted w' ↔ ScanCompleted w := ⟨hkept.2 hop, hkept.1⟩
        rw [hw, hbefore]
        simp [hop]
      · refine iff_of_true (scanCompleted_of_start hop h) ?_
        simp [hop]
    | @serve w w' ts us op call k r h =>
      dsimp only at hbefore ⊢
      rw [scanCompleted_of_perform h, hbefore, List.map_append, List.map_append]
      rfl
    | @resume w w' ts us op p ms' t h =>
      have hready : (Task.ready p).Keeps platform (ScanLatched op) :=
        htasks (op, .ready p) (by simp)
      have hkept := ((hready w).advance h).1
      dsimp only at hbefore ⊢
      have hw : ScanCompleted w' ↔ ScanCompleted w := by
        by_cases hop : op.detected = none
        · exact ⟨hkept.2 hop, hkept.1⟩
        · have hcompleted : ScanCompleted w := hbefore.mpr ⟨op, by simp, hop⟩
          exact iff_of_true (hkept.1 hcompleted) hcompleted
      rw [hw, hbefore, List.map_append, List.map_append]
      rfl

/-- The scanner takes a code in a state that is reached exactly if it has not taken one. -/
theorem scannerReady_iff_undetected (hfresh : ¬ ScanCompleted w₀)
    (hrun : Pool.Run platform ScannerOperation.body ⟨w₀, []⟩ ms c) :
    ScannerReady c.state ↔ ∀ op ∈ c.tasks.map Prod.fst, op.detected = none := by
  rw [scannerReady_iff, scanCompleted_iff_detected hfresh hrun]
  simp

end Runs

theorem visitor_fresh : ¬ ScanCompleted visitor := Bool.false_ne_true

/-- The code at the entrance changes, and a capture without a code arrives. -/
theorem scannerReady_without_code : ∃ ms c,
    Pool.Run platform ScannerOperation.body ⟨visitor, []⟩ ms c ∧ c.tasks ≠ [] ∧
      ScannerReady c.state := by
  obtain ⟨ms, c, hrun, hq⟩ := scenario_pool_run ScannerOperation.body visitor (fun _ _ => none)
    [.start (.onDetect [⟨none⟩]), .start (.changeCode none)]
    (fun out => out.2.tasks.length = 2 ∧ ∀ op ∈ out.2.tasks.map Prod.fst, op.detected = none)
    (by decide +kernel)
  obtain ⟨hlength, hundetected⟩ := of_decide_eq_true hq
  refine ⟨ms, c, hrun, ?_, (scannerReady_iff_undetected visitor_fresh hrun).mpr hundetected⟩
  rintro hnil
  simp [hnil] at hlength

/-- One wrong code locks the scanner. -/
theorem not_scannerReady_after_wrong_code :
    ¬ ∀ (w₀ : World) (ms : History) (c : AppPool ScannerOperation), ¬ ScanCompleted w₀ →
      Pool.Run platform ScannerOperation.body ⟨w₀, []⟩ ms c → c.Quiescent →
        .arContentCamera ∉ screens (answers ms) → ScannerReady c.state := by
  intro hall
  obtain ⟨ms, c, hrun, hq⟩ := scenario_pool_run ScannerOperation.body visitor (fun _ _ => none)
    [.start (.onDetect [⟨some "wrong"⟩]), .go 0, .go 0]
    (fun out => out.2.Quiescent ∧ screens (answers out.1) = [] ∧
      out.2.state.qrCodeController.scanCompleted = true) (by decide +kernel)
  obtain ⟨hquiet, hscreens, hcompleted⟩ := of_decide_eq_true hq
  have hready := hall visitor ms c visitor_fresh hrun hquiet (by simp [hscreens])
  exact scannerReady_iff.mp hready hcompleted

end AroundMuseo
