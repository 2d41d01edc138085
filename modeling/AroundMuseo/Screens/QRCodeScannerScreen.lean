import AroundMuseo.Controllers.QRCodeController

/-!
# The QR code scanner

`QRCodeScannerScreen`: what the camera delivers is checked unless a scan is completed.
-/

namespace AroundMuseo

open Async

namespace QRCodeScannerScreen

/-- A barcode of a capture. -/
structure Barcode where
  rawValue : Option String
  deriving DecidableEq, Repr

/-- `onDetect` of the scanner; the check is not awaited. -/
def onDetect (barcodes : List Barcode) : App Unit := do
  let scanCompleted ← Prog.read (·.qrCodeController.scanCompleted)
  if scanCompleted = false then
    match barcodes with
    | [] => pure ()
    | barcode :: _ =>
      let scannedCode := barcode.rawValue.getD ""
      if scannedCode ≠ "" then
        (QRCodeController.checkQRCode scannedCode).unawaited

end QRCodeScannerScreen

end AroundMuseo
