import AroundMuseo.Controllers.UserController

/-!
# The museum entrance

`QRCodeController` with the two repositories it uses: a scan is compared with the
stored code, the visit is logged and the AR screen is opened.
-/

namespace AroundMuseo

open Async Firestore

namespace QRCodeRepository

/-- `doc.data()?['Code'] as String?` -/
def codeField (data : Doc) : Except Exn (Option String) :=
  match data.lookup "Code" with
  | none | some (.scalar .null) => .ok none
  | some (.scalar (.string code)) => .ok (some code)
  | some _ => .error Exn.typeError

/-- Retrieve the current QR code from the database -/
def getCurrentQRCode : App (Option String) := do
  match ← await (.get .qrCode "currentQRCode") with
  | some data => liftExcept (codeField data)
  | none => pure none

end QRCodeRepository

namespace MuseumLogbookRepository

/-- Save museum visit log of user -/
def addMuseumVisitLog (log : MuseumLogbookModel) : App String := do
  try
    await (.add .museumLogbook log.toJson)
  catch e => throw (e.firestoreRethrown "Something went wrong. Please try again")

/-- The field that `updateTimeOut` writes. -/
def timeOutFields (timeOut : DateTime) : Doc := Doc.ofFields [("timeOut", Scalar.timestamp timeOut)]

/-- Update the timeOut field for a specific museum visit log -/
def updateTimeOut (documentId : String) (timeOut : DateTime) : App Unit := do
  try
    await (.update .museumLogbook documentId (timeOutFields timeOut))
  catch e => throw (e.firestoreRethrownNoFormat
    "Something went wrong while updating time-out. Please try again")

end MuseumLogbookRepository

namespace QRCodeController

def setScanCompleted (b : Bool) : App Unit :=
  Prog.modify fun w => { w with qrCodeController.scanCompleted := b }

def setDocumentId (id : String) : App Unit :=
  Prog.modify fun w => { w with qrCodeController.documentId := id }

/-- The entry of a visit that starts at `now`. -/
def museumLogbook (user : UserModel) (now : DateTime) : MuseumLogbookModel where
  id := ""
  userId := user.id
  firstName := user.firstName
  lastName := user.lastName
  addressCity := user.addressCity
  addressProvState := user.addressProvState
  addressCountry := user.addressCountry
  gender := user.gender
  birthYear := user.birthYear
  timeIn := some now
  timeOut := none

/-- A failure is reported and then forgotten. -/
def logMuseumVisit : App Unit := do
  try
    UserController.fetchUserRecord
    let user ← Prog.read (·.userController.user)
    let now ← await .now
    let museumLogRef ← MuseumLogbookRepository.addMuseumVisitLog (museumLogbook user now)
    setDocumentId museumLogRef
  catch e => await (.snackBar .warning "Oh Snap!" e.toText)

/-- Check the current QR Code -/
def checkQRCode (scannedCode : String) : App Unit := do
  try
    setScanCompleted true
    let currentQRCode ← QRCodeRepository.getCurrentQRCode
    if currentQRCode = some scannedCode then
      await (.snackBar .plain "Success" "QR code matched! Access granted.")
      logMuseumVisit
      await (.getOff .arContentCamera)
    else
      await (.snackBar .plain "Access Denied" "QR code does not match.")
  catch e => await (.snackBar .plain "Error" ("Failed to check QR code: " ++ e.toText))

/-- Update the logbook time-out based on document id -/
def updateMuseumVisitTimeOut : App Unit := do
  try
    let timeOut ← await .now
    let documentId ← Prog.read (·.qrCodeController.documentId)
    MuseumLogbookRepository.updateTimeOut documentId timeOut
  catch e => await (.snackBar .warning "Update Failed" e.toText)

/-- Reset the scan status (this can be used if the user wants to scan again) -/
def resetScan : App Unit :=
  Prog.modify fun w =>
    { w with qrCodeController.scanCompleted := false, qrCodeController.scannedCode := none }

end QRCodeController

end AroundMuseo
