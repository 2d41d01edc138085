/-!
# Exceptions and their messages

What Dart code may throw, as far as the `on` clauses of the repositories tell
exceptions apart, and the tables that turn an error code into the text shown to
the user. The repositories rethrow a caught exception as its text; only the order
and the choice of the `on` clauses differ between them.
-/

namespace AroundMuseo

/-- A thrown object. A raw exception carries its `code`, where it has one, and the
text that its `toString` gives. -/
inductive Exn where
  /-- `FirebaseAuthException`, a subclass of `FirebaseException`. -/
  | firebaseAuth (code text : String)
  /-- `FirebaseException` of another service. -/
  | firebase (code text : String)
  | format (text : String)
  | platform (code text : String)
  /-- Any other object: a type error, a null check, a range error. -/
  | other (text : String)
  /-- A thrown string, which is how the repositories rethrow. -/
  | message (text : String)
  /-- `MAppFormatException`, which is not a `FormatException`. -/
  | mAppFormat (text : String)
  deriving DecidableEq, Repr

/-- Texts for `FirebaseAuthException` codes. -/
def MAppFirebaseAuthException.message (code : String) : String :=
  match code with
  | "email-already-in-use" =>
    "The email address is already registered. Please use a different email."
  | "invalid-email" => "The email address provided is invalid. Please enter a valid email."
  | "weak-password" => "The password is too weak. Please choose a stronger password."
  | "user-disabled" => "This user account has been disabled. Please contact support for assistance."
  | "user-not-found" => "Invalid login details. User not found."
  | "wrong-password" => "Incorrect password. Please check your password and try again."
  | "invalid-verification-code" => "Invalid verification code. Please enter a valid code."
  | "invalid-verification-id" => "Invalid verification ID. Please request a new verification code."
  | "quota-exceeded" => "Quota exceeded. Please try again later."
  | "email-already-exists" => "The email address already exists. Please use a different email."
  | "provider-already-linked" => "The account is already linked with another provider."
  | "requires-recent-login" =>
    "This operation is sensitive and requires recent authentication. Please log in again."
  | "credential-already-in-use" =>
    "This credential is already associated with a different user account."
  | "user-mismatch" =>
    "The provided credentials do not correspond to the previously signed in user."
  | "account-exists-with-different-credential" =>
    "An account already exists with the same email but different sign-in credentials."
  | "operation-not-allowed" => "This operation is not allowed. Contact support for assistance."
  | "expired-action-code" => "The action code has expired. Please request a new action code."
  | "invalid-action-code" => "The action code is invalid. Please check the code and try again."
  | "missing-action-code" => "The action code is missing. Please provide a valid action code."
  | "user-token-expired" =>
    "The user's token has expired, and authentication is required. Please sign in again."
  | "invalid-credential" => "The provided credential is incorrect or has expired."
  | "user-token-revoked" => "The user's token has been revoked. Please sign in again."
  | "invalid-message-payload" => "The email template verification message payload is invalid."
  | "invalid-sender" => "The email template sender is invalid. Please verify the sender's email."
  | "invalid-recipient-email" =>
    "The recipient email address is invalid. Please provide a valid recipient email."
  | "missing-iframe-start" => "The email template is missing the iframe start tag."
  | "missing-iframe-end" => "The email template is missing the iframe end tag."
  | "missing-iframe-src" => "The email template is missing the iframe src attribute."
  | "auth-domain-config-required" =>
    "The authDomain configuration is required for the action code verification link."
  | "missing-app-credential" =>
    "The app credential is missing. Please provide valid app credentials."
  | "invalid-app-credential" =>
    "The app credential is invalid. Please provide a valid app credential."
  | "session-cookie-expired" => "The Firebase session cookie has expired. Please sign in again."
  | "uid-already-exists" => "The provided user ID is already in use by another user."
  | "invalid-cordova-configuration" => "The provided Cordova configuration is invalid."
  | "app-deleted" => "This instance of FirebaseApp has been deleted."
  | "user-token-mismatch" =>
    "The provided user's token has a mismatch with the authenticated user's user ID."
  | "web-storage-unsupported" => "Web storage is not supported or is disabled."
  | "app-not-authorized" =>
    "The app is not authorized to use Firebase Authentication with the provided API key."
  | "keychain-error" => "A keychain error occurred. Please check the keychain and try again."
  | "internal-error" => "An internal authentication error occurred. Please try again later."
  | "INVALID_LOGIN_CREDENTIALS" => "Invalid login credentials."
  | _ => "An unexpected authentication error occurred. Please try again."

/-- Texts for `FirebaseException` codes. -/
def MAppFirebaseException.message (code : String) : String :=
  match code with
  | "unknown" => "An unknown Firebase error occurred. Please try again."
  | "invalid-custom-token" =>
    "The custom token format is incorrect. Please check your custom token."
  | "custom-token-mismatch" => "The custom token corresponds to a different audience."
  | "user-disabled" => "The user account has been disabled."
  | "user-not-found" => "No user found for the given email or UID."
  | "invalid-email" => "The email address provided is invalid. Please enter a valid email."
  | "email-already-in-use" =>
    "The email address is already registered. Please use a different email."
  | "wrong-password" => "Incorrect password. Please check your password and try again."
  | "weak-password" => "The password is too weak. Please choose a stronger password."
  | "provider-already-linked" => "The account is already linked with another provider."
  | "operation-not-allowed" => "This operation is not allowed. Contact support for assistance."
  | "invalid-credential" => "The provided credential is incorrect or has expired."
  | "invalid-verification-code" => "Invalid verification code. Please enter a valid code."
  | "invalid-verification-id" => "Invalid verification ID. Please request a new verification code."
  | "captcha-check-failed" => "The reCAPTCHA response is invalid. Please try again."
  | "app-not-authorized" =>
    "The app is not authorized to use Firebase Authentication with the provided API key."
  | "keychain-error" => "A keychain error occurred. Please check the keychain and try again."
  | "internal-error" => "An internal authentication error occurred. Please try again later."
  | "invalid-app-credential" =>
    "The app credential is invalid. Please provide a valid app credential."
  | "user-mismatch" =>
    "The provided credentials do not correspond to the previously signed-in user."
  | "requires-recent-login" =>
    "This operation is sensitive and requires recent authentication. Please log in again."
  | "quota-exceeded" => "Quota exceeded. Please try again later."
  | "account-exists-with-different-credential" =>
    "An account already exists with the same email but different sign-in credentials."
  | "missing-iframe-start" => "The email template is missing the iframe start tag."
  | "missing-iframe-end" => "The email template is missing the iframe end tag."
  | "missing-iframe-src" => "The email template is missing the iframe src attribute."
  | "auth-domain-config-required" =>
    "The authDomain configuration is required for the action code verification link."
  | "missing-app-credential" =>
    "The app credential is missing. Please provide valid app credentials."
  | "session-cookie-expired" => "The Firebase session cookie has expired. Please sign in again."
  | "uid-already-exists" => "The provided user ID is already in use by another user."
  | "web-storage-unsupported" => "Web storage is not supported or is disabled."
  | "app-deleted" => "This instance of FirebaseApp has been deleted."
  | "user-token-mismatch" =>
    "The provided user's token has a mismatch with the authenticated user's user ID."
  | "invalid-message-payload" => "The email template verification message payload is invalid."
  | "invalid-sender" => "The email template sender is invalid. Please verify the sender's email."
  | "invalid-recipient-email" =>
    "The recipient email address is invalid. Please provide a valid recipient email."
  | "missing-action-code" => "The action code is missing. Please provide a valid action code."
  | "user-token-expired" =>
    "The user's token has expired, and authentication is required. Please sign in again."
  | "INVALID_LOGIN_CREDENTIALS" => "Invalid login credentials."
  | "expired-action-code" => "The action code has expired. Please request a new action code."
  | "invalid-action-code" => "The action code is invalid. Please check the code and try again."
  | "credential-already-in-use" =>
    "This credential is already associated with a different user account."
  | _ => "An unexpected Firebase error occurred. Please try again."

/-- Texts for `PlatformException` codes. -/
def MAppPlatformException.message (code : String) : String :=
  match code with
  | "INVALID_LOGIN_CREDENTIALS" =>
    "Invalid login credentials. Please double-check your information."
  | "too-many-requests" => "Too many requests. Please try again later."
  | "invalid-argument" => "Invalid argument provided to the authentication method."
  | "invalid-password" => "Incorrect password. Please try again."
  | "invalid-phone-number" => "The provided phone number is invalid."
  | "operation-not-allowed" => "The sign-in provider is disabled for your Firebase project."
  | "session-cookie-expired" => "The Firebase session cookie has expired. Please sign in again."
  | "uid-already-exists" => "The provided user ID is already in use by another user."
  | "sign_in_failed" => "Sign-in failed. Please try again."
  | "network-request-failed" => "Network request failed. Please check your internet connection."
  | "internal-error" => "Internal error. Please try again later."
  | "invalid-verification-code" => "Invalid verification code. Please enter a valid code."
  | "invalid-verification-id" => "Invalid verification ID. Please request a new verification code."
  | "quota-exceeded" => "Quota exceeded. Please try again later."
  | _ => "An unexpected platform error occurred. Please try again."

/-- `const MAppFormatException()`. -/
def mAppFormatException : Exn :=
  .mAppFormat "An unexpected format error occurred. Please check your input."

namespace Exn

/-- `e.toString()`; `MAppFormatException` does not override it. -/
def toText : Exn → String
  | firebaseAuth _ text | firebase _ text | format text | platform _ text | other text
  | message text => text
  | mAppFormat _ => "Instance of 'MAppFormatException'"

/-- A null check `!` on `null`. -/
def nullCheck : Exn := .other "Null check operator used on a null value"

/-- An implicit downcast from `dynamic` that fails. -/
def typeError : Exn := .other "type 'dynamic' is not a subtype of the expected type"

/-- `Iterable.first` on an empty iterable. -/
def noElement : Exn := .other "Bad state: No element"

/-- A `Completer` that is completed again. -/
def alreadyCompleted : Exn := .other "Bad state: Future already completed"

/-- `doc(path)` with a path that no document has. -/
def invalidPath : Exn := .other "A document path must be a non-empty string"

/-- A list index out of range. -/
def rangeError : Exn := .other "RangeError (index)"

/-- The exceptions that the `on` clauses of the authentication repository name.
Everything else reaches its final `catch (e)`. -/
def isMapped : Exn → Bool
  | firebaseAuth .. | firebase .. | format .. | platform .. => true
  | other .. | message .. | mAppFormat .. => false

/-- The `on` clauses of `AuthenticationRepository`: every exception leaves as its
text, and `fallback` is what the final `catch (e)` throws. -/
def authRethrown (fallback : String) : Exn → Exn
  | firebaseAuth code _ => .message (MAppFirebaseAuthException.message code)
  | firebase code _ => .message (MAppFirebaseException.message code)
  | format _ => mAppFormatException
  | platform code _ => .message (MAppPlatformException.message code)
  | other _ | message _ | mAppFormat _ => .message fallback

/-- The `on` clauses of the Firestore repositories: an authentication exception is
caught as the `FirebaseException` it is. -/
def firestoreRethrown (fallback : String) : Exn → Exn
  | firebaseAuth code _ | firebase code _ => .message (MAppFirebaseException.message code)
  | format _ => mAppFormatException
  | platform code _ => .message (MAppPlatformException.message code)
  | other _ | message _ | mAppFormat _ => .message fallback

/-- As `firestoreRethrown`, in the repositories without an `on FormatException`. -/
def firestoreRethrownNoFormat (fallback : String) : Exn → Exn
  | firebaseAuth code _ | firebase code _ => .message (MAppFirebaseException.message code)
  | platform code _ => .message (MAppPlatformException.message code)
  | format _ | other _ | message _ | mAppFormat _ => .message fallback

end Exn

end AroundMuseo
