import AroundMuseo.Controllers.UpdateControllers
import AroundMuseo.Platform.Frames
import AroundMuseo.Platform.Scenario
import AroundMuseo.Utils.Validators

/-!
# What is validated and what is sent

The validators see the texts as they were typed, and the operations send them trimmed. An
email and a year of birth have no white space to lose; a required text and a password may
lose what they were accepted for.
-/

namespace AroundMuseo

open Async Firestore MAppValidator

/-- A text field: the name under which its text is stored, its validator and its text. -/
structure FormField where
  name : String
  validator : Option String → Option String
  text : String

/-- The forms whose texts are trimmed before they are sent. -/
inductive TextForm where
  | signup (form : SignupForm)
  | changeName (firstName lastName : String) (updateUserNameFormKey : Option Bool)
  | changeAddress (addressCity addressProvState addressCountry : String)
      (updateAddressFormKey : Option Bool)

namespace TextForm

/-- The fields of a form with a validator. The form of the name calls both names the first. -/
def fields (currentYear : Nat) : TextForm → List FormField
  | signup form => [
    ⟨"FirstName", validateEmptyText "First Name", form.firstName⟩,
    ⟨"LastName", validateEmptyText "Last Name", form.lastName⟩,
    ⟨"Email", validateEmail, form.email⟩,
    ⟨"BirthYear", validateBirthYear currentYear, form.birthYear⟩,
    ⟨"AddressCity", validateEmptyText "City", form.addressCity⟩,
    ⟨"AddressProvState", validateEmptyText "Province/State", form.addressProvState⟩,
    ⟨"AddressCountry", validateEmptyText "Country", form.addressCountry⟩,
    ⟨"Password", validatePassword, form.password⟩]
  | changeName firstName lastName _ => [
    ⟨"FirstName", validateEmptyText "First Name", firstName⟩,
    ⟨"LastName", validateEmptyText "First Name", lastName⟩]
  | changeAddress addressCity addressProvState addressCountry _ => [
    ⟨"AddressCity", validateEmptyText "City", addressCity⟩,
    ⟨"AddressProvState", validateEmptyText "Province/State", addressProvState⟩,
    ⟨"AddressCountry", validateEmptyText "Country", addressCountry⟩]

/-- What the button of the form calls. -/
def submit : TextForm → App Unit
  | signup form => SignupController.signup form
  | changeName firstName lastName form =>
      UpdateNameController.updateUserName firstName lastName form
  | changeAddress city province country form =>
    UpdateAddressController.updateAddress city province country form

/-- The texts that must not be empty. -/
def required : TextForm → List String
  | signup form => [form.firstName, form.lastName, form.addressCity, form.addressProvState,
      form.addressCountry]
  | changeName firstName lastName _ => [firstName, lastName]
  | changeAddress addressCity addressProvState addressCountry _ =>
    [addressCity, addressProvState, addressCountry]

/-- The password, if the form asks for one. -/
def password : TextForm → Option String
  | signup form => form.password
  | _ => none

/-- No required text is white space only, and the password is long enough without its margins. -/
def Robust (form : TextForm) : Prop :=
  (∀ text ∈ form.required, ¬ Dart.Blank text) ∧
    ∀ text ∈ form.password, 6 ≤ Dart.length (Dart.trim text)

end TextForm

/-- The text that a call sends for a field. -/
def Call.Sends (name text : String) : Call → Prop
  | .createUserWithEmailAndPassword email password =>
    name = "Email" ∧ text = email ∨ name = "Password" ∧ text = password
  | .set .users _ d | .update .users _ d => d.lookup name = some (.scalar (.string text))
  | _ => False

/-- Every validator accepts the text of its field. -/
def Validated (fields : List FormField) : Prop :=
  ∀ field ∈ fields, field.validator (some field.text) = none

/-- The run sends every field. -/
def Submitted (fields : List FormField) (tr : List Event) : Prop :=
  ∀ field ∈ fields, ∃ ev ∈ tr, ∃ text, ev.call.Sends field.name text

/-- Whatever text the run sends for a field, its validator accepts. -/
def SubmittedValid (fields : List FormField) (tr : List Event) : Prop :=
  ∀ field ∈ fields, ∀ ev ∈ tr, ∀ text, ev.call.Sends field.name text →
    field.validator (some text) = none

section Sends

/-- For each of the fields a call sends the trimmed text, if any. -/
def Call.SendsTrimmed (fields : List FormField) (c : Call) : Prop :=
  ∀ field ∈ fields, ∀ text, c.Sends field.name text → text = Dart.trim field.text

variable {fields : List FormField}

theorem Call.sendsTrimmed_of_silent {c : Call} (h : ∀ name text, ¬ c.Sends name text) :
    c.SendsTrimmed fields :=
  fun field _ text hsends => absurd hsends (h field.name text)

theorem Call.sendsTrimmed_of_isDialog (c : Call) (hc : c.isDialog = true) :
    c.SendsTrimmed fields := by
  apply Call.sendsTrimmed_of_silent
  intro name text hsends
  cases c <;> first | exact hsends | cases hc

/-- The function sends nothing but trimmed texts. -/
abbrev Trimming (fields : List FormField) {α : Type} (p : App α) : Prop :=
  p.Confined (Call.SendsTrimmed fields) fun _ => ()

theorem trimming_updateProfile {form : Option Bool} {d : Doc} {assign : UserModel → UserModel}
    {leave : App Unit} (hd : ∀ id, (Call.update .users id d).SendsTrimmed fields)
    (hleave : Trimming fields leave) : Trimming fields (updateProfile form d assign leave) := by
  have hok : ∀ c : Call, c.isDialog = true → c.SendsTrimmed fields := Call.sendsTrimmed_of_isDialog
  apply confined_withLoader hok
  apply confined_whenConnected hok
  apply confined_whenValid hok
  have hupdate : Trimming fields (UserRepository.updateSingleField d) := by
    refine .handle ?_ fun _ => trivial
    refine .bind (Prog.confined_read _) fun user => .bind ?_ fun id => Prog.confined_invoke (hd id)
    cases user with
    | none => exact Prog.confined_invoke (Call.sendsTrimmed_of_silent fun _ _ h => h)
    | some user => trivial
  have hassign : Trimming fields (UserController.modifyUser assign) :=
    Prog.confined_modify fun _ => rfl
  exact .bind hupdate fun _ => .bind hassign fun _ =>
    .bind (confined_stopLoading hok) fun _ => hleave

/-- Registering sends the email and the password. -/
theorem sendsTrimmed_register (currentYear : Nat) (form : SignupForm) :
    (Call.createUserWithEmailAndPassword (Dart.trim form.email)
    (Dart.trim form.password)).SendsTrimmed
      ((TextForm.signup form).fields currentYear) := by
  intro field hfield text hsends
  simp only [TextForm.fields, List.mem_cons, List.not_mem_nil, or_false] at hfield
  rcases hfield with rfl | rfl | rfl | rfl | rfl | rfl | rfl | rfl <;>
    simp [Call.Sends] at hsends <;> exact hsends

/-- The record has every other text. -/
theorem sendsTrimmed_newUser (currentYear : Nat) (form : SignupForm) (credential : UserCredential)
    (id : String) (createdNow updatedNow activeNow : DateTime) :
    (Call.set .users id ((SignupController.newUser form credential).toJson createdNow updatedNow
      activeNow).1).SendsTrimmed ((TextForm.signup form).fields currentYear) := by
  intro field hfield text hsends
  simp only [TextForm.fields, List.mem_cons, List.not_mem_nil, or_false] at hfield
  rcases hfield with rfl | rfl | rfl | rfl | rfl | rfl | rfl | rfl <;>
    simp [Call.Sends, UserModel.toJson, SignupController.newUser] at hsends <;> exact hsends.symm

theorem TextForm.trimming_submit (currentYear : Nat) (form : TextForm) :
    Trimming (form.fields currentYear) form.submit := by
  have hok : ∀ c : Call, c.isDialog = true → c.SendsTrimmed (form.fields currentYear) :=
    Call.sendsTrimmed_of_isDialog
  have hsilent {c : Call} (h : ∀ name text, ¬ c.Sends name text) :
      Trimming (form.fields currentYear) (await c) :=
    Prog.confined_invoke (Call.sendsTrimmed_of_silent h)
  cases form with
  | signup form =>
    apply confined_withLoader hok
    apply confined_whenConnected hok
    apply confined_whenValid hok
    have hregister : Trimming ((signup form).fields currentYear)
        (AuthenticationRepository.registerWithEmailAndPassword (Dart.trim form.email)
          (Dart.trim form.password)) :=
      .handle (Prog.confined_invoke (sendsTrimmed_register currentYear form)) fun _ => trivial
    have hsave (credential : UserCredential) : Trimming ((signup form).fields currentYear)
        (UserRepository.saveUserRecord (SignupController.newUser form credential)) := by
      refine .handle ?_ fun _ => trivial
      refine .bind (hsilent fun _ _ h => h) fun createdNow => ?_
      refine .bind (hsilent fun _ _ h => h) fun updatedNow => ?_
      refine .bind (hsilent fun _ _ h => h) fun activeNow => Prog.confined_invoke ?_
      exact sendsTrimmed_newUser currentYear form credential _ createdNow updatedNow activeNow
    split
    · refine .bind hregister fun credential => .bind (hsave credential) fun _ => ?_
      refine .bind (confined_stopLoading hok) fun _ => .bind (hsilent fun _ _ h => h) fun _ => ?_
      exact hsilent fun _ _ h => h
    · exact .bind (hsilent fun _ _ h => h) fun _ => confined_stopLoading hok
  | changeName firstName lastName form =>
    apply trimming_updateProfile
    · intro id field hfield text hsends
      simp only [fields, List.mem_cons, List.not_mem_nil, or_false] at hfield
      rcases hfield with rfl | rfl
      · simpa [Call.Sends, eq_comm] using hsends
      · simpa [Call.Sends, eq_comm] using hsends
    · exact .bind (hsilent fun _ _ h => h) fun _ => hsilent fun _ _ h => h
  | changeAddress city province country form =>
    apply trimming_updateProfile
    · intro id field hfield text hsends
      simp only [fields, List.mem_cons, List.not_mem_nil, or_false] at hfield
      rcases hfield with rfl | rfl | rfl
      · simpa [Call.Sends, eq_comm] using hsends
      · simpa [Call.Sends, eq_comm] using hsends
      · simpa [Call.Sends, eq_comm] using hsends
    · exact .bind (hsilent fun _ _ h => h) fun _ => hsilent fun _ _ h => h

/-- Every text of a run is a trimmed one. -/
theorem TextForm.sendsTrimmed_of_run (currentYear : Nat) (form : TextForm) {w w' : World}
    {tr : List Event} {r : Except Exn Unit} (hrun : form.submit.Run platform w tr r w') :
    ∀ ev ∈ tr, ev.call.SendsTrimmed (form.fields currentYear) := by
  have hkeeps :=
    (form.trimming_submit currentYear).wp_keeps (P := platform) (fun _ _ _ _ _ _ => rfl) w
  exact (Prog.wp_iff_run.mp hkeeps tr r w' hrun).1

end Sends

/-- The validators of an accepted form accept its trimmed texts if it is robust. -/
theorem TextForm.forall_trimmed_iff {currentYear : Nat} (form : TextForm)
    (hvalid : Validated (form.fields currentYear)) :
    (∀ field ∈ form.fields currentYear, field.validator (some (Dart.trim field.text)) = none) ↔
      form.Robust := by
  cases form with
  | signup form =>
    simp only [Validated, fields, List.forall_mem_cons] at hvalid
    obtain ⟨-, -, hemail, hbirthYear, -, -, -, hpassword, -⟩ := hvalid
    have hemail' : validateEmail (some (Dart.trim form.email)) = none := by
      rw [trim_of_validateEmail hemail]
      exact hemail
    have hbirthYear' : validateBirthYear currentYear (some (Dart.trim form.birthYear)) = none := by
      rw [trim_of_validateBirthYear hbirthYear]
      exact hbirthYear
    simp [fields, Robust, required, password, validateEmptyText_trim,
      validatePassword_trim hpassword, hemail', hbirthYear', and_assoc]
  | changeName firstName lastName form =>
    simp [fields, Robust, required, password, validateEmptyText_trim]
  | changeAddress city province country form =>
    simp [fields, Robust, required, password, validateEmptyText_trim]

/-- What an accepted form sends passes the same validators if no required text is blank and the
password is long enough without its margins; if all of it is sent, only then. -/
theorem submittedValid_iff {form : TextForm} {currentYear : Nat} {w w' : World} {tr : List Event}
    {r : Except Exn Unit} (hvalid : Validated (form.fields currentYear))
    (hrun : form.submit.Run platform w tr r w') :
    (form.Robust → SubmittedValid (form.fields currentYear) tr) ∧
      (Submitted (form.fields currentYear) tr →
        (SubmittedValid (form.fields currentYear) tr ↔ form.Robust)) := by
  have htrimmed := form.sendsTrimmed_of_run currentYear hrun
  have hrobust := form.forall_trimmed_iff hvalid
  have hsent : form.Robust → SubmittedValid (form.fields currentYear) tr := by
    intro h field hfield ev hev text hsends
    rw [htrimmed ev hev field hfield text hsends]
    exact hrobust.mpr h field hfield
  refine ⟨hsent, fun hsubmitted => ⟨fun h => ?_, hsent⟩⟩
  apply hrobust.mp
  intro field hfield
  obtain ⟨ev, hev, text, hsends⟩ := hsubmitted field hfield
  have hvalidated := h field hfield ev hev text hsends
  rwa [htrimmed ev hev field hfield text hsends] at hvalidated

/-- The form of the name, with the same surname each time. -/
def cruz (firstName : String) : TextForm := .changeName firstName "Cruz" (some true)

/-- The form is accepted and sent. -/
theorem submitted_cruz {firstName : String} (h : firstName ≠ "") {tr : List Event}
    (hupdate : ∃ ev ∈ tr, ev.call = .update .users "u" (Doc.ofFields [
      ("FirstName", Scalar.string (Dart.trim firstName)), ("LastName", Scalar.string "Cruz")])) :
    Validated ((cruz firstName).fields 2025) ∧ Submitted ((cruz firstName).fields 2025) tr := by
  obtain ⟨ev, hev, hcall⟩ := hupdate
  constructor
  · simp [Validated, cruz, TextForm.fields, validateEmptyText, h]
  · intro field hfield
    refine ⟨ev, hev, Dart.trim field.text, ?_⟩
    simp only [cruz, TextForm.fields, List.mem_cons, List.not_mem_nil, or_false] at hfield
    rw [hcall]
    rcases hfield with rfl | rfl
    · simp [Call.Sends]
    · have htrim : Dart.trim "Cruz" = "Cruz" := by decide +kernel
      simp [Call.Sends, htrim]

/-- A name is changed, and sent without its margin. -/
theorem submittedValid_ana : ∃ (tr : List Event) (r : Except Exn Unit) (w' : World),
    Validated ((cruz "Ana ").fields 2025) ∧
      (cruz "Ana ").submit.Run platform (World.withUsers [User.of "u" "ana@mail.ph" "password"])
        tr r w' ∧
      (∃ ev ∈ tr, ev.call = .update .users "u" (Doc.ofFields [
        ("FirstName", Scalar.string "Ana"), ("LastName", Scalar.string "Cruz")])) ∧
      Submitted ((cruz "Ana ").fields 2025) tr ∧ (cruz "Ana ").Robust ∧
      SubmittedValid ((cruz "Ana ").fields 2025) tr := by
  have htrim : Dart.trim "Ana " = "Ana" := by decide +kernel
  have hrequired : ∀ text ∈ ["Ana ", "Cruz"], ¬ Dart.Blank text := by decide +kernel
  have hrobust : (cruz "Ana ").Robust := by
    refine ⟨hrequired, fun text hpassword => ?_⟩
    cases hpassword
  obtain ⟨tr, r, w', hrun, hq⟩ := scenario_run (cruz "Ana ").submit
    (World.withUsers [User.of "u" "ana@mail.ph" "password"]) (fun _ _ => none)
    (fun out => out.1.any fun ev => decide (ev.call = .update .users "u" (Doc.ofFields [
      ("FirstName", Scalar.string (Dart.trim "Ana ")), ("LastName", Scalar.string "Cruz")])))
    (by decide +kernel)
  obtain ⟨ev, hev, hcall⟩ := List.any_eq_true.mp hq
  obtain ⟨hvalid, hsubmitted⟩ := submitted_cruz (by decide) ⟨ev, hev, of_decide_eq_true hcall⟩
  refine ⟨tr, r, w', hvalid, hrun, ⟨ev, hev, ?_⟩, hsubmitted, hrobust,
    ((submittedValid_iff hvalid hrun).2 hsubmitted).mpr hrobust⟩
  rw [of_decide_eq_true hcall, htrim]

/-- A space is accepted as a first name, and stored as an empty one. -/
theorem not_submittedValid_space : ∃ (tr : List Event) (r : Except Exn Unit) (w' : World),
    Validated ((cruz " ").fields 2025) ∧
      (cruz " ").submit.Run platform
        (World.withUsers [User.of "u" "ana@mail.ph" "password"]) tr r w' ∧
      Submitted ((cruz " ").fields 2025) tr ∧ ¬ SubmittedValid ((cruz " ").fields 2025) tr := by
  obtain ⟨tr, r, w', hrun, hq⟩ := scenario_run (cruz " ").submit
    (World.withUsers [User.of "u" "ana@mail.ph" "password"]) (fun _ _ => none)
    (fun out => out.1.any fun ev => decide (ev.call = .update .users "u" (Doc.ofFields [
      ("FirstName", Scalar.string (Dart.trim " ")), ("LastName", Scalar.string "Cruz")])))
    (by decide +kernel)
  obtain ⟨ev, hev, hcall⟩ := List.any_eq_true.mp hq
  obtain ⟨hvalid, hsubmitted⟩ := submitted_cruz (by decide) ⟨ev, hev, of_decide_eq_true hcall⟩
  refine ⟨tr, r, w', hvalid, hrun, hsubmitted, fun h => ?_⟩
  have hfield : (⟨"FirstName", validateEmptyText "First Name", " "⟩ : FormField) ∈
      (cruz " ").fields 2025 := List.mem_cons_self
  obtain ⟨ev', hev', text, hsends⟩ := hsubmitted _ hfield
  have htext := (cruz " ").sendsTrimmed_of_run 2025 hrun ev' hev' _ hfield text hsends
  have hnone := h _ hfield ev' hev' text hsends
  rw [htext] at hnone
  revert hnone
  decide +kernel

end AroundMuseo
