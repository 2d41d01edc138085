import AroundMuseo.Core.Journal
import AroundMuseo.Locations.Calendar
import AroundMuseo.System.Collections

/-!
# Roles

Whatever is written to a record that is there already leaves its role alone, and so the times of
its creation and of its update: these are written by a registration, which makes a plain user.
However the operations overlap, the administrators are those of the start whose records were
neither removed nor written anew.
-/

namespace AroundMuseo

open Async Firestore

/-- The fields that a registration writes and nothing else does. -/
def registeredFields : List String := ["Role", "CreatedAt", "UpdatedAt"]

/-- A field of the record of a user, if there is one. -/
def recordField (id field : String) (w : World) : Option Value :=
  ((w.db .users).lookup id).bind (·.lookup field)

/-- The role that is read from the record of a user is the administrator's. -/
def Administers (id : String) (w : World) : Prop :=
  ∃ data, (w.db .users).lookup id = some data ∧ UserModel.roleField data = .admin

/-- The record of a user that a call writes anew, or removes. -/
def Call.replacement (id : String) : Call → Option (Option Doc)
  | .set .users id' d => if id' = id then some (some d) else none
  | .delete .users id' => if id' = id then some none else none
  | _ => none

/-- What the record of a user was replaced by when a call was answered. -/
def replacement (id : String) (ev : Event) : Option (Option Doc) :=
  if ev.reply.toOption.isSome then ev.call.replacement id else none

/-- What the record of a user was replaced by, in the order of the answers. -/
def replacements (id : String) (ms : History) : List (Option Doc) :=
  (answers ms).filterMap (replacement id)

section Writes

variable {id field : String} {c : Call} {d : Doc}

/-- An administrator is told by one field of the record. -/
theorem administers_iff {w : World} :
    Administers id w ↔ recordField id "Role" w = some (.scalar (.string AppRole.admin.name)) := by
  unfold Administers recordField
  cases (w.db .users).lookup id with
  | none => simp
  | some data =>
    simp only [Option.some.injEq, exists_eq_left', Option.bind_some, UserModel.roleField]
    split <;> simp_all

/-- An update of the profile writes none of the registered fields. -/
theorem ProfileUpdate.lookup_eq_none (h : ProfileUpdate d) (hfield : field ∈ registeredFields) :
    d.lookup field = none := by
  simp only [registeredFields, List.mem_cons, List.not_mem_nil, or_false] at hfield
  cases h <;> rcases hfield with rfl | rfl | rfl <;> simp

/-- The profile of a Google account has none of the registered fields. -/
theorem lookup_googleProfile (hfield : field ∈ registeredFields) (account : GoogleSignInAccount)
    (now : DateTime) :
    (AuthenticationRepository.googleProfile account now).lookup field = none := by
  simp only [registeredFields, List.mem_cons, List.not_mem_nil, or_false] at hfield
  rcases hfield with rfl | rfl | rfl <;> simp [AuthenticationRepository.googleProfile]

/-- A new user is not an administrator. -/
theorem role_newUser (form : SignupForm) (userCredential : UserCredential)
    (createdNow updatedNow activeNow : DateTime) :
    ((SignupController.newUser form userCredential).toJson createdNow updatedNow activeNow).1.lookup
      "Role" = some (.scalar (.string AppRole.user.name)) := by
  simp [UserModel.toJson, SignupController.newUser]

/-- A call that does not write to the users replaces no record. -/
theorem replacement_of_not_writes (hc : c.writes .users = false) : c.replacement id = none := by
  cases c with
  | set n | delete n =>
    cases n with
    | users => cases hc
    | _ => rfl
  | _ => rfl

/-- Merging other fields into a record keeps the field. -/
theorem recordField_setMerge (hd : d.lookup field = none) (w : World) (id' : String) :
    recordField id field (w.setDb .users ((w.db .users).setMerge id' d)) =
      recordField id field w := by
  rw [recordField, World.setDb_db_self, Collection.lookup_setMerge]
  split
  case isTrue heq =>
    subst heq
    rw [Option.bind_some, Doc.lookup_merge, hd, Option.none_or, recordField]
    cases (w.db .users).lookup id <;> rfl
  case isFalse => rfl

/-- An update without the field leaves it as it is. -/
theorem recordField_update (hd : d.lookup field = none) {w : World} {id' : String}
    {docs : Collection} (h : (w.db .users).update id' d = some docs) :
    recordField id field (w.setDb .users docs) = recordField id field w := by
  obtain ⟨old, hold, rfl⟩ := Collection.update_eq_some.mp h
  have hmerge : recordField id field _ = _ := recordField_setMerge hd w id'
  rwa [Collection.setMerge, hold, Option.getD_some] at hmerge

/-- A field after an answer. -/
def fieldAfter (id field : String) (v : Option Value) (ev : Event) : Option Value :=
  ((replacement id ev).map (·.bind (·.lookup field))).getD v

/-- The field changes only if the record is replaced. -/
theorem recordField_of_ok (hfield : field ∈ registeredFields) (hc : c.RecordRight) {w w' : World}
    {v : Reply c} (h : overlapping.perform c w (Except.ok (ε := Exn) v) = some w') :
    recordField id field w' =
      ((c.replacement id).map (·.bind (·.lookup field))).getD (recordField id field w) := by
  by_cases hwrites : c.writes .users = false
  · rw [replacement_of_not_writes hwrites, recordField, db_of_overlapping hwrites h]
    rfl
  cases c with
  | set n id' d =>
    obtain rfl : n = .users := by simpa [Call.writes] using hwrites
    cases h
    rw [recordField, World.setDb_db_self, Collection.lookup_set, Call.replacement]
    simp only [eq_comm (a := id)]
    split <;> rfl
  | delete n id' =>
    obtain rfl : n = .users := by simpa [Call.writes] using hwrites
    cases h
    rw [recordField, World.setDb_db_self, Call.replacement, Collection.delete]
    by_cases heq : id' = id
    · subst heq
      simp
    · rw [if_neg heq, AList.lookup_erase_ne (Ne.symm heq)]
      rfl
  | setMerge n id' d =>
    obtain rfl : n = .users := by simpa [Call.writes] using hwrites
    obtain ⟨account, now, rfl⟩ := hc
    cases h
    exact recordField_setMerge (lookup_googleProfile hfield account now) w id'
  | update n id' d =>
    obtain rfl : n = .users := by simpa [Call.writes] using hwrites
    rcases perform_of_overlapping h with h | rfl
    · obtain ⟨docs, hdocs, rfl⟩ := Option.map_eq_some_iff.mp h
      exact recordField_update (hc.lookup_eq_none hfield) hdocs
    · rfl
  | add n d =>
    obtain rfl : n = .users := by simpa [Call.writes] using hwrites
    exact hc.elim
  | _ => exact absurd rfl hwrites

/-- The calls that may touch a record act on the field as their events say. -/
theorem showsOn_recordField (hfield : field ∈ registeredFields) :
    overlapping.ShowsOn (ε := Exn) Call.RecordRight (recordField id field)
      (fieldAfter id field) := by
  intro c w w' r hc h
  cases r with
  | ok v => exact recordField_of_ok hfield hc h
  | error e =>
    obtain ⟨-, hw⟩ := Option.ite_none_right_eq_some.mp h
    cases hw
    rfl

end Writes

section Operations

/-- The program replaces records only as a registration does. -/
abbrev KeepsRegistered {α : Type} (id field : String) (p : App α) : Prop :=
  p.Confined Call.RecordRight (recordField id field)

theorem keepsRegistered_call {id field : String} {c : Call} (hc : c.RecordRight) :
    KeepsRegistered id field (await c) :=
  Prog.confined_invoke hc

theorem keepsRegistered_update {id field : String} {u : World → World}
    (hu : ∀ w, (u w).services = w.services) : KeepsRegistered id field (Prog.modify u) := by
  apply Prog.confined_modify
  intro w
  have hdb : (u w).db = w.db := congrArg (fun x => x.2.2.1) (hu w)
  rw [recordField, hdb, recordField]

/-- No operation writes a registered field of a record but by replacing it whole. -/
theorem AppOperation.keepsRegistered (intl : Intl) (repository : LocationRepository)
    (op : AppOperation) (id field : String) :
    KeepsRegistered id field (op.body intl repository) := by
  apply closed_operation (Prog.closed_confined _ _)
  · exact fun _ _ hc => keepsRegistered_call hc
  · exact fun _ hu => keepsRegistered_update hu
  · exact fun _ _ _ => keepsRegistered_call trivial

end Operations

section Runs

variable {intl : Intl} {repository : LocationRepository} {w₀ : World} {ms : History}
  {c : AppPool AppOperation}

/-- What replaces a record does not make an administrator. -/
theorem role_of_replacement {id : String} {ev : Event} (hc : ev.call.RecordRight) {d : Option Doc}
    (h : replacement id ev = some d) :
    d.bind (·.lookup "Role") ≠ some (.scalar (.string AppRole.admin.name)) := by
  obtain ⟨w, c, r⟩ := ev
  obtain ⟨-, h⟩ := Option.ite_none_right_eq_some.mp h
  cases c with
  | set n id' data =>
    cases n with
    | users =>
      obtain ⟨-, hd⟩ := Option.ite_none_right_eq_some.mp h
      cases hd
      obtain ⟨form, userCredential, createdNow, updatedNow, activeNow, -, rfl⟩ := hc
      rw [Option.bind_some, role_newUser]
      decide
    | _ => cases h
  | delete n id' =>
    cases n with
    | users =>
      obtain ⟨-, hd⟩ := Option.ite_none_right_eq_some.mp h
      cases hd
      exact nofun
    | _ => cases h
  | _ => cases h

/-- The last replacement counts. -/
theorem foldl_fieldAfter (id field : String) (v : Option Value) (tr : List Event) :
    tr.foldl (fieldAfter id field) v =
      (tr.filterMap (replacement id)).getLast?.elim v (·.bind (·.lookup field)) := by
  unfold fieldAfter
  rw [foldl_overwrite, ← List.map_filterMap, List.getLast?_map]
  cases (tr.filterMap (replacement id)).getLast? <;> rfl

/-- In every interleaving, whatever is answered: the role and the times of creation and update in a
record are those of its last replacement, or of the start if there was none; and the administrators
are those of the start whose records were not replaced. -/
theorem record_registered
    (hrun : Pool.Run overlapping (AppOperation.body intl repository) ⟨w₀, []⟩ ms c) (id : String) :
    (∀ field ∈ registeredFields, recordField id field c.state =
      (replacements id ms).getLast?.elim (recordField id field w₀) (·.bind (·.lookup field))) ∧
    (Administers id c.state ↔ Administers id w₀ ∧ replacements id ms = []) := by
  have hbody (field : String) (op : AppOperation) := op.keepsRegistered intl repository id field
  have hfields (field : String) (hfield : field ∈ registeredFields) : recordField id field c.state =
      (replacements id ms).getLast?.elim (recordField id field w₀) (·.bind (·.lookup field)) := by
    rw [hrun.view_eq (showsOn_recordField hfield) (hbody field) (List.forall_mem_nil _)]
    exact foldl_fieldAfter id field _ _
  refine ⟨hfields, ?_⟩
  rw [administers_iff, administers_iff, hfields "Role" (by decide), ← List.getLast?_eq_none_iff]
  cases hlast : (replacements id ms).getLast? with
  | none => simp
  | some d =>
    obtain ⟨ev, hev, hd⟩ := List.mem_filterMap.mp (List.mem_of_getLast? hlast)
    obtain ⟨m, hm, heq⟩ := List.mem_filterMap.mp hev
    cases m with
    | issued w call => cases heq
    | answered ev' =>
      cases heq
      have hright := (hrun.confined (hbody "Role") (List.forall_mem_nil _)).2 _ hm
      simpa using role_of_replacement hright hd

end Runs

/-- An administrator with a Google account, signed out. -/
def World.withAdministrator : World :=
  { World.withUsers [User.of "g" "g@x" "google.com"] with currentUser := none }.setDb .users
    (AList.singleton "g"
      (Doc.ofFields [("Email", Scalar.string "g@x"), ("Role", Scalar.string "admin")]))

/-- The administrator signs in, which merges the Google profile into the record. -/
theorem record_registered_administrator : ∃ ms c,
    Pool.Run overlapping (AppOperation.body Intl.utc ⟨none⟩) ⟨World.withAdministrator, []⟩ ms c ∧
      recordField "g" "LastActive" c.state ≠ recordField "g" "LastActive" World.withAdministrator ∧
      Administers "g" c.state := by
  obtain ⟨ms, c, hrun, hq⟩ := app_pool_run Intl.utc ⟨none⟩ World.withAdministrator
    (choosing ⟨"g", "g@x", none, none⟩)
    [.start .googleSignIn, .go 0, .go 0, .go 0, .go 0, .go 0, .go 0, .go 0, .go 0, .go 0, .go 0,
      .go 0, .go 0]
    (fun out => decide (recordField "g" "LastActive" out.2.state ≠
      recordField "g" "LastActive" World.withAdministrator ∧ replacements "g" out.1 = []))
    (by decide +kernel)
  obtain ⟨hactive, hnone⟩ := of_decide_eq_true hq
  have hstart : Administers "g" World.withAdministrator := administers_iff.mpr rfl
  exact ⟨ms, c, hrun, hactive, ((record_registered hrun "g").2).mpr ⟨hstart, hnone⟩⟩

end AroundMuseo
