import AroundMuseo.Platform.Rules
import AroundMuseo.Platform.Scenario
import AroundMuseo.Repositories.AuthenticationRepository

/-!
# The round trip of a user record

The encoder writes its own readings of the clock over the three times of the model, and
stores the last activity under a name that the decoder does not look for. A record comes
back unchanged only where the clock happens to say what it held.
-/

namespace AroundMuseo

open Async Firestore

/-- What the clock says while the three times of a record are read or written. -/
structure Readings where
  created : DateTime
  updated : DateTime
  active : DateTime

namespace UserModel

/-- The stored record, and the model that encoding it leaves behind. -/
def encode (clock : Readings) (u : UserModel) : Doc × UserModel :=
  u.toJson clock.created clock.updated clock.active

/-- The record that is read. -/
def decode (clock : Readings) (id : String) (doc : Option Doc) : Except Exn UserModel :=
  fromSnapshot clock.created clock.updated clock.active id doc

/-- A role survives being stored by its name. -/
theorem roleField_of_name {data : Doc} {role : AppRole}
    (h : data.lookup "Role" = some (.scalar (.string role.name))) : roleField data = role := by
  unfold roleField
  rw [h]
  cases role with
  | admin => simp
  | user => simp [AppRole.name]

/-- A record with the encoded fields decodes to the model, with the first two times of the
encoder and the last of the decoder. -/
theorem decode_of_encode {u : UserModel} {encoder : Readings} {data : Doc}
    (h : ∀ key ≠ "LastActive", data.lookup key = (u.encode encoder).1.lookup key)
    (decoder : Readings) (id : String) : decode decoder id (some data) = .ok { u with
      id
      createdAt := some encoder.created
      updatedAt := some encoder.updated
      lastActive := some decoder.active } := by
  have hstring (key s : String) (hkey : key ≠ "LastActive")
      (hs : (u.encode encoder).1.lookup key = some (.scalar (.string s))) :
      stringField data key "" = .ok s := by
    rw [stringField, h key hkey, hs]
  have hrole : roleField data = u.role := by
    apply roleField_of_name
    rw [h "Role" (by decide)]
    simp [encode, toJson]
  have hcreated : dateField data "CreatedAt" decoder.created = .ok encoder.created := by
    rw [dateField, h "CreatedAt" (by decide)]
    simp [encode, toJson]
  have hupdated : dateField data "UpdatedAt" decoder.updated = .ok encoder.updated := by
    rw [dateField, h "UpdatedAt" (by decide)]
    simp [encode, toJson]
  -- the name that the decoder looks for is not the encoder's
  have hactive : dateField data "lastActive" decoder.active = .ok decoder.active := by
    rw [dateField, h "lastActive" (by decide)]
    simp [encode, toJson]
  rw [decode, fromSnapshot, hstring "FirstName" u.firstName (by decide) rfl,
    hstring "LastName" u.lastName (by decide) rfl, hstring "Email" u.email (by decide) rfl,
    hstring "Gender" u.gender (by decide) rfl, hstring "BirthYear" u.birthYear (by decide) rfl,
    hstring "AddressCity" u.addressCity (by decide) rfl,
    hstring "AddressProvState" u.addressProvState (by decide) rfl,
    hstring "AddressCountry" u.addressCountry (by decide) rfl,
    hstring "ProfilePicture" u.profilePicture (by decide) rfl, hcreated, hupdated, hactive]
  simp [hrole, bind, Except.bind, pure, Except.pure]

end UserModel

/-- The field that `updateLastActive` writes. -/
def activityFields (t : DateTime) : Doc := Doc.ofFields [("LastActive", Scalar.timestamp t)]

/-- A time is stored as the last activity of a user. -/
def Event.StoresActivity (uid : String) (t : DateTime) (ev : Event) : Prop :=
  ev.call = .update .users uid (activityFields t) ∧ ev.reply.isOk = true

theorem activityFields_injective {t t' : DateTime} (h : activityFields t = activityFields t') :
    t = t' := by
  have hlookup :
      (activityFields t).lookup "LastActive" = (activityFields t').lookup "LastActive" := by
    rw [h]
  simpa [activityFields] using hlookup

/-- What a run of `updateLastActive` that stores a time makes of the record. -/
theorem updateLastActive_stored {uid : String} {w : World} {data : Doc}
    (hdata : (w.db .users).lookup uid = some data) :
    (AuthenticationRepository.updateLastActive uid).wp platform (fun _ tr w' =>
      ∀ t, (∃ ev ∈ tr, Event.StoresActivity uid t ev) →
        (w'.db .users).lookup uid = some (data.merge (activityFields t))) w := by
  unfold AuthenticationRepository.updateLastActive
  by_cases huid : uid = ""
  · simp [huid]
  rw [if_pos huid, Prog.wp_handle, wp_now_bind]
  intro now
  rw [Prog.wp_invoke]
  constructor
  · simp [Event.StoresActivity, Except.isOk, Except.toBool]
  · intro v w' hw'
    have hupdate : (w.db .users).update uid (activityFields now) =
        some ((w.db .users).insert uid (data.merge (activityFields now))) := by
      rw [Collection.update, hdata]
      rfl
    have hw : w' = w.setDb .users ((w.db .users).insert uid (data.merge (activityFields now))) := by
      have hmap : ((w.db .users).update uid (activityFields now)).map (w.setDb .users) = some w' :=
        hw'
      rw [hupdate] at hmap
      exact (Option.some.inj hmap).symm
    rintro t ⟨ev, hev, hcall, -⟩
    have ht : now = t := by
      rcases List.mem_cons.mp hev with rfl | hev
      · cases hcall
      · rw [List.mem_singleton.mp hev] at hcall
        exact activityFields_injective (Call.update.inj hcall).2.2
    rw [hw, World.setDb_db_self, ht, AList.lookup_insert]

/-- A record comes back as it was, encoding leaves the model alone, and the activity that was
stored last is the one that is read next. -/
structure UserRoundTrips (u : UserModel) (encoder decoder reader : Readings) (t : DateTime)
    (w' : World) : Prop where
  decoded : UserModel.decode decoder u.id (some (u.encode encoder).1) = .ok u
  unmodified : (u.encode encoder).2 = u
  activity : ∃ v, UserModel.decode reader u.id ((w'.db .users).lookup u.id) = .ok v ∧
    v.lastActive = some t

/-- A record makes the round trip exactly if its times are the encoder's readings of the
clock, and each decoder reads the clock at the very time of the last activity. -/
theorem userRoundTrips_iff {u : UserModel} {encoder decoder reader : Readings} {t : DateTime}
    {w w' : World} {tr : List Event} {r : Except Exn Unit}
    (hstored : (w.db .users).lookup u.id = some (u.encode encoder).1)
    (hrun : (AuthenticationRepository.updateLastActive u.id).Run platform w tr r w')
    (hactivity : ∃ ev ∈ tr, Event.StoresActivity u.id t ev) :
    UserRoundTrips u encoder decoder reader t w' ↔
      u.createdAt = some encoder.created ∧ u.updatedAt = some encoder.updated ∧
        u.lastActive = some encoder.active ∧ decoder.active = encoder.active ∧
          reader.active = t := by
  have hmerged := Prog.wp_iff_run.mp (updateLastActive_stored hstored) tr r w' hrun t hactivity
  have hencoded : ∀ key ≠ "LastActive",
      (u.encode encoder).1.lookup key = (u.encode encoder).1.lookup key := fun key _ => rfl
  have hdecoded := UserModel.decode_of_encode hencoded decoder u.id
  have hread : ∀ key ≠ "LastActive",
      ((u.encode encoder).1.merge (activityFields t)).lookup key =
        (u.encode encoder).1.lookup key := by
    intro key hkey
    have hnone : (activityFields t).lookup key = none := by simp [activityFields, hkey]
    rw [Doc.lookup_merge, hnone, Option.none_or]
  have hreader := UserModel.decode_of_encode hread reader u.id
  constructor
  · intro h
    have hsame := h.decoded
    rw [hdecoded, Except.ok.injEq] at hsame
    obtain ⟨v, hv, hlast⟩ := h.activity
    rw [hmerged, hreader, Except.ok.injEq] at hv
    have hcreated : some encoder.created = u.createdAt := congrArg UserModel.createdAt hsame
    have hupdated : some encoder.updated = u.updatedAt := congrArg UserModel.updatedAt hsame
    have hactive : some decoder.active = u.lastActive := congrArg UserModel.lastActive hsame
    have hkept : some encoder.active = u.lastActive := congrArg UserModel.lastActive h.unmodified
    have hshown : some reader.active = some t := by
      rw [← hlast, ← hv]
    refine ⟨hcreated.symm, hupdated.symm, hkept.symm, ?_, Option.some.inj hshown⟩
    exact Option.some.inj (hactive.trans hkept.symm)
  · rintro ⟨hcreated, hupdated, hkept, hactive, hshown⟩
    have hmodel : { u with
        createdAt := some encoder.created
        updatedAt := some encoder.updated
        lastActive := some encoder.active } = u := by
      rw [← hcreated, ← hupdated, ← hkept]
    refine ⟨?_, hmodel, _, hmerged ▸ hreader, ?_⟩
    · rw [hdecoded, hactive, hmodel]
    · rw [hshown]

/-- A user with all three times, who registered at `t`. -/
def UserModel.registeredAt (t : DateTime) : UserModel :=
  { UserModel.empty t t t with id := "u", firstName := "Ana" }

/-- The state in which the record of that user was stored at `now`. -/
def World.withRecord (t now : DateTime) : World :=
  (World.withUsers []).setDb .users
    (AList.singleton "u" ((UserModel.registeredAt t).encode ⟨now, now, now⟩).1)

/-- The clock stands still all the time. -/
theorem userRoundTrips_still : ∃ (tr : List Event) (r : Except Exn Unit) (w' : World),
    (AuthenticationRepository.updateLastActive "u").Run platform (World.withRecord 0 0) tr r w' ∧
      (∃ ev ∈ tr, Event.StoresActivity "u" 0 ev) ∧
      UserRoundTrips (UserModel.registeredAt 0) ⟨0, 0, 0⟩ ⟨0, 0, 0⟩ ⟨0, 0, 0⟩ 0 w' := by
  obtain ⟨tr, r, w', hrun, hq⟩ := scenario_run (AuthenticationRepository.updateLastActive "u")
    (World.withRecord 0 0) (fun _ _ => none)
    (fun out => out.1.any fun ev => decide (ev.call = .update .users "u" (activityFields 0)) &&
      ev.reply.isOk)
    (by decide +kernel)
  obtain ⟨ev, hev, hstores⟩ := List.any_eq_true.mp hq
  rw [Bool.and_eq_true, decide_eq_true_eq] at hstores
  have hstored : ((World.withRecord 0 0).db .users).lookup "u" =
      some ((UserModel.registeredAt 0).encode ⟨0, 0, 0⟩).1 := by
    rw [World.withRecord, World.setDb_db_self]
    rfl
  have hroundTrips :
      UserRoundTrips (UserModel.registeredAt 0) ⟨0, 0, 0⟩ ⟨0, 0, 0⟩ ⟨0, 0, 0⟩ 0 w' ↔ _ :=
    userRoundTrips_iff hstored hrun ⟨ev, hev, hstores⟩
  exact ⟨tr, r, w', hrun, ⟨ev, hev, hstores⟩, hroundTrips.mpr ⟨rfl, rfl, rfl, rfl, rfl⟩⟩

/-- The clock goes on between the steps. -/
theorem not_userRoundTrips_ticking : ∃ (tr : List Event) (r : Except Exn Unit) (w' : World),
    ((World.withRecord 0 1).db .users).lookup "u" =
        some ((UserModel.registeredAt 0).encode ⟨1, 1, 1⟩).1 ∧
      (AuthenticationRepository.updateLastActive "u").Run platform (World.withRecord 0 1) tr r w' ∧
      (∃ ev ∈ tr, Event.StoresActivity "u" 2 ev) ∧
      ¬ UserRoundTrips (UserModel.registeredAt 0) ⟨1, 1, 1⟩ ⟨2, 2, 2⟩ ⟨3, 3, 3⟩ 2 w' := by
  obtain ⟨tr, r, w', hrun, hq⟩ := scenario_run (AuthenticationRepository.updateLastActive "u")
    (World.withRecord 0 1)
    (showing 2)
    (fun out => out.1.any fun ev => decide (ev.call = .update .users "u" (activityFields 2)) &&
      ev.reply.isOk)
    (by decide +kernel)
  obtain ⟨ev, hev, hstores⟩ := List.any_eq_true.mp hq
  rw [Bool.and_eq_true, decide_eq_true_eq] at hstores
  refine ⟨tr, r, w', ?_, hrun, ⟨ev, hev, hstores⟩, fun h => ?_⟩
  · rw [World.withRecord, World.setDb_db_self]
    rfl
  · have hcreated := congrArg UserModel.createdAt h.unmodified
    simp [UserModel.encode, UserModel.toJson, UserModel.registeredAt, UserModel.empty] at hcreated

end AroundMuseo
