import AroundMuseo.Core.ListSet
import AroundMuseo.Core.Named
import AroundMuseo.Platform.Scenario
import AroundMuseo.Repositories.LocationRepository

/-!
# The stored favourites

The document of a user holds the favourites as a list. A committed transaction updates
it as a set kept as a list is updated, so that the commits determine the list, whatever
the devices and the order of their commits.
-/

namespace AroundMuseo

open Async Firestore

/-- What the transaction does to the list. -/
def FavoritesTransaction.update : FavoritesTransaction → ListSet.Update Scalar
  | addToFavorites locationId => .add (.string locationId)
  | removeFromFavorites locationId => .remove (.string locationId)

/-- The list of a document; there is none in an absent document or field. -/
def storedIds (doc : Option Doc) : List Scalar :=
  match doc with
  | none => []
  | some data =>
    match FavoritesTransaction.favoriteLocationIds data with
    | .ok ids => ids
    | .error _ => []

/-- The stored favourites of a user. -/
def World.storedFavorites (uid : String) (w : World) : List Scalar :=
  storedIds ((w.db .userFavorites).lookup uid)

section Apply

variable {doc : Option Doc} {data : Doc} {ids : List Scalar}

/-- A list that can be read is the stored one. -/
theorem storedIds_of_ok (h : FavoritesTransaction.favoriteLocationIds data = .ok ids) :
    storedIds (some data) = ids := by
  rw [storedIds]
  simp only [h]

/-- What was merged is read back. -/
theorem favoriteLocationIds_merge (data : Doc) (ids : List Scalar) :
    FavoritesTransaction.favoriteLocationIds (data.merge (FavoritesTransaction.fields ids)) =
      .ok ids := by
  have hlookup : (data.merge (FavoritesTransaction.fields ids)).lookup "FavoriteLocationIds" =
      some (.array ids) := by
    simp [FavoritesTransaction.fields]
  rw [FavoritesTransaction.favoriteLocationIds, hlookup]

/-- A transaction that does not throw updates the list. -/
theorem storedIds_apply {tx : FavoritesTransaction} {out : Option Doc}
    (h : tx.apply doc = .ok out) :
    storedIds (out.or doc) = ListSet.update (storedIds doc) tx.update := by
  cases doc with
  | none =>
    cases tx with
    | addToFavorites x =>
      cases h
      rfl
    | removeFromFavorites x =>
      cases h
      rfl
  | some data =>
    cases tx with
    | addToFavorites x =>
      obtain ⟨ids, hids, h⟩ := bind_eq_ok.mp h
      rw [storedIds_of_ok hids, FavoritesTransaction.update, ListSet.update]
      rw [FavoritesTransaction.addId] at h
      by_cases hx : Scalar.string x ∈ ids
      · rw [if_pos hx] at h ⊢
        cases h
        exact storedIds_of_ok hids
      · rw [if_neg hx] at h ⊢
        cases h
        exact storedIds_of_ok (favoriteLocationIds_merge data _)
    | removeFromFavorites x =>
      obtain ⟨ids, hids, h⟩ := bind_eq_ok.mp h
      rw [storedIds_of_ok hids, FavoritesTransaction.update, ListSet.update]
      rw [FavoritesTransaction.removeId] at h
      by_cases hx : Scalar.string x ∈ ids
      · rw [if_pos hx] at h
        cases h
        exact storedIds_of_ok (favoriteLocationIds_merge data _)
      · rw [if_neg hx] at h
        cases h
        rw [List.erase_of_not_mem hx]
        exact storedIds_of_ok hids

end Apply

/-- The update of the favourites of a user that an event commits, if it does. -/
def committed (uid : String) : Event → Option (ListSet.Update Scalar)
  | ⟨_, .runTransaction id tx, .ok _⟩ => if id = uid then some tx.update else none
  | _ => none

/-- The updates of the favourites of a user that are committed in a history, in order. -/
def commits (uid : String) (ms : History) : List (ListSet.Update Scalar) :=
  (answers ms).filterMap (committed uid)

/-- What an event makes of the favourites of a user. -/
def actOnFavorites (uid : String) (ids : List Scalar) (ev : Event) : List Scalar :=
  match committed uid ev with
  | some u => ListSet.update ids u
  | none => ids

/-- The events make of the favourites what their commits do. -/
theorem foldl_actOnFavorites (uid : String) (ids : List Scalar) (ms : History) :
    (answers ms).foldl (actOnFavorites uid) ids = ListSet.run ids (commits uid ms) := by
  rw [ListSet.run, commits, List.foldl_filterMap]
  congr 1
  funext ids ev
  rw [actOnFavorites]
  cases committed uid ev <;> rfl

/-- The effect of a committed transaction on the favourites of any user. -/
theorem storedFavorites_runTransaction {uid id : String} {tx : FavoritesTransaction} {w w' : World}
    (h : w.runTransaction id tx = some w') : w'.storedFavorites uid =
      if id = uid then ListSet.update (w.storedFavorites uid) tx.update
        else w.storedFavorites uid := by
  rw [World.runTransaction] at h
  cases happly : tx.apply ((w.db .userFavorites).lookup id) with
  | error e =>
    rw [happly] at h
    cases h
  | ok out =>
    have hids := storedIds_apply happly
    rw [happly] at h
    cases out with
    | none =>
      cases h
      rw [Option.none_or] at hids
      by_cases hid : id = uid
      · subst hid
        rw [if_pos rfl]
        exact hids
      · rw [if_neg hid]
    | some d =>
      cases h
      rw [Option.some_or] at hids
      rw [World.storedFavorites, World.setDb_db_self, Collection.lookup_set]
      by_cases hid : id = uid
      · subst hid
        rw [if_pos rfl, if_pos rfl]
        exact hids
      · rw [if_neg hid, if_neg (Ne.symm hid)]
        rfl

/-- The calls that run a transaction. -/
def Call.IsTransaction (c : Call) : Prop := ∃ id tx, c = .runTransaction id tx

/-- A transaction does to the stored list what its event says, and nothing else does. -/
theorem showsOn_actOnFavorites (uid : String) : platform.ShowsOn Call.IsTransaction
    (World.storedFavorites uid) (actOnFavorites uid) := by
  rintro c w w' r ⟨id, tx, rfl⟩ h
  cases r with
  | error e =>
    have hw : some w = some w' := h
    cases hw
    rfl
  | ok v =>
    rw [storedFavorites_runTransaction h, actOnFavorites, committed]
    by_cases hid : id = uid
    · rw [if_pos hid, if_pos hid]
    · rw [if_neg hid, if_neg hid]

/-- The call of a repository that runs the transaction. -/
def transact (repository : LocationRepository) : FavoritesTransaction → App Unit
  | .addToFavorites locationId => repository.addToFavorites locationId
  | .removeFromFavorites locationId => repository.removeFromFavorites locationId

theorem transact_eq (uid : String) (tx : FavoritesTransaction) :
    transact ⟨some uid⟩ tx = await (.runTransaction uid tx) := by
  cases tx <;> rfl

theorem confined_transact {τ : Type} (view : World → τ) (uid : String) (tx : FavoritesTransaction) :
    (transact ⟨some uid⟩ tx).Confined Call.IsTransaction view := by
  rw [transact_eq]
  exact Prog.confined_invoke ⟨uid, tx, rfl⟩

section Named

/-- The devices of a user call the functions of the repository; a call tells by which function it
is made. -/
def favoritesPlatform : Platform (NamedReply FavoritesTransaction Reply) World :=
  platform.named (Parts.whole FavoritesTransaction World)

/-- The function, as a device runs it. -/
def favoritesBody (uid : String) (tx : FavoritesTransaction) :
    Prog (NamedReply FavoritesTransaction Reply) World Exn Unit :=
  (transact ⟨some uid⟩ tx).named (Parts.whole FavoritesTransaction World) tx

/-- Functions that the devices run at the same time. -/
abbrev FavoritesPool :=
  Pool (NamedReply FavoritesTransaction Reply) World Exn FavoritesTransaction

abbrev FavoritesEvent := Async.Event (NamedReply FavoritesTransaction Reply) World Exn

abbrev FavoritesHistory := List (Moment (NamedReply FavoritesTransaction Reply) World Exn)

/-- The function that runs a transaction on the favourites of a user, and whether this commits. -/
def ranBy (uid : String) : FavoritesEvent → Option (FavoritesTransaction × Bool)
  | ⟨_, (tx, .runTransaction id _), r⟩ => if id = uid then some (tx, r.isOk) else none
  | _ => none

/-- The functions that have run their transaction, and whether it committed, in order. -/
def transactions (uid : String) (ms : FavoritesHistory) : List (FavoritesTransaction × Bool) :=
  (answers ms).filterMap (ranBy uid)

/-- What a function is called for, if its transaction commits. -/
def achieved : FavoritesTransaction × Bool → Option (ListSet.Update Scalar)
  | (tx, true) => some tx.update
  | (_, false) => none

/-- What the functions whose transaction commits are called for, in the order of the commits. -/
def achievements (uid : String) (ms : FavoritesHistory) : List (ListSet.Update Scalar) :=
  (transactions uid ms).filterMap achieved

/-- The call of the function runs the transaction of that function. -/
def IsOwnTransaction (uid : String) (c : FavoritesTransaction × Call) : Prop :=
  c.2 = .runTransaction uid c.1

/-- Both functions make one call, the transaction of the account. -/
theorem confined_favoritesBody {τ : Type} (view : World → τ) (uid : String)
    (tx : FavoritesTransaction) :
    (favoritesBody uid tx).Confined (IsOwnTransaction uid) view := by
  rw [favoritesBody, transact_eq]
  have hcall : (await (.runTransaction uid tx) : App Unit).Confined
      (· = .runTransaction uid tx) view := Prog.confined_invoke rfl
  refine Prog.Confined.mono (hcall.named fun _ _ h => h) ?_
  rintro ⟨tx', c⟩ ⟨htx, hc⟩
  cases htx
  exact hc

theorem ranBy_of_isOwn {uid : String} {ev : FavoritesEvent} (h : IsOwnTransaction uid ev.call) :
    ranBy uid ev = some (ev.call.1, ev.reply.isOk) := by
  obtain ⟨w, ⟨tx, c⟩, r⟩ := ev
  have hc : c = .runTransaction uid tx := h
  subst hc
  exact if_pos rfl

/-- What the function that an event answers makes of the favourites. -/
def achieve (uid : String) (ids : List Scalar) (ev : FavoritesEvent) : List Scalar :=
  match (ranBy uid ev).bind achieved with
  | some u => ListSet.update ids u
  | none => ids

/-- The transactions of a run do to the list what its achievements do. -/
theorem foldl_achieve (uid : String) (ids : List Scalar) (ms : FavoritesHistory) :
    (answers ms).foldl (achieve uid) ids = ListSet.run ids (achievements uid ms) := by
  rw [achievements, transactions, List.filterMap_filterMap, ListSet.run, List.foldl_filterMap]
  congr 1
  funext ids ev
  rw [achieve]
  cases (ranBy uid ev).bind achieved <;> rfl

/-- A function changes the favourites as it is called for, if its transaction commits. -/
theorem showsOn_achieve (uid : String) : favoritesPlatform.ShowsOn (IsOwnTransaction uid)
    (World.storedFavorites uid) (achieve uid) := by
  rintro ⟨tx, c⟩ w w' r hown h
  have hc : c = .runTransaction uid tx := hown
  subst hc
  rw [achieve, ranBy_of_isOwn hown]
  rw [favoritesPlatform, Platform.named_whole_perform] at h
  cases r with
  | error e =>
    have hw : some w = some w' := h
    cases hw
    rfl
  | ok v =>
    rw [storedFavorites_runTransaction h, if_pos rfl]
    rfl

/-- The stored favourites are what the functions with a committed transaction make of them. -/
theorem storedFavorites_of_run {uid : String} {c c' : FavoritesPool} {ms : FavoritesHistory}
    (hrun : Pool.Run favoritesPlatform (favoritesBody uid) c ms c')
    (hinit : ∀ x ∈ c.tasks, x.2.Confined (IsOwnTransaction uid) (World.storedFavorites uid)) :
    c'.state.storedFavorites uid =
      ListSet.run (c.state.storedFavorites uid) (achievements uid ms) := by
  rw [hrun.view_eq (showsOn_achieve uid) (confined_favoritesBody _ uid) hinit, foldl_achieve]

/-- Every function that does not wait any more has run its transaction, once, and no others are
run. -/
theorem transactions_perm {uid : String} {w₀ : World} {c : FavoritesPool} {ms : FavoritesHistory}
    (hrun : Pool.Run favoritesPlatform (favoritesBody uid) ⟨w₀, []⟩ ms c) :
    ((transactions uid ms).map Prod.fst).Perm c.answered := by
  have hown : ∀ ev ∈ answers ms, IsOwnTransaction uid ev.call := by
    intro ev hev
    obtain ⟨m, hm, heq⟩ := List.mem_filterMap.mp hev
    have hcall := (hrun.confined (confined_favoritesBody (fun _ => ()) uid)
      (List.forall_mem_nil _)).2 m hm
    cases m with
    | issued w c => cases heq
    | answered ev' =>
      cases heq
      exact hcall
  have hall : transactions uid ms = (answers ms).map fun ev => (ev.call.1, ev.reply.isOk) := by
    rw [transactions, List.filterMap_congr fun ev hev => ranBy_of_isOwn (hown ev hev)]
    rw [List.filterMap_eq_map']
  have hbody (tx : FavoritesTransaction) : ∃ k,
      favoritesBody uid tx = .call (tx, .runTransaction uid tx) k ∧
        ∀ r, ∃ out, k r = .done out := by
    rw [favoritesBody, transact_eq]
    exact ⟨_, rfl, fun r => ⟨r, rfl⟩⟩
  have hperm := (hrun.calls_perm (fun _ => rfl) hbody).map Prod.fst
  rw [List.map_map, List.map_map] at hperm
  rw [hall, List.map_map]
  exact hperm.trans (List.map_id' _ ▸ .refl _)

end Named

/-- The documents that the favourites start from. -/
inductive FavoritesDocument : Option Doc → Prop
  | absent : FavoritesDocument none
  | missing {data : Doc} (h : data.lookup "FavoriteLocationIds" = none) :
      FavoritesDocument (some data)
  | list {data : Doc} {ids : List Scalar}
      (h : data.lookup "FavoriteLocationIds" = some (.array ids))
      (hnodup : ids.Nodup) : FavoritesDocument (some data)

/-- A stored list has no element twice. -/
theorem FavoritesDocument.nodup {doc : Option Doc} (h : FavoritesDocument doc) :
    (storedIds doc).Nodup := by
  cases h with
  | absent => exact List.nodup_nil
  | @missing data h =>
    have hids : FavoritesTransaction.favoriteLocationIds data = .ok [] := by
      rw [FavoritesTransaction.favoriteLocationIds, h]
    rw [storedIds_of_ok hids]
    exact List.nodup_nil
  | @list data ids h hnodup =>
    have hids : FavoritesTransaction.favoriteLocationIds data = .ok ids := by
      rw [FavoritesTransaction.favoriteLocationIds, h]
    rw [storedIds_of_ok hids]
    exact hnodup

/-- The last commit of an id decides. -/
structure Linearised (before after : List Scalar) (us : List (ListSet.Update Scalar)) : Prop where
  nodup : after.Nodup
  mem_iff : ∀ z, z ∈ after ↔
    ListSet.last? z us = some (.add z) ∨ ListSet.last? z us = none ∧ z ∈ before
  /-- The ids that were there before and were not removed keep their order. -/
  order : after.filter (fun z => z ∈ before ∧ .remove z ∉ us) =
    before.filter fun z => z ∈ before ∧ .remove z ∉ us

theorem linearised_run {before : List Scalar} (h : before.Nodup)
    (us : List (ListSet.Update Scalar)) : Linearised before (ListSet.run before us) us where
  nodup := ListSet.nodup_run h us
  mem_iff _ := ListSet.Nodup.mem_run_iff h
  order := ListSet.filter_run (fun _ _ hz => hz.2) fun _ hz => hz.1

/-- Whatever devices of a user call the two functions, and in whatever order their transactions
commit, the stored list is a set without duplicates that the last commits decide, from any moment
of the run to any later one. The commits are those of the functions that were called: each that
does not wait any more has run its transaction once. -/
theorem favorites_linearised {uid : String} {w₀ : World} {c c' : FavoritesPool}
    {ms ms' : FavoritesHistory}
    (hinit : FavoritesDocument ((w₀.db .userFavorites).lookup uid))
    (hrun : Pool.Run favoritesPlatform (favoritesBody uid) ⟨w₀, []⟩ ms c)
    (hrun' : Pool.Run favoritesPlatform (favoritesBody uid) c ms' c') :
    Linearised (w₀.storedFavorites uid) (c.state.storedFavorites uid) (achievements uid ms) ∧
      Linearised (c.state.storedFavorites uid) (c'.state.storedFavorites uid)
        (achievements uid ms') ∧
      ((transactions uid ms).map Prod.fst).Perm c.answered ∧
      ((transactions uid (ms ++ ms')).map Prod.fst).Perm c'.answered := by
  have hconfined := (hrun.confined (confined_favoritesBody (World.storedFavorites uid) uid)
    (List.forall_mem_nil _)).1
  have hnodup : (w₀.storedFavorites uid).Nodup := hinit.nodup
  have hc := storedFavorites_of_run hrun (List.forall_mem_nil _)
  have hc' := storedFavorites_of_run hrun' hconfined
  have hfirst := linearised_run hnodup (achievements uid ms)
  rw [hc', hc]
  exact ⟨hfirst, linearised_run hfirst.nodup (achievements uid ms'), transactions_perm hrun,
    transactions_perm (hrun.append hrun')⟩

/-- Every transaction commits. -/
def plainest (w : World) (c : FavoritesTransaction × Call) : Except Exn (Reply c.2) :=
  .ok (w.reply c.2)

/-- Two devices add the same location, and one of them removes it again. -/
theorem favorites_linearised_two_devices : ∃ (c c' : FavoritesPool) (ms ms' : FavoritesHistory),
    (achievements "u" ms = [.add (.string "a"), .add (.string "a")] ∧
      c.state.storedFavorites "u" = [.string "a"] ∧
      achievements "u" ms' = [.remove (.string "a")] ∧ c'.state.storedFavorites "u" = [] ∧
      c'.answered = [.addToFavorites "a", .addToFavorites "a", .removeFromFavorites "a"]) ∧
    Linearised [] (c.state.storedFavorites "u") (achievements "u" ms) ∧
      Linearised (c.state.storedFavorites "u") (c'.state.storedFavorites "u")
        (achievements "u" ms') ∧
      ((transactions "u" ms).map Prod.fst).Perm c.answered ∧
      ((transactions "u" (ms ++ ms')).map Prod.fst).Perm c'.answered := by
  have hboth : ((⟨World.withUsers [], []⟩ : FavoritesPool).follow favoritesPlatform
      (favoritesBody "u") plainest
      [.start (.addToFavorites "a"), .start (.addToFavorites "a"), .go 1, .go 0]).any
        (fun out => decide (achievements "u" out.1 =
            [.add (.string "a"), .add (.string "a")] ∧
          out.2.state.storedFavorites "u" = [.string "a"]) &&
          (out.2.follow favoritesPlatform (favoritesBody "u") plainest
            [.start (.removeFromFavorites "a"), .go 2]).any fun out' =>
              decide (achievements "u" out'.1 = [.remove (.string "a")] ∧
                out'.2.state.storedFavorites "u" = [] ∧ out'.2.answered =
                  [.addToFavorites "a", .addToFavorites "a", .removeFromFavorites "a"])) =
                    true := by
    decide +kernel
  obtain ⟨ms, c, hrun, hq⟩ := Pool.exists_run_of_follow _ hboth
  obtain ⟨hfirst, hsecond⟩ := Bool.and_eq_true_iff.mp hq
  obtain ⟨ms', c', hrun', hq'⟩ := Pool.exists_run_of_follow _ hsecond
  obtain ⟨hadds, hadded⟩ := of_decide_eq_true hfirst
  have hinit : FavoritesDocument (((World.withUsers []).db .userFavorites).lookup "u") := .absent
  exact ⟨c, c', ms, ms', ⟨hadds, hadded, of_decide_eq_true hq'⟩,
    favorites_linearised hinit hrun hrun'⟩

end AroundMuseo
