import AroundMuseo.Core.Histories
import AroundMuseo.Locations.Calendar
import AroundMuseo.Museum.LifeCycle
import AroundMuseo.System.Collections

/-!
# The logbook of the museum

Whatever operations overlap, an entry of the logbook is never removed, and of an entry that is
there only the time of leaving is written, and only by the app that added it. What is added are
visits that can be read back.
-/

namespace AroundMuseo

open Async Firestore

/-- The ids of the entries that were added, in their order. -/
def visitIds (ms : History) : List String := (visits (answers ms)).map Prod.snd

/-- A document with the same visit: but for the field of the time of leaving. -/
def SameVisit (d d' : Doc) : Prop := ∀ key ≠ "timeOut", d'.lookup key = d.lookup key

/-- The calls that the operations make on the logbook. The time of leaving is written by a call
that nobody waits for. -/
def LogbookCall : Call → Prop
  | .add .museumLogbook d => ∃ user now, d = (QRCodeController.museumLogbook user now).toJson
  | .set .museumLogbook _ _ | .setMerge .museumLogbook _ _ | .delete .museumLogbook _ => False
  | _ => True

/-- What has become of the logbook after some moments. -/
structure LogbookRight (w₀ : World) (ms : History) (w : World) : Prop where
  calls : ∀ m ∈ ms, LogbookCall m.call
  /-- The controller knows an entry that was added, or the one it knew before. -/
  documentId : w.qrCodeController.documentId = w₀.qrCodeController.documentId ∨
    w.qrCodeController.documentId ∈ visitIds ms
  /-- The entries that were there are kept. -/
  kept : ∀ id d, (w₀.db .museumLogbook).lookup id = some d →
    ∃ d', (w.db .museumLogbook).lookup id = some d' ∧ SameVisit d d' ∧
      (id ≠ w₀.qrCodeController.documentId → d' = d)
  /-- Those that were added are there. -/
  added : ∀ d id, (d, id) ∈ visits (answers ms) →
    ∃ d', (w.db .museumLogbook).lookup id = some d' ∧ SameVisit d d'
  /-- Each was added once, under a new id. -/
  fresh : ∀ id ∈ visitIds ms, id ∉ w₀.db .museumLogbook
  nodup : (visitIds ms).Nodup
  /-- Nothing else is there. -/
  others : ∀ id ∈ w.db .museumLogbook,
    id ∈ w₀.db .museumLogbook ∨ id ∈ visitIds ms

section History

variable {w₀ w w' : World} {ms : History}

/-- The rest of the state does not matter. -/
theorem LogbookRight.update (h : LogbookRight w₀ ms w)
    (hdb : w'.db .museumLogbook = w.db .museumLogbook)
    (hid : w'.qrCodeController.documentId = w.qrCodeController.documentId) :
    LogbookRight w₀ ms w' := by
  refine ⟨h.calls, hid ▸ h.documentId, ?_, ?_, h.fresh, h.nodup, hdb ▸ h.others⟩
  · exact hdb ▸ h.kept
  · exact hdb ▸ h.added

/-- A moment in which nothing is added. -/
theorem LogbookRight.moment (h : LogbookRight w₀ ms w) {m : Moment Reply World Exn}
    (hcall : LogbookCall m.call) (hnone : visits (answers [m]) = []) :
    LogbookRight w₀ (ms ++ [m]) w := by
  have hvisits : visits (answers (ms ++ [m])) = visits (answers ms) := by
    rw [answers_append, visits_append, hnone, List.append_nil]
  have hids : visitIds (ms ++ [m]) = visitIds ms := congrArg (List.map Prod.snd) hvisits
  constructor
  · exact List.forall_mem_append.mpr ⟨h.calls, List.forall_mem_singleton.mpr hcall⟩
  · exact hids ▸ h.documentId
  · exact h.kept
  · exact hvisits ▸ h.added
  · exact hids ▸ h.fresh
  · exact hids ▸ h.nodup
  · exact hids ▸ h.others

theorem visits_of_not_writes {c : Call} (hc : c.writes .museumLogbook = false) (s : World)
    (r : Except Exn (Reply c)) : visits (answers [.answered ⟨s, c, r⟩]) = [] := by
  cases c with
  | add n d =>
    cases n with
    | museumLogbook => cases hc
    | _ => rfl
  | _ => rfl

/-- What was added are visits. -/
theorem LogbookRight.visit (h : LogbookRight w₀ ms w) {d : Doc} {id : String}
    (hd : (d, id) ∈ visits (answers ms)) :
    ∃ user now, d = (QRCodeController.museumLogbook user now).toJson := by
  obtain ⟨ev, hev, hvisit⟩ := List.mem_filterMap.mp hd
  obtain ⟨m, hm, hanswer⟩ := List.mem_filterMap.mp hev
  cases m with
  | issued => cases hanswer
  | answered =>
    cases hanswer
    have hcall : LogbookCall ev.call := h.calls _ hm
    split at hvisit
    case h_1 =>
      cases hvisit
      exact hcall
    case h_2 => cases hvisit

/-- A visit is added under a new id. -/
theorem LogbookRight.add (h : LogbookRight w₀ ms w) {d : Doc} {id : String} {s : World}
    (hvisit : LogbookCall (.add .museumLogbook d)) (hid : id ∉ w.db .museumLogbook)
    (hw : w' = w.setDb .museumLogbook ((w.db .museumLogbook).set id d)) :
    LogbookRight w₀ (ms ++ [.answered ⟨s, .add .museumLogbook d, .ok id⟩]) w' := by
  subst hw
  have hvisits : visits (answers (ms ++ [.answered ⟨s, .add .museumLogbook d, .ok id⟩])) =
      visits (answers ms) ++ [(d, id)] := by
    rw [answers_append, visits_append]
    rfl
  have hids : visitIds (ms ++ [.answered ⟨s, .add .museumLogbook d, .ok id⟩]) =
      visitIds ms ++ [id] := by
    rw [visitIds, hvisits, List.map_append, visitIds]
    rfl
  have hother {id' : String} {d' : Doc} (hd' : (w.db .museumLogbook).lookup id' = some d') :
      ((w.db .museumLogbook).set id d).lookup id' = some d' := by
    have hmem : id' ∈ w.db .museumLogbook := AList.lookup_isSome.mp (by simp [hd'])
    have hne : id' ≠ id := by
      rintro rfl
      exact hid hmem
    rw [Collection.lookup_set, if_neg hne, hd']
  have hstored : id ∈ visitIds ms → id ∈ w.db .museumLogbook := by
    intro hmem
    obtain ⟨⟨d', id'⟩, hvisit, rfl⟩ := List.mem_map.mp hmem
    obtain ⟨d'', hlookup, -⟩ := h.added d' id' hvisit
    exact AList.lookup_isSome.mp (by simp [hlookup])
  constructor
  · exact List.forall_mem_append.mpr ⟨h.calls, List.forall_mem_singleton.mpr hvisit⟩
  · rw [hids]
    exact h.documentId.imp_right fun hmem => List.mem_append_left _ hmem
  · intro id' d' hd'
    obtain ⟨d'', hlookup, hsame⟩ := h.kept id' d' hd'
    exact ⟨d'', by rw [World.setDb_db_self, hother hlookup], hsame⟩
  · intro d' id' hmem
    rw [hvisits, List.mem_append] at hmem
    rcases hmem with hmem | hmem
    · obtain ⟨d'', hlookup, hsame⟩ := h.added d' id' hmem
      exact ⟨d'', by rw [World.setDb_db_self, hother hlookup], hsame⟩
    · cases List.mem_singleton.mp hmem
      exact ⟨d, by rw [World.setDb_db_self, Collection.lookup_set, if_pos rfl], fun _ _ => rfl⟩
  · rw [hids]
    refine List.forall_mem_append.mpr ⟨h.fresh, List.forall_mem_singleton.mpr ?_⟩
    intro hold
    obtain ⟨d₀, hd₀⟩ := Option.isSome_iff_exists.mp (AList.lookup_isSome.mpr hold)
    obtain ⟨d', hlookup, -⟩ := h.kept id d₀ hd₀
    exact hid (AList.lookup_isSome.mp (by simp [hlookup]))
  · rw [hids]
    exact List.nodup_append'.mpr ⟨h.nodup, List.nodup_singleton _,
      List.disjoint_singleton.mpr fun hmem => hid (hstored hmem)⟩
  · intro id' hmem
    rw [hids, List.mem_append, List.mem_singleton]
    rw [World.setDb_db_self, Collection.mem_set] at hmem
    rcases hmem with rfl | hmem
    · exact .inr (.inr rfl)
    · exact (h.others id' hmem).imp_right .inl

/-- The time of leaving is written to the entry that the controller knows. -/
theorem LogbookRight.timeOut (h : LogbookRight w₀ ms w) {t : DateTime}
    (hw : w' = ((effect (.update .museumLogbook w.qrCodeController.documentId
      (MuseumLogbookRepository.timeOutFields t)) w ()).getD w)) : LogbookRight w₀ ms w' := by
  subst hw
  cases heffect : effect (.update .museumLogbook w.qrCodeController.documentId
      (MuseumLogbookRepository.timeOutFields t)) w () with
  | none => exact h
  | some w' =>
    obtain ⟨docs, hdocs, rfl⟩ := Option.map_eq_some_iff.mp heffect
    obtain ⟨old, hold, rfl⟩ := Collection.update_eq_some.mp hdocs
    have hsame {d d' : Doc} (hd : SameVisit d d') :
        SameVisit d (d'.merge (MuseumLogbookRepository.timeOutFields t)) := by
      intro key hkey
      rw [Doc.lookup_merge, MuseumLogbookRepository.timeOutFields, Doc.lookup_ofFields_cons,
        if_neg hkey, Doc.lookup_ofFields_nil, Option.none_or, hd key hkey]
    constructor
    · exact h.calls
    · exact h.documentId
    · intro id d hd
      obtain ⟨d', hlookup, hvisit, hsaved⟩ := h.kept id d hd
      rw [Option.getD_some, World.setDb_db_self, Collection.lookup_insert_eq]
      split
      case isTrue heq =>
        cases heq
        cases hold.symm.trans hlookup
        refine ⟨_, rfl, hsame hvisit, ?_⟩
        intro hne
        have hmem := h.documentId.resolve_left hne
        exact absurd (AList.lookup_isSome.mp (by simp [hd])) (h.fresh _ hmem)
      case isFalse => exact ⟨d', hlookup, hvisit, hsaved⟩
    · intro d id hmem
      obtain ⟨d', hlookup, hvisit⟩ := h.added d id hmem
      rw [Option.getD_some, World.setDb_db_self, Collection.lookup_insert_eq]
      split
      case isTrue heq =>
        cases heq
        cases hold.symm.trans hlookup
        exact ⟨_, rfl, hsame hvisit⟩
      case isFalse => exact ⟨d', hlookup, hvisit⟩
    · exact h.fresh
    · exact h.nodup
    · intro id hmem
      rw [Option.getD_some, World.setDb_db_self, Collection.mem_update hdocs] at hmem
      exact h.others id hmem

end History

section Operations

variable {w₀ : World}

end Operations

section Runs

variable {intl : Intl} {repository : LocationRepository} {w₀ : World} {c : AppPool AppOperation}
  {ms : History}

theorem LogbookRight.served {w w' w₁ : World} {call : Call} {r : Except Exn (Reply call)}
    (h : LogbookRight w₀ ms w) (ha : overlapping.awaited call = true)
    (hissued : .issued w₁ call ∈ ms)
    (hr : overlapping.perform call w r = some w') :
    LogbookRight w₀ (ms ++ [.answered ⟨w, call, r⟩]) w' := by
  have hcall : LogbookCall call := h.calls _ hissued
  have hid := congrArg (fun x => x.2.1.documentId) (controllers_of_overlapping hr)
  by_cases hc : call.writes .museumLogbook = false
  · have hmoment := h.moment (m := .answered ⟨w, call, r⟩) hcall (visits_of_not_writes hc w r)
    exact hmoment.update (db_of_overlapping hc hr) hid
  cases call with
  | add n d =>
    obtain rfl : n = .museumLogbook := by simpa [Call.writes] using hc
    cases r with
    | error e =>
      simp only [Platform.perform, Option.ite_none_right_eq_some, Option.some.injEq] at hr
      obtain ⟨-, rfl⟩ := hr
      exact h.moment hcall rfl
    | ok id =>
      obtain ⟨hnew, hw⟩ := Option.ite_none_left_eq_some.mp hr
      exact h.add hcall (not_or.mp hnew).1 (Option.some.inj hw).symm
  | set n | setMerge n | delete n =>
    obtain rfl : n = .museumLogbook := by simpa [Call.writes] using hc
    exact hcall.elim
  | update n =>
    obtain rfl : n = .museumLogbook := by simpa [Call.writes] using hc
    cases ha
  | _ => exact absurd rfl hc

end Runs

end AroundMuseo
