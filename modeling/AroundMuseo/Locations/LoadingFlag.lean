import AroundMuseo.Locations.Catalogue
import AroundMuseo.Locations.Updates

/-!
# The loading flag

Every fetch sets the one flag when it starts and clears it when it ends, whatever the others
are doing. So the flag tells whether a fetch is in flight as long as none ends before another.
-/

namespace AroundMuseo

open Async Async.Prog LocationController

/-- The fetches. That of the featured locations, which has a number, is a first part, the futures
of the locations it has loaded, and an end. -/
inductive LoadingOperation where
  | fetch (op : LocationFetch)
  | fetchAllLocations
  | fetchUserFavorites
  | loadFeaturedLocations (n : Nat)
  | featuredLocationDetails (n : Nat) (location : Nat × LocationModel)
  | endFeaturedLocations (n : Nat) (error : Option Exn)

namespace LoadingOperation

/-- The function behind an operation. -/
def body (intl : Intl) (repository : LocationRepository) : LoadingOperation → App Unit
  | fetch op => op.body intl
  | fetchAllLocations => LocationController.fetchAllLocations intl
  | fetchUserFavorites => LocationController.fetchUserFavorites repository
  | loadFeaturedLocations _ => LocationController.loadFeaturedLocations
  | featuredLocationDetails _ location => LocationController.featuredLocationDetails intl location
  | endFeaturedLocations _ error => LocationController.endFeaturedLocations error

/-- The operation is a fetch by itself. -/
def isWhole : LoadingOperation → Bool
  | fetch _ | fetchAllLocations | fetchUserFavorites => true
  | _ => false

/-- The operation begins the `n`-th fetch of the featured locations. -/
def begins (n : Nat) : LoadingOperation → Bool
  | loadFeaturedLocations m => m == n
  | _ => false

/-- The operation sets details for the `n`-th fetch. -/
def details (n : Nat) : LoadingOperation → Bool
  | featuredLocationDetails m _ => m == n
  | _ => false

/-- The operation ends the `n`-th fetch. -/
def ends (n : Nat) : LoadingOperation → Bool
  | endFeaturedLocations m _ => m == n
  | _ => false

/-- With the operation a fetch ends. -/
def isLast : LoadingOperation → Bool
  | endFeaturedLocations _ _ => true
  | op => op.isWhole

end LoadingOperation

/-- The started operations of the fetches. -/
abbrev LoadingTasks := List (LoadingOperation × Task Reply World Exn)

/-- A fetch has started and not finished. -/
def LoadingTasks.InFlight (ts : LoadingTasks) : Prop :=
  (ts.any fun x => x.1.isWhole && !x.2.isFinished) = true ∨
    ∃ n, (ts.any fun x => x.1.begins n) = true ∧
      (ts.any fun x => x.1.ends n && x.2.isFinished) = false

/-- The operations that have ended a fetch. -/
def LoadingTasks.ended (ts : LoadingTasks) : List LoadingOperation :=
  ts.filterMap fun x => if x.1.isLast && x.2.isFinished then some x.1 else none

/-- The parts of a fetch of the featured locations start in their order. -/
def LoadingOperation.MayStart (ts : LoadingTasks) : LoadingOperation → Prop
  | loadFeaturedLocations n => (ts.any fun x => x.1.begins n) = false ∧
    (ts.any fun x => x.1.details n || x.1.ends n) = false
  | featuredLocationDetails n _ => (ts.any fun x => x.1.begins n && x.2.isFinished) = true ∧
    (ts.any fun x => x.1.ends n) = false
  | endFeaturedLocations n _ => (ts.any fun x => x.1.begins n && x.2.isFinished) = true ∧
    (ts.any fun x => x.1.details n && !x.2.isFinished) = false ∧
      (ts.any fun x => x.1.ends n) = false
  | _ => True

/-- What is started by a step may start. -/
def InOrder (c c' : AppPool LoadingOperation) : Prop :=
  ∀ op t, c'.tasks = c.tasks ++ [(op, t)] → op.MayStart c.tasks

/-- If a fetch ends with the step, then no other one is in flight. -/
def EndsAlone (c c' : AppPool LoadingOperation) : Prop :=
  LoadingTasks.ended c'.tasks = LoadingTasks.ended c.tasks ∨ ¬ LoadingTasks.InFlight c'.tasks

/-- The flag tells whether a fetch is in flight. -/
def FlagAccurate (c : AppPool LoadingOperation) : Prop :=
  c.state.locationController.isLoading = true ↔ LoadingTasks.InFlight c.tasks

section Flag

/-- The flag is the same. -/
def SameFlag (w₀ w : World) : Prop :=
  w.locationController.isLoading = w₀.locationController.isLoading

/-- The updates of the catalogue do not touch the flag. -/
theorem keptByUpdates_sameFlag : KeptByUpdates SameFlag where
  refl w := rfl
  same h hw _ := by
    rw [SameFlag, hw]
    exact h
  update hu h := by
    cases hu <;> exact h

/-- The last segment of a fetch clears the flag. -/
def FlagCleared (_ : Except Exn Unit) (_ w : World) : Prop := w.locationController.isLoading = false

variable {intl : Intl} {repository : LocationRepository} {w w' : World} {ms : History}
  {t : Task Reply World Exn}

/-- What is left of a fetch once it has set the flag. -/
theorem ends_afterFlag {p : App Unit} (hp : p.Keeps platform SameFlag) {w₀ w : World}
    (hw : SameFlag w₀ w) :
    (Prog.ensure p (setIsLoading false)).Segments platform SameFlag FlagCleared w₀ w :=
  segments_andThen (segments_mono (hp w₀ w hw) fun _ _ _ _ => rfl)

theorem keeps_report {p : App Unit} (hp : p.Keeps platform SameFlag) :
    (tryCatch p fun e => await (.snackBar .error "Oh Snap!" e.toText)).Keeps platform SameFlag :=
  .handle hp fun _ => keptByUpdates_sameFlag.await _

/-- A segment that keeps the flag may be the last one. -/
theorem sameFlag_of_ends {b : Bool}
    (h : if b then ∃ _ : Except Exn Unit, SameFlag w w' else SameFlag w w') : SameFlag w w' := by
  cases b with
  | true =>
    obtain ⟨_, hsame⟩ := h
    exact hsame
  | false => exact h

/-- After the first segment of a fetch the flag is set, unless the fetch is over. -/
theorem advance_whileLoading {p : App Unit} (hp : p.Keeps platform SameFlag)
    (h : (whileLoading p).Advance platform w ms t w') :
    t.Ends platform SameFlag FlagCleared ∧ w'.locationController.isLoading = !t.isFinished := by
  have hrest : (Prog.ensure (tryCatch p fun e => await (.snackBar .error "Oh Snap!" e.toText))
      (setIsLoading false)).Advance platform
        { w with locationController := { w.locationController with isLoading := true } } ms t w' :=
          h
  obtain ⟨ht, hflag⟩ :=
    (ends_afterFlag (keeps_report hp) (keptByUpdates_sameFlag.refl _)).advance_ends
    hrest
  refine ⟨ht, ?_⟩
  cases hfinished : t.isFinished with
  | true =>
    rw [hfinished, if_pos rfl] at hflag
    obtain ⟨_, hcleared⟩ := hflag
    exact hcleared
  | false =>
    rw [hfinished, if_neg (by simp)] at hflag
    exact hflag

theorem keeps_showUserFavorites (favorites : Option UserFavoritesLocationModel) :
    (showUserFavorites favorites).Keeps platform SameFlag := by
  cases favorites with
  | none => exact keeps_done _
  | some favorites => exact fun w₀ w h => h

/-- The first segment of a fetch by itself. -/
theorem advance_whole {op : LoadingOperation} (hop : op.isWhole = true)
    (h : (op.body intl repository).Advance platform w ms t w') :
    t.Ends platform SameFlag FlagCleared ∧ w'.locationController.isLoading = !t.isFinished := by
  cases op with
  | fetch op =>
    have hbody : (op.body intl).Advance platform w ms t w' := h
    rw [body_eq_whileLoading] at hbody
    exact advance_whileLoading (keeps_loadCategory intl keptByUpdates_sameFlag op) hbody
  | fetchAllLocations =>
    exact advance_whileLoading (keeps_loadAllLocations intl keptByUpdates_sameFlag) h
  | fetchUserFavorites =>
    have hbody : (fetchUserFavorites repository).Advance platform w ms t w' := h
    rw [fetchUserFavorites_eq] at hbody
    exact advance_whileLoading (.bind (keptByUpdates_sameFlag.getUserFavorites repository)
      keeps_showUserFavorites) hbody
  | loadFeaturedLocations | featuredLocationDetails | endFeaturedLocations => cases hop

/-- The first part of the fetch of the featured locations sets the flag. -/
theorem advance_loadFeaturedLocations
    (h : LocationController.loadFeaturedLocations.Advance platform w ms t w') :
    t.Ends platform SameFlag (fun _ => SameFlag) ∧ w'.locationController.isLoading = true := by
  have hload : (do
      let locations ← LocationRepository.getFeaturedLocations
      modifyState (·.assignNew .featuredLocations locations)
      modifyState fun s => { s with featuredError := none }).Keeps platform SameFlag := by
    refine .bind keptByUpdates_sameFlag.getLocations fun locations => ?_
    refine .bind (keptByUpdates_sameFlag.modifyState (.assignNew (by decide) locations)) fun _ => ?_
    exact keeps_modify fun _ _ h => h
  obtain ⟨ht, hflag⟩ := (hload { w with locationController :=
    { w.locationController with isLoading := true } } _ rfl).advance_ends h
  exact ⟨ht, sameFlag_of_ends hflag⟩

theorem keeps_featuredLocationDetails (location : Nat × LocationModel) :
    (LocationController.featuredLocationDetails intl location).Keeps platform SameFlag :=
  .handle (keptByUpdates_sameFlag.setLocationDetails intl location) fun _ =>
    keeps_modify fun _ _ h => h

/-- The last phase of the featured locations clears the flag. -/
theorem ends_endFeaturedLocations (error : Option Exn) :
    (LocationController.endFeaturedLocations error).Segments platform SameFlag FlagCleared w w := by
  refine ends_afterFlag ?_ (keptByUpdates_sameFlag.refl w)
  cases error with
  | none => exact keeps_done _
  | some e => exact keptByUpdates_sameFlag.await _

end Flag

section InFlight

variable {ts us : LoadingTasks} {op : LoadingOperation} {t t' : Task Reply World Exn}

theorem begins_of_isLast (h : op.isLast = true) (n : Nat) : op.begins n = false := by
  cases op <;> first | rfl | cases h

theorem isLast_of_isWhole (h : op.isWhole = true) : op.isLast = true := by
  cases op <;> first | rfl | cases h

theorem isWhole_of_not_isLast (h : op.isLast = false) : op.isWhole = false := by
  cases op <;> first | rfl | cases h

theorem ends_of_not_isLast (h : op.isLast = false) (n : Nat) : op.ends n = false := by
  cases op <;> first | rfl | cases h

/-- Whether a fetch is in flight depends on what has finished. -/
theorem inFlight_congr (h : t.isFinished = t'.isFinished ∨ op.isLast = false) :
    LoadingTasks.InFlight (ts ++ (op, t) :: us) ↔ LoadingTasks.InFlight (ts ++ (op, t') :: us) := by
  unfold LoadingTasks.InFlight
  simp only [List.any_append, List.any_cons]
  rcases h with h | h
  · simp [h]
  · simp [isWhole_of_not_isLast h, ends_of_not_isLast h]

/-- An operation that neither is a fetch nor begins one changes nothing when it starts. -/
theorem inFlight_snoc (hbegins : ∀ n, op.begins n = false)
    (h : op.isWhole = false ∧ t.isFinished = false ∨ op.isLast = false) :
    LoadingTasks.InFlight (ts ++ [(op, t)]) ↔ LoadingTasks.InFlight ts := by
  unfold LoadingTasks.InFlight
  simp only [List.any_append, List.any_cons, List.any_nil, hbegins]
  rcases h with h | h
  · simp [h.1, h.2]
  · simp [isWhole_of_not_isLast h, ends_of_not_isLast h]

/-- An operation that has started and waits is in flight. -/
theorem inFlight_snoc_whole (hop : op.isWhole = true) (ht : t.isFinished = false) :
    LoadingTasks.InFlight (ts ++ [(op, t)]) := by
  left
  simp [hop, ht]

theorem inFlight_snoc_begins {n : Nat} (hends : (ts.any fun x => x.1.ends n) = false) :
    LoadingTasks.InFlight (ts ++ [(.loadFeaturedLocations n, t)]) := by
  right
  refine ⟨n, by simp [LoadingOperation.begins], ?_⟩
  rw [List.any_eq_false] at hends ⊢
  intro x hx
  rcases List.mem_append.mp hx with hx | hx
  · have hno := hends x hx
    simp [hno]
  · rw [List.mem_singleton.mp hx]
    simp [LoadingOperation.ends]

theorem ended_congr (h : t.isFinished = t'.isFinished ∨ op.isLast = false) :
    LoadingTasks.ended (ts ++ (op, t) :: us) = LoadingTasks.ended (ts ++ (op, t') :: us) := by
  unfold LoadingTasks.ended
  rw [List.filterMap_append, List.filterMap_append]
  rcases h with h | h <;> simp [List.filterMap_cons, h]

/-- An operation that starts and waits has not ended. -/
theorem ended_snoc (h : t.isFinished = false ∨ op.isLast = false) :
    LoadingTasks.ended (ts ++ [(op, t)]) = LoadingTasks.ended ts := by
  unfold LoadingTasks.ended
  rw [List.filterMap_append]
  rcases h with h | h <;> simp [h]

/-- What ends a fetch counts as ended from then on. -/
theorem ended_ne (hop : op.isLast = true) (ht : t.isFinished = false) (ht' : t'.isFinished = true) :
    LoadingTasks.ended (ts ++ (op, t') :: us) ≠ LoadingTasks.ended (ts ++ (op, t) :: us) := by
  intro h
  have hlength := congrArg List.length h
  simp [LoadingTasks.ended, List.filterMap_append, hop, ht, ht'] at hlength

theorem ended_snoc_ne (hop : op.isLast = true) (ht : t.isFinished = true) :
    LoadingTasks.ended (ts ++ [(op, t)]) ≠ LoadingTasks.ended ts := by
  intro h
  have hlength := congrArg List.length h
  simp [LoadingTasks.ended, List.filterMap_append, hop, ht] at hlength

end InFlight

section Invariant

/-- What is left of a started operation. -/
def LoadingTask (x : LoadingOperation × Task Reply World Exn) : Prop :=
  x.2.Ends platform SameFlag (if x.1.isLast then FlagCleared else fun _ => SameFlag)

/-- The flag is accurate, and will be changed only by what ends a fetch. -/
structure FlagTracked (c : AppPool LoadingOperation) : Prop where
  tasks : ∀ x ∈ c.tasks, LoadingTask x
  accurate : FlagAccurate c

/-- A step after which the flag is accurate and that ends no fetch, or one that ends a fetch and
clears the flag. -/
def FlagStep (c c' : AppPool LoadingOperation) : Prop :=
  LoadingTasks.ended c'.tasks = LoadingTasks.ended c.tasks ∧ FlagAccurate c' ∨
    LoadingTasks.ended c'.tasks ≠ LoadingTasks.ended c.tasks ∧
      c'.state.locationController.isLoading = false

variable {intl : Intl} {repository : LocationRepository}

/-- A fetch that starts, or ends at once. -/
theorem start_whole {w w' : World} {ts : LoadingTasks} {ms : History} {t : Task Reply World Exn}
    {op : LoadingOperation} (hwhole : op.isWhole = true)
    (hadv : (op.body intl repository).Advance platform w ms t w') :
    LoadingTask (op, t) ∧ FlagStep ⟨w, ts⟩ ⟨w', ts ++ [(op, t)]⟩ := by
  obtain ⟨ht, hflag⟩ := advance_whole hwhole hadv
  have hlast := isLast_of_isWhole hwhole
  constructor
  · rw [LoadingTask, if_pos hlast]
    exact ht
  · cases hfinished : t.isFinished with
    | true =>
      right
      refine ⟨ended_snoc_ne hlast hfinished, ?_⟩
      rw [hflag, hfinished]
      rfl
    | false =>
      left
      refine ⟨ended_snoc (.inl hfinished), iff_of_true ?_ (inFlight_snoc_whole hwhole hfinished)⟩
      rw [hflag, hfinished]
      rfl

/-- An operation that starts without beginning or ending a fetch, and leaves the flag. -/
theorem flagStep_snoc_of_sameFlag {w w' : World} {ts : LoadingTasks} {op : LoadingOperation}
    {t : Task Reply World Exn} (h : FlagAccurate ⟨w, ts⟩) (hsame : SameFlag w w')
    (hbegins : ∀ n, op.begins n = false)
    (hop : op.isWhole = false ∧ t.isFinished = false ∨ op.isLast = false) :
    FlagStep ⟨w, ts⟩ ⟨w', ts ++ [(op, t)]⟩ := by
  refine .inl ⟨ended_snoc (hop.imp_left fun hop => hop.2), ?_⟩
  unfold FlagAccurate at h ⊢
  dsimp only at h ⊢
  rw [inFlight_snoc hbegins hop, ← h, hsame]

/-- An operation starts. -/
theorem FlagTracked.start {w w' : World} {ts : LoadingTasks} {ms : History}
    {t : Task Reply World Exn} {op : LoadingOperation} (h : FlagTracked ⟨w, ts⟩)
    (hadv : (op.body intl repository).Advance platform w ms t w') (hmay : op.MayStart ts) :
    LoadingTask (op, t) ∧ FlagStep ⟨w, ts⟩ ⟨w', ts ++ [(op, t)]⟩ := by
  cases op with
  | fetch | fetchAllLocations | fetchUserFavorites => exact start_whole rfl hadv
  | loadFeaturedLocations n =>
    obtain ⟨ht, hflag⟩ := advance_loadFeaturedLocations hadv
    refine ⟨ht, .inl ⟨ended_snoc (.inr rfl), iff_of_true hflag (inFlight_snoc_begins ?_)⟩⟩
    have hnone := hmay.2
    rw [List.any_eq_false] at hnone ⊢
    intro x hx
    have hno := hnone x hx
    simp only [Bool.or_eq_true, not_or] at hno
    exact hno.2
  | featuredLocationDetails n location =>
    obtain ⟨ht, hflag⟩ := (keeps_featuredLocationDetails location w w rfl).advance_ends hadv
    exact ⟨ht, flagStep_snoc_of_sameFlag h.accurate (sameFlag_of_ends hflag) (fun _ => rfl)
      (.inr rfl)⟩
  | endFeaturedLocations n error =>
    obtain ⟨ht, hflag⟩ := (ends_endFeaturedLocations error).advance_ends hadv
    refine ⟨ht, ?_⟩
    cases hfinished : t.isFinished with
    | true =>
      rw [hfinished, if_pos rfl] at hflag
      obtain ⟨_, hcleared⟩ := hflag
      exact .inr ⟨ended_snoc_ne rfl hfinished, hcleared⟩
    | false =>
      rw [hfinished, if_neg (by simp)] at hflag
      exact flagStep_snoc_of_sameFlag h.accurate hflag (fun _ => rfl) (.inl ⟨rfl, hfinished⟩)

/-- A step that leaves the flag and what has finished as they were. -/
theorem flagStep_of_sameFlag {w w' : World} {ts us : LoadingTasks} {op : LoadingOperation}
    {t t' : Task Reply World Exn} (h : FlagAccurate ⟨w, ts ++ (op, t) :: us⟩)
    (hsame : SameFlag w w')
    (hfinished : t'.isFinished = t.isFinished ∨ op.isLast = false) :
    FlagStep ⟨w, ts ++ (op, t) :: us⟩ ⟨w', ts ++ (op, t') :: us⟩ := by
  refine .inl ⟨ended_congr hfinished, ?_⟩
  have hinflight : LoadingTasks.InFlight (ts ++ (op, t') :: us) ↔
      LoadingTasks.InFlight (ts ++ (op, t) :: us) := inFlight_congr hfinished
  unfold FlagAccurate at h ⊢
  dsimp only at h ⊢
  rw [hinflight, ← h, hsame]

/-- A task goes on. -/
theorem FlagTracked.resume {w w' : World} {ts us : LoadingTasks} {op : LoadingOperation}
    {p : App Unit} {ms : History} {t : Task Reply World Exn}
    (h : FlagTracked ⟨w, ts ++ (op, .ready p) :: us⟩) (hadv : p.Advance platform w ms t w') :
    LoadingTask (op, t) ∧ FlagStep ⟨w, ts ++ (op, .ready p) :: us⟩ ⟨w', ts ++ (op, t) :: us⟩ := by
  have htask : LoadingTask (op, .ready p) := h.tasks _ (by simp)
  obtain ⟨ht, hflag⟩ := Prog.Segments.advance_ends (htask w) hadv
  refine ⟨ht, ?_⟩
  dsimp only at hflag
  cases hlast : op.isLast with
  | true =>
    rw [hlast, if_pos rfl] at hflag
    cases hfinished : t.isFinished with
    | true =>
      rw [hfinished, if_pos rfl] at hflag
      obtain ⟨_, hcleared⟩ := hflag
      exact .inr ⟨ended_ne hlast rfl hfinished, hcleared⟩
    | false =>
      rw [hfinished, if_neg (by simp)] at hflag
      exact flagStep_of_sameFlag h.accurate hflag (.inl hfinished)
  | false =>
    simp only [hlast, Bool.false_eq_true, if_false] at hflag
    exact flagStep_of_sameFlag h.accurate (sameFlag_of_ends hflag) (.inr hlast)

/-- What a step of fetches in order does. -/
theorem FlagTracked.step {c c' : AppPool LoadingOperation} {ms : History} (h : FlagTracked c)
    (hstep : Pool.Step platform (LoadingOperation.body intl repository) c ms c')
    (horder : InOrder c c') : (∀ x ∈ c'.tasks, LoadingTask x) ∧ FlagStep c c' := by
  cases hstep with
  | start op hadv =>
    obtain ⟨ht, hflag⟩ := h.start hadv (horder op _ rfl)
    exact ⟨List.forall_mem_append.mpr ⟨h.tasks, List.forall_mem_singleton.mpr ht⟩, hflag⟩
  | @serve w w' ts us op call k r hr =>
    have hcontroller : w'.locationController = w.locationController :=
      congrArg (·.2.2.1) (controllers_of_perform hr)
    obtain ⟨hts, htask, hus⟩ := forall_tasks_iff.mp h.tasks
    have hready : LoadingTask (op, .ready (k r)) := htask.2 r
    refine ⟨forall_tasks_iff.mpr ⟨hts, hready, hus⟩, ?_⟩
    have hsame : SameFlag w w' := by rw [SameFlag, hcontroller]
    exact flagStep_of_sameFlag h.accurate hsame (.inl rfl)
  | resume hadv =>
    obtain ⟨ht, hflag⟩ := h.resume hadv
    obtain ⟨hts, -, hus⟩ := forall_tasks_iff.mp h.tasks
    exact ⟨forall_tasks_iff.mpr ⟨hts, ht, hus⟩, hflag⟩

/-- The flag stays accurate with a step exactly if what ends with it ends alone. -/
theorem FlagTracked.accurate_iff {c c' : AppPool LoadingOperation} {ms : History}
    (h : FlagTracked c) (hstep : Pool.Step platform (LoadingOperation.body intl repository) c ms c')
    (horder : InOrder c c') : FlagAccurate c' ↔ EndsAlone c c' := by
  rcases (h.step hstep horder).2 with ⟨hended, haccurate⟩ | ⟨hended, hcleared⟩
  · exact iff_of_true haccurate (.inl hended)
  · unfold FlagAccurate EndsAlone
    rw [hcleared, or_iff_right hended]
    simp

end Invariant

/-- The flag is accurate in every state that is reached if no fetch ends while another one is in
flight. -/
theorem flagAccurate_of_endsAlone {intl : Intl} {repository : LocationRepository} {w₀ : World}
    {ms : History} {c : AppPool LoadingOperation}
    (hfresh : w₀.locationController.isLoading = false)
    (hrun : Pool.RunMeeting platform (LoadingOperation.body intl repository)
      (fun c _ c' => InOrder c c' ∧ EndsAlone c c') ⟨w₀, []⟩ ms c) : FlagAccurate c := by
  have htracked : FlagTracked c := by
    refine hrun.invariant (fun c _ => FlagTracked c) ?_ ?_
    · refine ⟨List.forall_mem_nil _, iff_of_false (by simp [hfresh]) ?_⟩
      simp [LoadingTasks.InFlight]
    · rintro c₁ c₂ ms ms' h hstep ⟨horder, halone⟩
      exact ⟨(h.step hstep horder).1, (h.accurate_iff hstep horder).mpr halone⟩
  exact htracked.accurate

section Scenarios

/-- Fetches by themselves may start at any time. -/
theorem inOrder_of_whole {c c' : AppPool LoadingOperation}
    (h : (c'.tasks.all fun x => x.1.isWhole) = true) : InOrder c c' := by
  intro op t htasks
  have hwhole : op.isWhole = true := by
    rw [htasks, List.all_eq_true] at h
    exact h (op, t) (by simp)
  cases op with
  | fetch | fetchAllLocations | fetchUserFavorites => trivial
  | loadFeaturedLocations | featuredLocationDetails | endFeaturedLocations => cases hwhole

/-- Either all of the fetches are under way, or none of them is any more. -/
def allOrNone (c : AppPool LoadingOperation) (_ : History) (c' : AppPool LoadingOperation) : Bool :=
  (c'.tasks.all fun x => x.1.isWhole) &&
    ((c.tasks ++ c'.tasks).all (fun x => !x.2.isFinished) || c'.tasks.all fun x => x.2.isFinished)

theorem allOrNone_sound (c : AppPool LoadingOperation) (ms : History)
    (c' : AppPool LoadingOperation) (h : allOrNone c ms c' = true) :
    InOrder c c' ∧ EndsAlone c c' := by
  obtain ⟨hwhole, hfinished⟩ := Bool.and_eq_true_iff.mp h
  refine ⟨inOrder_of_whole hwhole, ?_⟩
  rw [List.all_eq_true] at hwhole
  rcases Bool.or_eq_true_iff.mp hfinished with hunder | hnone
  · rw [List.all_append, Bool.and_eq_true, List.all_eq_true, List.all_eq_true] at hunder
    have hended {ts : LoadingTasks} (hts : ∀ x ∈ ts, (!x.2.isFinished) = true) :
        LoadingTasks.ended ts = [] := by
      apply List.filterMap_eq_nil_iff.mpr
      intro x hx
      simpa using fun _ => hts x hx
    left
    rw [hended hunder.1, hended hunder.2]
  · rw [List.all_eq_true] at hnone
    right
    rintro (hany | ⟨n, hbegins, -⟩)
    · obtain ⟨x, hx, hunfinished⟩ := List.any_eq_true.mp hany
      simp [hnone x hx] at hunfinished
    · obtain ⟨⟨op, t⟩, hx, hop⟩ := List.any_eq_true.mp hbegins
      have hw : op.isWhole = true := hwhole (op, t) hx
      have hop : op.begins n = true := hop
      rw [begins_of_isLast (isLast_of_isWhole hw) n] at hop
      contradiction

/-- One fetch runs to its end. -/
theorem flagAccurate_dining : ∃ ms c,
    Pool.RunMeeting platform (LoadingOperation.body Intl.utc ⟨some "u"⟩)
      (fun c _ c' => InOrder c c' ∧ EndsAlone c c') ⟨World.withUsers [], []⟩ ms c ∧
    c.tasks ≠ [] ∧ c.Quiescent ∧ FlagAccurate c := by
  obtain ⟨ms, c, hrun, hq⟩ := scenario_pool_runMeeting
    (LoadingOperation.body Intl.utc ⟨some "u"⟩) (World.withUsers []) (fun _ _ => none)
    allOrNone _ allOrNone_sound [.start (.fetch .fetchDining), .go 0, .go 0]
    (fun out => decide (out.2.tasks.length = 1) && decide out.2.Quiescent) (by decide +kernel)
  obtain ⟨hlength, hquiet⟩ := Bool.and_eq_true_iff.mp hq
  refine ⟨ms, c, hrun, ?_, of_decide_eq_true hquiet, flagAccurate_of_endsAlone rfl hrun⟩
  intro hnil
  simp [hnil] at hlength

/-- Of two fetches that overlap, the first to end clears the flag. -/
theorem not_flagAccurate_overlapping :
    ¬ ∀ (w₀ : World) (ms : History) (c : AppPool LoadingOperation),
      w₀.locationController.isLoading = false →
        Pool.RunMeeting platform (LoadingOperation.body Intl.utc ⟨some "u"⟩)
          (fun c _ c' => InOrder c c') ⟨w₀, []⟩ ms c → FlagAccurate c := by
  intro hall
  obtain ⟨ms, c, hrun, hq⟩ := scenario_pool_runMeeting
    (LoadingOperation.body Intl.utc ⟨some "u"⟩) (World.withUsers []) (fun _ _ => none)
    (fun _ _ c' => c'.tasks.all fun x => x.1.isWhole) (fun c _ c' => InOrder c c')
    (fun _ _ _ => inOrder_of_whole)
    [.start (.fetch .fetchDining), .start (.fetch .fetchShopping), .go 0, .go 0]
    (fun out => !out.2.state.locationController.isLoading &&
      out.2.tasks.any fun x => x.1.isWhole && !x.2.isFinished) (by decide +kernel)
  obtain ⟨hcleared, hunfinished⟩ := Bool.and_eq_true_iff.mp hq
  have hset := (hall _ ms c rfl hrun).mpr (.inl hunfinished)
  simp [hset] at hcleared

end Scenarios

end AroundMuseo
