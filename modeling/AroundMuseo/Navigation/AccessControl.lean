import AroundMuseo.Navigation.AccessOperations

/-!
# Access control of the main screens

The menu and the AR screen are meant for verified users. The redirection asks who is signed
in before it opens the menu. A QR check that goes on after the session has ended opens the AR screen
for whoever is there, and while one of the two screens is still on the stack, a loader that closes
or a user who goes back may uncover it. If sessions end only when nothing of this is left, then
nobody else gets to see the two screens.
-/

namespace AroundMuseo

open Async ArContentCameraScreen

/-- A gated page becomes the current one. -/
structure BecomesCurrent (r : Nat × RouteContent) (w w' : World) : Prop where
  gated : Gated r
  before : w.page ≠ some r
  after : w'.page = some r

/-- One of the two screens is on the stack. -/
def World.HasGated (w : World) : Prop := ∃ r ∈ w.nav.routes, Gated r

instance (w : World) : Decidable w.HasGated :=
  inferInstanceAs (Decidable (∃ r ∈ w.nav.routes, Gated r))

/-- The operations that a step starts. -/
def startedOps (c c' : AppPool AccessOperation) : List AccessOperation :=
  (c'.tasks.map Prod.fst).drop c.tasks.length

/-- The task waited for the removal of an account, and has been answered. -/
def AnswersDeletion (t t' : Task Reply World Exn) : Bool :=
  match t, t' with
  | .waiting (.deleteUser _) _, .ready _ => true
  | _, _ => false

/-- No code is being checked. -/
def AllChecked (c : AppPool AccessOperation) : Prop :=
  ∀ x ∈ c.tasks, x.1.checks = true → x.2.isFinished = true

/-- No sign-in, sign-up or deletion is under way, except that this step removes the account. -/
def AllSettled (c c' : AppPool AccessOperation) : Prop :=
  ∀ x ∈ c.tasks.zip c'.tasks, x.1.1.loads = true → x.1.2.isFinished = true ∨
    x.1.1.deletes = true ∧ AnswersDeletion x.1.2 x.2.2 = true

instance (c : AppPool AccessOperation) : Decidable (AllChecked c) :=
  inferInstanceAs (Decidable (∀ x ∈ c.tasks, x.1.checks = true → x.2.isFinished = true))

instance (c c' : AppPool AccessOperation) : Decidable (AllSettled c c') :=
  inferInstanceAs (Decidable (∀ x ∈ c.tasks.zip c'.tasks, x.1.1.loads = true →
    x.1.2.isFinished = true ∨ x.1.1.deletes = true ∧ AnswersDeletion x.1.2 x.2.2 = true))

/-- What has to be over when a session ends, and what waits for the next one. -/
structure EndsInOrder (c : AppPool AccessOperation) (_ : History) (c' : AppPool AccessOperation) :
    Prop where
  /-- No code is scanned while no verified user is signed in. -/
  scans : ¬ c.state.Verified → ∀ op ∈ startedOps c c', op.checks = false
  /-- Meanwhile, and until the two screens are off the stack, the user neither goes back nor uses
  the AR screen nor starts to sign in, to sign up or to delete an account. -/
  waits : ¬ c.state.Verified → c.state.HasGated → ∀ op ∈ startedOps c c', op.pops = false
  /-- The session of a verified user ends when no code is being checked and, if one of the two
  screens is still on the stack, when nothing else is left that closes a loader. -/
  ends : c.state.Verified → ¬ c'.state.Verified →
    AllChecked c ∧ (c.state.HasGated → AllSettled c c')

instance (c : AppPool AccessOperation) (ms : History) (c' : AppPool AccessOperation) :
    Decidable (EndsInOrder c ms c') :=
  decidable_of_iff
    ((¬ c.state.Verified → ∀ op ∈ startedOps c c', op.checks = false) ∧
      (¬ c.state.Verified → c.state.HasGated → ∀ op ∈ startedOps c c', op.pops = false) ∧
      (c.state.Verified → ¬ c'.state.Verified →
        AllChecked c ∧ (c.state.HasGated → AllSettled c c')))
    ⟨fun h => ⟨h.1, h.2.1, h.2.2⟩, fun h => ⟨h.scans, h.waits, h.ends⟩⟩

/-- A step after which nobody sees a gated page who may not: it is careful, and pops nothing if a
gated page is on the stack. -/
def GuardedStep (w w' : World) : Prop := ∃ pops, Careful pops w w' ∧ (w.HasGated → pops = false)

section GuardedStep

variable {w w' : World} {r : Nat × RouteContent}

/-- Nobody is signed in or out. -/
theorem World.Verified.of_sameUser (h : w.Verified) (hsame : SameUser w w') : w'.Verified := by
  obtain ⟨u, hu, hemail⟩ := h
  have huser : w'.currentUser = some u := hsame.trans hu
  exact ⟨u, huser, hemail⟩

/-- Nothing happens. -/
theorem GuardedStep.refl (w : World) : GuardedStep w w :=
  ⟨false, Careful.refl false w, fun _ => rfl⟩

/-- Only a verified user gets a new gated page on the stack. -/
theorem GuardedStep.hasGated (h : GuardedStep w w') (hno : ¬ w.Verified) (hgated : w'.HasGated) :
    w.HasGated := by
  obtain ⟨pops, hcareful, -⟩ := h
  obtain ⟨r, hr, hg⟩ := hgated
  by_cases hold : r ∈ w.nav.routes
  · exact ⟨r, hold, hg⟩
  · exact absurd (hcareful.opens r hr hold hg) hno

/-- A gated page that becomes the current one is new, or was on the stack. -/
theorem GuardedStep.verified (h : GuardedStep w w') (hr : BecomesCurrent r w w') : w.Verified := by
  obtain ⟨pops, hcareful, hpops⟩ := h
  by_cases hold : r ∈ w.nav.routes
  · exact hcareful.shows (hpops ⟨r, hold, hr.gated⟩) r hr.gated hr.after hr.before
  · exact hcareful.opens r (World.mem_routes_of_page hr.after) hold hr.gated

end GuardedStep

/-- What each segment of an operation keeps. -/
def AccessOperation.guarantee (op : AccessOperation) : World → World → Prop :=
  if op.unasked then SameUser else Careful op.pops

section Guarantee

variable {op : AccessOperation} {w w' : World}

/-- A segment that does nothing keeps every guarantee. -/
theorem AccessOperation.guarantee_refl (op : AccessOperation) (w : World) : op.guarantee w w := by
  unfold guarantee
  split
  · exact rfl
  · exact Careful.refl _ w

/-- Every operation keeps its guarantee. -/
theorem AccessOperation.keeps_guarantee (op : AccessOperation) :
    op.body.Keeps overlapping op.guarantee := by
  unfold guarantee
  split
  case isTrue hop => exact sameUser_body hop
  case isFalse hop => exact keeps_body (Bool.eq_false_iff.mpr hop)

/-- No segment signs anybody in or out. -/
theorem AccessOperation.guarantee.sameUser (h : op.guarantee w w') : SameUser w w' := by
  unfold guarantee at h
  split at h
  · exact h
  · exact h.sameUser

/-- An operation that asks, or opens no gated page. -/
theorem AccessOperation.guarantee.careful (h : op.guarantee w w') (hop : op.unasked = false) :
    Careful op.pops w w' := by
  rw [guarantee, hop] at h
  exact h

/-- What asks nobody checks a code, or leaves the AR screen. -/
theorem AccessOperation.checks_or_confirm (hop : op.unasked = true) :
    op.checks = true ∨ op = .arInput .confirm := by
  cases op with
  | checkQRCode => exact .inl rfl
  | arInput i =>
    cases i with
    | confirm => exact .inr rfl
    | _ => cases hop
  | _ => cases hop

/-- There is no event of the AR screen without the screen. -/
theorem advance_arHandler {i : Input} {ms : History} {t : Task Reply World Exn}
    (hno : ¬ w.HasGated) (hadv : (arHandler i).Advance overlapping w ms t w') : w' = w := by
  have hdisabled : ¬ i.Enabled w := by
    intro henabled
    have hscreen : OnScreen w := by
      cases i with
      | messageFromUnity => exact henabled
      | back | confirm | cancel => exact henabled.1
    obtain ⟨r, hr, hcamera⟩ := hscreen
    refine hno ⟨r, hr, ?_⟩
    rw [Gated, hcamera]
    rfl
  have hrest : (if i.Enabled w then (i.handle {} w).2 else pure ()).Advance overlapping w ms t w' :=
    hadv
  rw [if_neg hdisabled] at hrest
  exact hrest.2.2

end Guarantee

/-- What holds of the tasks of a run. While no verified user is signed in, no code is being checked;
and if one of the two screens is still on the stack, then no task will uncover it. -/
structure AccessInvariant (c : AppPool AccessOperation) : Prop where
  tasks : ∀ x ∈ c.tasks, x.2.Keeps overlapping x.1.guarantee
  deletions : ∀ x ∈ c.tasks, x.1.deletes = true →
    ∃ gone, x.2.Informed overlapping learnDeletion CarefulOnce gone
  left : ∀ x ∈ c.tasks, x.1.leaves = true → x.2 = .finished
  checked : ¬ c.state.Verified → AllChecked c
  settled : ¬ c.state.Verified → c.state.HasGated →
    ∀ x ∈ c.tasks, x.1.loads = true → x.2.Keeps overlapping (Careful false)

section Steps

variable {w w' : World} {ts us : List (AccessOperation × Task Reply World Exn)}
  {op : AccessOperation} {ms : History} {t : Task Reply World Exn}

/-- A start starts its operation. -/
theorem startedOps_start : startedOps ⟨w, ts⟩ ⟨w', ts ++ [(op, t)]⟩ = [op] := by
  simp [startedOps]

/-- The first segment of an operation that may be started now. -/
theorem guarded_start (hadv : op.body.Advance overlapping w ms t w')
    (hcond : EndsInOrder ⟨w, ts⟩ ms ⟨w', ts ++ [(op, t)]⟩) (hno : ¬ w.Verified) :
    GuardedStep w w' := by
  have hstarted : op ∈ startedOps ⟨w, ts⟩ ⟨w', ts ++ [(op, t)]⟩ := by simp [startedOps_start]
  have hguarantee : op.guarantee w w' :=
    ((op.keeps_guarantee w w (op.guarantee_refl w)).advance hadv).1
  cases hop : op.unasked with
  | false =>
    exact ⟨op.pops, hguarantee.careful hop, fun hgated => hcond.waits hno hgated op hstarted⟩
  | true =>
    rcases AccessOperation.checks_or_confirm hop with hchecks | rfl
    · rw [hcond.scans hno op hstarted] at hchecks
      cases hchecks
    · by_cases hgated : w.HasGated
      · cases hcond.waits hno hgated _ hstarted
      · rw [advance_arHandler hgated hadv]
        exact GuardedStep.refl w

/-- A task that goes on while no verified user is signed in. -/
theorem AccessInvariant.guarded_resume {p : App Unit}
    (h : AccessInvariant ⟨w, ts ++ (op, .ready p) :: us⟩) (hadv : p.Advance overlapping w ms t w')
    (hno : ¬ w.Verified) : GuardedStep w w' := by
  have hmem : (op, Task.ready p) ∈ ts ++ (op, .ready p) :: us := by simp
  have hready : (Task.ready p).Keeps overlapping op.guarantee := h.tasks _ hmem
  have hguarantee : op.guarantee w w' := ((hready w).advance hadv).1
  have hleaves : op.leaves = false := by
    rw [Bool.eq_false_iff]
    intro hleaves
    cases h.left _ hmem hleaves
  cases hop : op.unasked with
  | true =>
    rcases AccessOperation.checks_or_confirm hop with hchecks | rfl
    · cases h.checked hno _ hmem hchecks
    · cases hleaves
  | false =>
    by_cases hgated : w.HasGated ∧ op.loads = true
    · have hsettled : (Task.ready p).Keeps overlapping (Careful false) :=
        h.settled hno hgated.1 _ hmem hgated.2
      exact ⟨false, ((hsettled w).advance hadv).1, fun _ => rfl⟩
    · refine ⟨op.pops, hguarantee.careful hop, fun hw => ?_⟩
      rw [AccessOperation.pops, hleaves, Bool.or_false]
      exact Bool.eq_false_iff.mpr fun hloads => hgated ⟨hw, hloads⟩

/-- A session goes on in every segment. -/
theorem AccessInvariant.sameUser_resume {p : App Unit}
    (h : AccessInvariant ⟨w, ts ++ (op, .ready p) :: us⟩) (hadv : p.Advance overlapping w ms t w') :
    SameUser w w' := by
  have hready : (Task.ready p).Keeps overlapping op.guarantee :=
    h.tasks (op, .ready p) (by simp)
  exact ((hready w).advance hadv).1.sameUser

/-- A session does not end in a segment. -/
theorem World.Verified.not_of_sameUser (hsame : SameUser w w') (hno : ¬ w'.Verified) :
    ¬ w.Verified :=
  fun hv => hno (hv.of_sameUser hsame)

/-- An operation starts. -/
theorem AccessInvariant.start (h : AccessInvariant ⟨w, ts⟩)
    (hadv : op.body.Advance overlapping w ms t w')
    (hcond : EndsInOrder ⟨w, ts⟩ ms ⟨w', ts ++ [(op, t)]⟩) :
    AccessInvariant ⟨w', ts ++ [(op, t)]⟩ := by
  obtain ⟨hguarantee, htask⟩ := (op.keeps_guarantee w w (op.guarantee_refl w)).advance hadv
  have hbefore : ¬ w'.Verified → ¬ w.Verified := World.Verified.not_of_sameUser hguarantee.sameUser
  have hstarted : op ∈ startedOps ⟨w, ts⟩ ⟨w', ts ++ [(op, t)]⟩ := by simp [startedOps_start]
  refine ⟨?_, ?_, ?_, fun hno => ?_, fun hno hgated => ?_⟩
  · exact List.forall_mem_append.mpr ⟨h.tasks, List.forall_mem_singleton.mpr htask⟩
  · refine List.forall_mem_append.mpr ⟨h.deletions, List.forall_mem_singleton.mpr fun hop => ?_⟩
    exact ⟨false, ((informed_body hop w w (Careful.refl true w)).advance hadv).2⟩
  · refine List.forall_mem_append.mpr ⟨h.left, List.forall_mem_singleton.mpr fun hop => ?_⟩
    exact (confined_leaves hop).finished_of_sync (fun _ hc => hc) hadv
  · refine List.forall_mem_append.mpr ⟨h.checked (hbefore hno), List.forall_mem_singleton.mpr ?_⟩
    intro hop
    rw [hcond.scans (hbefore hno) op hstarted] at hop
    cases hop
  · have hw : w.HasGated := (guarded_start hadv hcond (hbefore hno)).hasGated (hbefore hno) hgated
    refine List.forall_mem_append.mpr ⟨h.settled (hbefore hno) hw, List.forall_mem_singleton.mpr ?_⟩
    intro hop
    have hpops : op.pops = false := hcond.waits (hbefore hno) hw op hstarted
    rw [(Bool.or_eq_false_iff.mp hpops).1] at hop
    cases hop

/-- A task goes on. -/
theorem AccessInvariant.resume {p : App Unit}
    (h : AccessInvariant ⟨w, ts ++ (op, .ready p) :: us⟩) (hadv : p.Advance overlapping w ms t w') :
    AccessInvariant ⟨w', ts ++ (op, t) :: us⟩ := by
  have hbefore : ¬ w'.Verified → ¬ w.Verified :=
    World.Verified.not_of_sameUser (h.sameUser_resume hadv)
  obtain ⟨htasks₁, htask, htasks₂⟩ := forall_tasks_iff.mp h.tasks
  obtain ⟨hdeletions₁, hdeletion, hdeletions₂⟩ := forall_tasks_iff.mp h.deletions
  obtain ⟨hleft₁, hleft, hleft₂⟩ := forall_tasks_iff.mp h.left
  refine ⟨?_, ?_, ?_, fun hno => ?_, fun hno hgated => ?_⟩
  · exact forall_tasks_iff.mpr ⟨htasks₁, ((htask w).advance hadv).2, htasks₂⟩
  · refine forall_tasks_iff.mpr ⟨hdeletions₁, fun hop => ?_, hdeletions₂⟩
    obtain ⟨gone, hinformed⟩ := hdeletion hop
    exact ⟨gone, ((hinformed w).advance hadv).2⟩
  · exact forall_tasks_iff.mpr ⟨hleft₁, fun hop => (by cases hleft hop), hleft₂⟩
  · obtain ⟨hchecked₁, hchecked, hchecked₂⟩ := forall_tasks_iff.mp (h.checked (hbefore hno))
    exact forall_tasks_iff.mpr ⟨hchecked₁, fun hop => (by cases hchecked hop), hchecked₂⟩
  · have hw : w.HasGated := (h.guarded_resume hadv (hbefore hno)).hasGated (hbefore hno) hgated
    obtain ⟨hsettled₁, hsettled, hsettled₂⟩ := forall_tasks_iff.mp (h.settled (hbefore hno) hw)
    refine forall_tasks_iff.mpr ⟨hsettled₁, fun hop => ?_, hsettled₂⟩
    have hready : (Task.ready p).Keeps overlapping (Careful false) := hsettled hop
    exact ((hready w).advance hadv).2

/-- An awaited call does not navigate. -/
theorem nav_of_awaited {c : Call} (ha : overlapping.awaited c = true) {r : Except Exn (Reply c)}
    (h : overlapping.perform c w r = some w') : w'.nav = w.nav := by
  have hc : c.navigates = false := by
    cases c <;> first | rfl | cases ha
  rcases perform_of_overlapping h with h | rfl
  · exact nav_of_quiet hc h
  · rfl

/-- The account is gone, so what is left of the deletion uncovers nothing. -/
theorem keeps_of_answersDeletion {call : Call} {k : Except Exn (Reply call) → App Unit}
    {r : Except Exn (Reply call)} {gone : Bool}
    (hinformed : (Task.waiting call k).Informed overlapping learnDeletion CarefulOnce gone)
    (hanswers : AnswersDeletion (.waiting call k) (.ready (k r)) = true) (hr : r.isOk = true) :
    (Task.ready (k r)).Keeps overlapping (Careful false) := by
  have hdeletes : call.deletesAccount = true := by
    cases call <;> first | rfl | cases hanswers
  have hlearn : learnDeletion gone call r = true := by simp [learnDeletion, hdeletes, hr]
  have hready := hinformed.2 r
  rw [hlearn] at hready
  intro s
  have hstable (c : Call) (r : Except Exn (Reply c)) : learnDeletion true c r = true := by
    rw [learnDeletion, Bool.true_or]
  have hsegments : (k r).Segments overlapping (CarefulOnce true) (fun _ => CarefulOnce true) s s :=
    Prog.Informed.segments hstable (hready s)
  exact hsegments

/-- The tasks that wait for other answers stay what they are. -/
theorem AllSettled.beside {s s' : World} {x : Task Reply World Exn}
    (h : AllSettled ⟨s, ts ++ (op, t) :: us⟩ ⟨s', ts ++ (op, x) :: us⟩) :
    (∀ y ∈ ts ++ us, y.1.loads = true → y.2.isFinished = true) ∧
      (op.loads = true → t.isFinished = true ∨
        op.deletes = true ∧ AnswersDeletion t x = true) := by
  have hsame (t : Task Reply World Exn) : AnswersDeletion t t = false := by
    cases t with
    | waiting c k => cases c <;> rfl
    | ready | finished => rfl
  have hzip : (ts ++ (op, t) :: us).zip (ts ++ (op, x) :: us) =
      ts.zip ts ++ ((op, t), (op, x)) :: us.zip us := by
    rw [List.zip_append rfl, List.zip_cons_cons]
  have hself {l : List (AccessOperation × Task Reply World Exn)}
      {y : AccessOperation × Task Reply World Exn} (hy : y ∈ l) : (y, y) ∈ l.zip l := by
    rw [List.zip, List.zipWith_self]
    exact List.mem_map_of_mem (f := fun x => (x, x)) hy
  unfold AllSettled at h
  rw [hzip] at h
  obtain ⟨hts, hop, hus⟩ := forall_tasks_iff.mp h
  refine ⟨fun y hy hloads => ?_, hop⟩
  have hy' : y.2.isFinished = true ∨ y.1.deletes = true ∧ AnswersDeletion y.2 y.2 = true := by
    rcases List.mem_append.mp hy with hy | hy
    · exact hts _ (hself hy) hloads
    · exact hus _ (hself hy) hloads
  rcases hy' with hfinished | ⟨-, hanswers⟩
  · exact hfinished
  · rw [hsame] at hanswers
    cases hanswers

/-- A task that is over uncovers nothing. -/
theorem keeps_of_isFinished (h : t.isFinished = true) : t.Keeps overlapping (Careful false) := by
  cases t with
  | finished => trivial
  | waiting | ready => cases h

/-- An answer ends the session of a verified user, and nothing is left that uncovers a gated page:
all loaders are closed, or the account of the deletion that is answered is gone. -/
theorem AccessInvariant.settled_of_ends {call : Call} {k : Except Exn (Reply call) → App Unit}
    {r : Except Exn (Reply call)} (h : AccessInvariant ⟨w, ts ++ (op, .waiting call k) :: us⟩)
    (hperform : overlapping.perform call w r = some w') (hv : w.Verified) (hno : ¬ w'.Verified)
    (hsettled : AllSettled ⟨w, ts ++ (op, .waiting call k) :: us⟩
      ⟨w', ts ++ (op, .ready (k r)) :: us⟩) :
    ∀ x ∈ ts ++ (op, .ready (k r)) :: us, x.1.loads = true →
      x.2.Keeps overlapping (Careful false) := by
  obtain ⟨-, hdeletion, -⟩ := forall_tasks_iff.mp h.deletions
  obtain ⟨hbeside, hself⟩ := hsettled.beside
  refine forall_tasks_iff.mpr ⟨fun x hx hop => ?_, fun hop => ?_, fun x hx hop => ?_⟩
  · exact keeps_of_isFinished (hbeside x (List.mem_append_left us hx) hop)
  · rcases hself hop with hfinished | ⟨hdeletes, hanswers⟩
    · cases hfinished
    · obtain ⟨gone, hinformed⟩ := hdeletion hdeletes
      refine keeps_of_answersDeletion hinformed hanswers ?_
      -- a call that throws ends no session
      cases r with
      | ok v => rfl
      | error e =>
        obtain ⟨-, hsame⟩ := Option.ite_none_right_eq_some.mp hperform
        cases hsame
        exact absurd hv hno
  · exact keeps_of_isFinished (hbeside x (List.mem_append_right ts hx) hop)

/-- An awaited call is answered, which may end the session. -/
theorem AccessInvariant.serve {call : Call} {k : Except Exn (Reply call) → App Unit}
    {r : Except Exn (Reply call)} (h : AccessInvariant ⟨w, ts ++ (op, .waiting call k) :: us⟩)
    (hperform : overlapping.perform call w r = some w')
    (hcond : EndsInOrder ⟨w, ts ++ (op, .waiting call k) :: us⟩ [.answered ⟨w, call, r⟩]
      ⟨w', ts ++ (op, .ready (k r)) :: us⟩) :
    AccessInvariant ⟨w', ts ++ (op, .ready (k r)) :: us⟩ := by
  obtain ⟨htasks₁, htask, htasks₂⟩ := forall_tasks_iff.mp h.tasks
  obtain ⟨hdeletions₁, hdeletion, hdeletions₂⟩ := forall_tasks_iff.mp h.deletions
  obtain ⟨hleft₁, hleft, hleft₂⟩ := forall_tasks_iff.mp h.left
  refine ⟨?_, ?_, ?_, fun hno => ?_, fun hno hgated => ?_⟩
  · exact forall_tasks_iff.mpr ⟨htasks₁, htask.2 r, htasks₂⟩
  · refine forall_tasks_iff.mpr ⟨hdeletions₁, fun hop => ?_, hdeletions₂⟩
    obtain ⟨gone, hinformed⟩ := hdeletion hop
    exact ⟨_, hinformed.2 r⟩
  · exact forall_tasks_iff.mpr ⟨hleft₁, fun hop => (by cases hleft hop), hleft₂⟩
  · have hall : AllChecked ⟨w, ts ++ (op, .waiting call k) :: us⟩ := by
      by_cases hw : w.Verified
      · exact (hcond.ends hw hno).1
      · exact h.checked hw
    obtain ⟨hchecked₁, hchecked, hchecked₂⟩ := forall_tasks_iff.mp hall
    exact forall_tasks_iff.mpr ⟨hchecked₁, fun hop => (by cases hchecked hop), hchecked₂⟩
  · have hnav : w'.nav = w.nav := nav_of_awaited htask.1 hperform
    have hw : w.HasGated := by
      rw [World.HasGated, ← hnav]
      exact hgated
    by_cases hv : w.Verified
    · exact h.settled_of_ends hperform hv hno ((hcond.ends hv hno).2 hw)
    · obtain ⟨hsettled₁, hsettled, hsettled₂⟩ := forall_tasks_iff.mp (h.settled hv hw)
      refine forall_tasks_iff.mpr ⟨hsettled₁, fun hop => ?_, hsettled₂⟩
      have hwaiting : (Task.waiting call k).Keeps overlapping (Careful false) := hsettled hop
      exact hwaiting.2 r

/-- One step of a run. -/
theorem AccessInvariant.step {c c' : AppPool AccessOperation} (h : AccessInvariant c)
    (hstep : Pool.Step overlapping AccessOperation.body c ms c') (hcond : EndsInOrder c ms c') :
    AccessInvariant c' := by
  cases hstep with
  | start op hadv => exact h.start hadv hcond
  | serve hperform => exact h.serve hperform hcond
  | resume hadv => exact h.resume hadv

/-- A step that shows a gated page does so for a verified user. -/
theorem AccessInvariant.verified {c c' : AppPool AccessOperation} (h : AccessInvariant c)
    (hstep : Pool.Step overlapping AccessOperation.body c ms c') (hcond : EndsInOrder c ms c')
    {r : Nat × RouteContent} (hr : BecomesCurrent r c.state c'.state) : c'.state.Verified := by
  by_contra hno
  cases hstep with
  | start op hadv =>
    have hguarantee := ((op.keeps_guarantee _ _ (op.guarantee_refl _)).advance hadv).1
    have hbefore := World.Verified.not_of_sameUser hguarantee.sameUser hno
    exact hbefore ((guarded_start hadv hcond hbefore).verified hr)
  | @serve s s' ts us op call k reply hperform =>
    have hwaiting : (Task.waiting call k).Keeps overlapping op.guarantee :=
      h.tasks (op, .waiting call k) (by simp)
    have hpage : World.page s' = s.page := by
      rw [World.page, nav_of_awaited hwaiting.1 hperform, World.page]
    have hafter : s'.page = some r := hr.after
    rw [hpage] at hafter
    exact hr.before hafter
  | resume hadv =>
    have hbefore := World.Verified.not_of_sameUser (h.sameUser_resume hadv) hno
    exact hbefore ((h.guarded_resume hadv hbefore).verified hr)

end Steps

/-- If sessions end in order, then a verified user is signed in whenever the menu or the AR screen
becomes the current page. -/
theorem gatedPage_verified {w₀ : World} {c c' : AppPool AccessOperation} {ms ms' : History}
    (hrun : Pool.RunMeeting overlapping AccessOperation.body EndsInOrder ⟨w₀, []⟩ ms c)
    (hstep : Pool.Step overlapping AccessOperation.body c ms' c') (hcond : EndsInOrder c ms' c')
    {r : Nat × RouteContent} (hr : BecomesCurrent r c.state c'.state) : c'.state.Verified := by
  have hinit : AccessInvariant ⟨w₀, []⟩ :=
    { tasks := List.forall_mem_nil _
      deletions := List.forall_mem_nil _
      left := List.forall_mem_nil _
      checked := fun _ => List.forall_mem_nil _
      settled := fun _ _ => List.forall_mem_nil _ }
  have h := hrun.invariant (fun c _ => AccessInvariant c) hinit
    fun _ _ _ _ h hstep hcond => h.step hstep hcond
  exact h.verified hstep hcond hr

/-- The user of the visitor's account. -/
def visitorUser : User := User.of "u" "u@example.com" "password"

/-- The visitor logs out from a page above the menu, signs in again and scans the code. The check
opens the AR screen. -/
theorem gatedPage_verified_again : ∃ (c c' : AppPool AccessOperation) (ms ms' : History),
    Pool.RunMeeting overlapping AccessOperation.body EndsInOrder ⟨visitor, []⟩ ms c ∧
      Pool.Step overlapping AccessOperation.body c ms' c' ∧ EndsInOrder c ms' c' ∧
      (.logout, .finished) ∈ c.tasks ∧ c.state.page = some (5, .page .qrCodeScanner) ∧
      BecomesCurrent (6, .page .arContentCamera) c.state c'.state ∧
      c'.state.currentUser = some visitorUser ∧ c'.state.Verified := by
  obtain ⟨ms, c, ms', c', hrun, hstep, hcond, hq⟩ := overlapping_pool_runMeeting
    AccessOperation.body visitor (admitting visitorUser)
    (fun c ms c' => decide (EndsInOrder c ms c'))
    EndsInOrder (fun _ _ _ => of_decide_eq_true)
    ([.start .screenRedirect, .start (.visit ⟨.profile, rfl⟩), .start .logout, .go 2, .go 2, .go 2,
      .go 2, .start (.emailAndPasswordSignIn ⟨"u@example.com", "secret", false, some true⟩)] ++
        List.replicate 6 (.go 3) ++
      [.start (.visit ⟨.qrCodeScanner, rfl⟩), .start (.checkQRCode "code")] ++
        List.replicate 5 (.go 5))
    (.go 5)
    (fun c c' => (c.tasks.any fun x => decide (x.1 = .logout) && x.2.isFinished) &&
      decide (c.state.page = some (5, .page .qrCodeScanner) ∧
        c'.state.page = some (6, .page .arContentCamera) ∧
        c'.state.currentUser = some visitorUser))
    (by decide +kernel)
  obtain ⟨hlogout, hpages⟩ := Bool.and_eq_true_iff.mp hq
  obtain ⟨hscanner, hcamera, huser⟩ := of_decide_eq_true hpages
  have hbecomes : BecomesCurrent (6, .page .arContentCamera) c.state c'.state := by
    refine ⟨rfl, ?_, hcamera⟩
    rw [hscanner]
    decide
  exact ⟨c, c', ms, ms', hrun, hstep, hcond, finished_of_any hlogout, hscanner, hbecomes, huser,
    gatedPage_verified hrun hstep hcond hbecomes⟩

/-- The code is checked while the user goes back and logs out, and the AR screen opens. -/
theorem not_gatedPage_verified_after_logout : ¬ ∀ (w₀ : World) (c c' : AppPool AccessOperation)
    (ms ms' : History) (r : Nat × RouteContent), w₀.nav.routes = [] →
      Pool.Run overlapping AccessOperation.body ⟨w₀, []⟩ ms c →
      Pool.Step overlapping AccessOperation.body c ms' c' →
      BecomesCurrent r c.state c'.state → c'.state.Verified := by
  intro hall
  obtain ⟨ms, c, ms', c', hrun, hstep, hq⟩ := overlapping_pool_run AccessOperation.body visitor
    (fun _ _ => none)
    [.start .screenRedirect, .start (.visit ⟨.qrCodeScanner, rfl⟩), .start (.checkQRCode "code"),
      .start .back, .start .logout, .go 4, .go 4, .go 4, .go 4, .go 2, .go 2, .go 2, .go 2, .go 2]
    (.go 2)
    (fun w w' => w.page = some (2, .page .login) ∧ w'.page = some (3, .page .arContentCamera) ∧
      w'.currentUser = none)
    (by decide +kernel)
  obtain ⟨hlogin, hcamera, hnobody⟩ := of_decide_eq_true hq
  have hbecomes : BecomesCurrent (3, .page .arContentCamera) c.state c'.state := by
    refine ⟨rfl, ?_, hcamera⟩
    rw [hlogin]
    decide
  obtain ⟨u, hu, -⟩ := hall visitor c c' ms ms' _ rfl hrun hstep hbecomes
  rw [hnobody] at hu
  cases hu

end AroundMuseo
