import Manuscript.Proofs.Task.Steady
import Mathlib.Data.List.Forall2
import Mathlib.Data.Set.List
import Mathlib.Logic.Hydra
import Mathlib.Order.WellFounded

/-!
Tasks that threads share out among them and work on at the same time, on one world: any request of
any of them can be the next. Whatever the order, tasks that are steady under what the others do come
to their ends.
-/

namespace Manuscript

/-- A task that is shared out: not begun, under way, or over. -/
inductive Job (α : Type) where
  /-- No thread works on it yet. -/
  | waiting (task : Task α)
  /-- A thread works on it; this is left to do. -/
  | running (task : Task α)
  /-- It has given its result. -/
  | finished (result : α)

/-- A thread works on the job. -/
def Job.isRunning {α : Type} : Job α → Bool
  | .running _ => true
  | _ => false

/-- A result that a job may give. -/
def Job.MayGive {α : Type} : Job α → α → Prop
  | .waiting task, result => task.MayGive result
  | .running task, result => task.MayGive result
  | .finished held, result => held = result

/-- Jobs in the order in which they were given, and the world that they share. -/
structure Pool (σ α : Type) where
  /-- The jobs. -/
  jobs : List (Job α)
  /-- The world. -/
  world : World σ

namespace Pool

variable {σ α ι : Type} {programs : Programs σ} {threads : Nat}

/-- Tasks of which none is begun. -/
def start (tasks : List (Task α)) (world : World σ) : Pool σ α := ⟨tasks.map .waiting, world⟩

/-- One step of a pool: any of its jobs goes on by one request, begins, or is over. -/
inductive Step (programs : Programs σ) (threads : Nat) : Pool σ α → Pool σ α → Prop
  /-- A thread that is free takes a job. -/
  | begin {before after : List (Job α)} {task : Task α} {world : World σ}
    (free : (before ++ after).countP Job.isRunning < threads) :
    Step programs threads ⟨before ++ .waiting task :: after, world⟩
      ⟨before ++ .running task :: after, world⟩
  /-- A request of a job is answered. -/
  | advance {before after : List (Job α)} {task next : Task α} {world left : World σ}
    (advanced : task.advance programs world = some (next, left)) :
    Step programs threads ⟨before ++ .running task :: after, world⟩
      ⟨before ++ .running next :: after, left⟩
  /-- A job gives its result. -/
  | finish {before after : List (Job α)} {result : α} {world : World σ} :
    Step programs threads ⟨before ++ .running (.done result) :: after, world⟩
      ⟨before ++ .finished result :: after, world⟩

/-- One job is what another becomes in a step. -/
inductive Becomes (programs : Programs σ) : Job α → Job α → Prop
  | begin {task : Task α} : Becomes programs (.running task) (.waiting task)
  | advance {later earlier : Task α} (follows : Task.Follows programs later earlier) :
    Becomes programs (.running later) (.running earlier)
  | finish {result : α} : Becomes programs (.finished result) (.running (.done result))

/-- No job goes through steps forever. -/
theorem becomes_wellFounded : WellFounded (Becomes (α := α) programs) := by
  -- A job that is finished stays so.
  have finished : ∀ result : α, Acc (Becomes programs) (.finished result) :=
    fun _ => ⟨_, fun _ step => nomatch step⟩
  have running : ∀ task : Task α, Acc (Becomes programs) (.running task) := by
    intro task
    -- A job under way goes through the requests of its task, and these come to an end.
    have ends : WellFounded (Task.Follows (α := α) programs) := Task.follows_wellFounded
    induction ends.apply task with
    | intro task _ ih =>
      refine ⟨_, fun _ step => ?_⟩
      cases step with
      | advance follows => exact ih _ follows
      | finish => exact finished _
  refine ⟨fun job => ?_⟩
  cases job with
  -- A job that waits can only begin.
  | waiting task =>
    refine ⟨_, fun _ step => ?_⟩
    cases step with
    | begin => exact running task
  | running task => exact running task
  | finished result => exact finished result

/-- A step of a pool is a step of one of its jobs. -/
theorem Step.becomes {pool next : Pool σ α} (step : Step programs threads pool next) :
    ∃ before job later after, Becomes programs later job ∧
      pool.jobs = before ++ job :: after ∧ next.jobs = before ++ later :: after := by
  -- Every step is that of a single job, and leaves the others as they are.
  cases step with
  | begin => exact ⟨_, _, _, _, .begin, rfl, rfl⟩
  | advance advanced => exact ⟨_, _, _, _, .advance ⟨_, _, advanced⟩, rfl, rfl⟩
  | finish => exact ⟨_, _, _, _, .finish, rfl, rfl⟩

/-- No pool goes on forever, in whatever order its jobs do. -/
theorem exists_not_step (pools : Nat → Pool σ α) :
    ∃ n, ¬ Step programs threads (pools n) (pools (n + 1)) := by
  -- The jobs of a pool, in any order: a step puts what one of them becomes in its place.
  have lone : ∀ (before after : List (Job α)) job,
      (↑(before ++ job :: after) : Multiset (Job α)) = ↑(before ++ after) + {job} :=
    fun before after job => Multiset.coe_eq_coe.mpr
      (List.perm_middle.trans (List.perm_append_singleton job (before ++ after)).symm)
  have : IsWellFounded (Multiset (Job α)) (Relation.CutExpand (Becomes programs)) :=
    ⟨becomes_wellFounded.cutExpand⟩
  obtain ⟨n, stays⟩ := WellFounded.not_rel_apply_succ (r := Relation.CutExpand (Becomes programs))
    fun n => ((pools n).jobs : Multiset (Job α))
  refine ⟨n, fun step => stays ?_⟩
  obtain ⟨before, job, later, after, becomes, held, left⟩ := step.becomes
  rw [held, left, lone, lone]
  exact Relation.cutExpand_add_single _ becomes

/-- In a pool that can do no step all jobs are over. -/
theorem finished_of_stuck {pool : Pool σ α} (positive : 0 < threads)
    (stuck : ∀ next, ¬ Step programs threads pool next) :
    ∃ results : List α, results.map .finished = pool.jobs := by
  obtain ⟨jobs, world⟩ := pool
  have idle : ∀ task, .running task ∉ jobs := by
    intro task member
    obtain ⟨before, after, rfl⟩ := List.append_of_mem member
    -- Either the task has a request, or it is over and the job can give its result.
    cases advanced : task.advance programs world with
    | none =>
      obtain ⟨result, rfl⟩ := (Task.advance_eq_none_iff programs task world).mp advanced
      exact stuck _ .finish
    | some step => exact stuck _ (.advance advanced)
  have begun : ∀ task, .waiting task ∉ jobs := by
    intro task member
    obtain ⟨before, after, rfl⟩ := List.append_of_mem member
    -- All threads are free.
    refine stuck _ (.begin ?_)
    -- No other job runs, for it could go on.
    have none : (before ++ after).countP Job.isRunning = 0 := by
      refine List.countP_eq_zero.mpr fun job inside runs => ?_
      cases job with
      | running task =>
        refine idle task ((List.mem_append.mp inside).elim (List.mem_append_left _)
          fun behind => ?_)
        exact List.mem_append_right _ (List.mem_cons_of_mem _ behind)
      | _ => cases runs
    omega
  -- So all jobs are finished.
  have all : jobs ∈ Set.range (List.map (Job.finished (α := α))) := by
    rw [Set.range_list_map]
    intro job member
    cases job with
    | waiting task => exact absurd member (begun task)
    | running task => exact absurd member (idle task)
    | finished result => exact ⟨result, rfl⟩
  exact all

/-- Items that go with a list go with its parts. -/
theorem forall₂_split {κ : Type} {R : ι → κ → Prop} {items : List ι} {before after : List κ}
    {here : κ} (held : List.Forall₂ R items (before ++ here :: after)) :
    ∃ front item back, items = front ++ item :: back ∧ List.Forall₂ R front before ∧
      R item here ∧ List.Forall₂ R back after := by
  -- The items are used up along the front of the list.
  induction before generalizing items with
  | nil =>
    cases held with
    | cons first rest => exact ⟨[], _, _, rfl, .nil, first, rest⟩
  | cons other before ih =>
    cases held with
    | cons first rest =>
      obtain ⟨front, item, back, rfl, ahead, own, behind⟩ := ih rest
      exact ⟨_ :: front, item, back, rfl, .cons first ahead, own, behind⟩

/-- What a job may give after a step it may give before. -/
theorem Becomes.mayGive {later job : Job α} {result : α} (becomes : Becomes programs later job)
    (gives : later.MayGive result) : job.MayGive result := by
  -- A job that begins or is over gives what it gave before.
  cases becomes with
  | begin => exact gives
  | advance follows =>
    obtain ⟨world, left, advanced⟩ := follows
    exact Task.MayGive.of_advance gives advanced
  | finish => exact gives

/-- What jobs give in the end they may give all the time. -/
theorem mayGive_of_reaches {pool last : Pool σ α} {results : List α}
    (reached : Relation.ReflTransGen (Step programs threads) pool last)
    (finished : last.jobs = results.map .finished) :
    List.Forall₂ (fun result job => Job.MayGive job result) results pool.jobs := by
  -- From the end backwards: a step changes one job only, to one that may give no more.
  induction reached using Relation.ReflTransGen.head_induction_on with
  | refl =>
    rw [finished, List.forall₂_map_right_iff, List.forall₂_same]
    exact fun _ _ => rfl
  | head step _ ih =>
    obtain ⟨before, job, later, after, becomes, held, left⟩ := step.becomes
    rw [left] at ih
    obtain ⟨front, result, back, rfl, ahead, own, behind⟩ := forall₂_split ih
    rw [held]
    exact List.rel_append ahead (.cons (becomes.mayGive own) behind)

/--
What tasks of some items do, and what they rely on others to do, until they are over. What is done
for an item may depend on what its task gives in the end.
-/
structure Pact (ι α : Type) where
  /-- What others may do while there is work on an item. -/
  rely : ι → Files → Files → Prop
  /-- What is done to the files for an item by a task that gives a result in the end. -/
  does : ι → α → Files → Files → Prop
  /-- What holds when the task of an item is over. -/
  post : ι → α → Files → Prop
  /-- Others may do nothing. -/
  refl (item : ι) (files : Files) : rely item files files
  /-- Others may do one thing after another. -/
  trans (item : ι) {first between last : Files} (earlier : rely item first between)
    (further : rely item between last) : rely item first last

variable {pact : Pact ι α} {items : List ι}

namespace Pact

/-- What is done for either of two items with their results can be relied on for the other. -/
def Compatible (pact : Pact ι α) (a b : ι × α) : Prop :=
  (∀ files later, pact.does a.1 a.2 files later → pact.rely b.1 files later) ∧
    ∀ files later, pact.does b.1 b.2 files later → pact.rely a.1 files later

/-- A task does what the pact says for an item, and is over with what the pact says. -/
def Steady (programs : Programs σ) (pact : Pact ι α) (item : ι) (task : Task α) (files : Files) :
    Prop :=
  task.Steady programs (pact.rely item) (pact.does item) (pact.post item) files

/-- A job that will come to its end, or has come to it, whatever others do that can be relied on. -/
def Settled (programs : Programs σ) (pact : Pact ι α) (files : Files) (item : ι) : Job α → Prop
  | .waiting task => pact.Steady programs item task files
  | .running task => pact.Steady programs item task files
  | .finished result => pact.post item result files

/-- What holds at the end of the task of an item lasts while others work. -/
def Lasts (pact : Pact ι α) (item : ι) : Prop :=
  ∀ result {files later}, pact.post item result files → pact.rely item files later →
    pact.post item result later

/-- A settled job stays so while others work. -/
theorem Settled.mono {item : ι} {files later : Files} {job : Job α}
    (settled : pact.Settled programs files item job) (grown : pact.rely item files later)
    (lasting : pact.Lasts item) : pact.Settled programs later item job := by
  -- A job under way is steady, and a finished one has a result that lasts.
  cases job with
  | finished result => exact lasting result settled grown
  | waiting task | running task => exact Task.Steady.mono settled grown (pact.trans item) lasting

end Pact

/--
A step does what is to be done for one of the items when its task is still to give its result, and
the jobs of the pool stay settled.
-/
theorem Step.settled {pool next : Pool σ α} {pairs : List (ι × α)}
    (lasting : ∀ pair ∈ pairs, pact.Lasts pair.1) (compatible : pairs.Pairwise pact.Compatible)
    (step : Step programs threads pool next)
    (held : List.Forall₂ (fun pair => pact.Settled programs pool.world.files pair.1) pairs
      pool.jobs)
    (gives : List.Forall₂ (fun pair job => Job.MayGive job pair.2) pairs next.jobs) :
    (next.world.files = pool.world.files ∨
        ∃ pair ∈ pairs, pact.does pair.1 pair.2 pool.world.files next.world.files) ∧
      List.Forall₂ (fun pair => pact.Settled programs next.world.files pair.1) pairs next.jobs := by
  cases step with
  -- Beginning changes no files, and the job is as settled as before.
  | begin =>
    obtain ⟨front, item, back, rfl, ahead, own, behind⟩ := forall₂_split held
    exact ⟨.inl rfl, List.rel_append ahead (.cons own behind)⟩
  | finish =>
    obtain ⟨front, item, back, rfl, ahead, own, behind⟩ := forall₂_split held
    refine ⟨.inl rfl, List.rel_append ahead (.cons ?_ behind)⟩
    cases (own : Task.Steady programs _ _ _ _ _) with
    | done reached => exact reached
    | step unfinished => exact absurd rfl (unfinished _)
  | @advance before after task later world left advanced =>
    obtain ⟨front, pair, back, rfl, ahead, own, behind⟩ := forall₂_split held
    obtain ⟨front', pair', back', same, ahead', may, -⟩ := forall₂_split gives
    obtain ⟨-, same⟩ := List.append_inj same (ahead.length_eq.trans ahead'.length_eq.symm)
    obtain ⟨rfl, -⟩ := List.cons.inj same
    -- The job does what it is to do, and this does not unsettle the others.
    have own : pact.does pair.1 pair.2 world.files left.files ∧
        pact.Steady programs pair.1 later left.files := by
      cases (own : task.Steady programs _ _ _ _) with
      | done => cases advanced
      | step _ within rest =>
        exact ⟨within _ _ _ (pact.refl _ _) advanced _ may, rest _ _ _ (pact.refl _ _) advanced⟩
    -- The others rely on what this job may do, whichever of them they are.
    have others : ∀ (other : ι × α) job,
        (other ∈ front ++ pair :: back ∧ pact.rely other.1 world.files left.files) ∧
          pact.Settled programs world.files other.1 job →
        pact.Settled programs left.files other.1 job :=
      fun other job ⟨⟨member, grown⟩, settled⟩ => settled.mono grown (lasting other member)
    obtain ⟨-, pairs, cross⟩ := List.pairwise_append.mp compatible
    refine ⟨.inr ⟨pair, by simp, own.1⟩, List.rel_append ?_ (.cons own.2 ?_)⟩
    · refine ((List.forall₂_and_left _ _).mpr ⟨fun other member => ⟨by simp [member], ?_⟩,
        ahead⟩).imp others
      exact (cross other member pair (by simp)).2 _ _ own.1
    · refine ((List.forall₂_and_left _ _).mpr ⟨fun other member => ⟨by simp [member], ?_⟩,
        behind⟩).imp others
      exact ((List.pairwise_cons.mp pairs).1 other member).1 _ _ own.1

/-- From a pool with settled jobs on all of them come to their ends as the pact says. -/
theorem settled_of_reaches {pool last : Pool σ α} {pairs : List (ι × α)}
    (lasting : ∀ pair ∈ pairs, pact.Lasts pair.1) (compatible : pairs.Pairwise pact.Compatible)
    (reached : Relation.ReflTransGen (Step programs threads) pool last)
    (finished : last.jobs = (pairs.map Prod.snd).map .finished)
    (held : List.Forall₂ (fun pair => pact.Settled programs pool.world.files pair.1) pairs
      pool.jobs) :
    Relation.ReflTransGen (fun files later => ∃ pair ∈ pairs, pact.does pair.1 pair.2 files later)
        pool.world.files last.world.files ∧
      ∀ pair ∈ pairs, pact.post pair.1 pair.2 last.world.files := by
  -- What is left of the run tells at each step what the tasks are still to give.
  induction reached using Relation.ReflTransGen.head_induction_on with
  | refl =>
    rw [finished, List.forall₂_map_right_iff, List.forall₂_map_right_iff, List.forall₂_same] at held
    exact ⟨.refl, held⟩
  | head step rest ih =>
    have gives := mayGive_of_reaches rest finished
    rw [List.forall₂_map_left_iff] at gives
    obtain ⟨done, held⟩ := step.settled lasting compatible held gives
    obtain ⟨more, reached⟩ := ih held
    refine ⟨?_, reached⟩
    -- A step that does something to the files is one of those to be done for the items.
    rcases done with same | own
    · rwa [same] at more
    · exact .head own more

/-- There is one result for each task. -/
theorem length_of_reaches {work : ι → Task α} {world : World σ} {pool : Pool σ α} {results : List α}
    (reached : Relation.ReflTransGen (Step programs threads) (start (items.map work) world) pool)
    (finished : pool.jobs = results.map .finished) : items.length = results.length := by
  simpa [start] using (mayGive_of_reaches reached finished).length_eq.symm

/--
When steady tasks have been worked on, in whatever order, until all of them are over, each has come
to its end, and nothing was done to the files but what was to be done for one of them and its
result. The pact may be made up with the results in mind.
-/
theorem settles (pact : Pact ι α) {work : ι → Task α} {world : World σ} {pool : Pool σ α}
    {results : List α} (lasting : ∀ item ∈ items, pact.Lasts item)
    (compatible : (items.zip results).Pairwise pact.Compatible)
    (steady : ∀ item ∈ items, pact.Steady programs item (work item) world.files)
    (reached : Relation.ReflTransGen (Step programs threads) (start (items.map work) world) pool)
    (finished : pool.jobs = results.map .finished) :
    Relation.ReflTransGen
        (fun files later => ∃ pair ∈ items.zip results, pact.does pair.1 pair.2 files later)
        world.files pool.world.files ∧
      List.Forall₂ (fun item result => pact.post item result pool.world.files) items results := by
  have size := length_of_reaches reached finished
  -- From here on the items and the results are the two sides of one list.
  generalize zipped : items.zip results = pairs at compatible ⊢
  obtain rfl : pairs.map Prod.fst = items := by rw [← zipped, List.map_fst_zip size.le]
  obtain rfl : pairs.map Prod.snd = results := by rw [← zipped, List.map_snd_zip size.ge]
  -- At the start every job waits and is steady.
  have held : List.Forall₂ (fun pair => pact.Settled programs world.files pair.1) pairs
      (start ((pairs.map Prod.fst).map work) world).jobs := by
    simp only [start, List.map_map, List.forall₂_map_right_iff, List.forall₂_same]
    exact fun pair member => steady _ (List.mem_map_of_mem member)
  obtain ⟨done, ends⟩ := settled_of_reaches
    (fun pair member => lasting _ (List.mem_map_of_mem member)) compatible reached finished held
  refine ⟨done, ?_⟩
  rw [List.forall₂_map_left_iff, List.forall₂_map_right_iff, List.forall₂_same]
  exact ends

/-- A job that a thread works on without a break comes to the end of its task. -/
theorem reaches_finished (task : Task α) (before after : List (Job α)) (world : World σ) :
    Relation.ReflTransGen (Step programs threads) ⟨before ++ .running task :: after, world⟩
      ⟨before ++ .finished (task.run programs world).1 :: after, (task.run programs world).2⟩ := by
  -- The job is advanced for each request, with all other jobs left as they are.
  induction task using Task.follows_induction programs generalizing world with
  | done result => exact .single .finish
  | step task unfinished ih =>
    obtain ⟨next, left, advanced⟩ := Task.exists_advance programs unfinished world
    rw [Task.run_of_advance advanced]
    exact .head (.advance advanced) (ih next ⟨world, left, advanced⟩ left)

/-- One of the orders in which tasks may be worked on is one after another. -/
theorem reaches_each (work : ι → Task α) (items : List ι) (world : World σ)
    (positive : 0 < threads) :
    Relation.ReflTransGen (Step programs threads) (start (items.map work) world)
      ⟨((Task.each work items).run programs world).1.map .finished,
        ((Task.each work items).run programs world).2⟩ := by
  -- The induction is on the items that are left, behind those that are over.
  have behind : ∀ done : List α, Relation.ReflTransGen (Step programs threads)
      ⟨done.map .finished ++ (items.map work).map .waiting, world⟩
      ⟨done.map .finished ++ ((Task.each work items).run programs world).1.map .finished,
        ((Task.each work items).run programs world).2⟩ := by
    induction items generalizing world with
    | nil => exact fun done => .refl
    | cons item rest ih =>
      intro done
      -- No job runs between two of them, so that a thread is free.
      have idle :
          (done.map Job.finished ++ (rest.map work).map Job.waiting).countP Job.isRunning = 0 := by
        simp [List.countP_eq_zero, Job.isRunning]
      have begun : Step programs threads
          ⟨done.map .finished ++ .waiting (work item) :: (rest.map work).map .waiting, world⟩
          ⟨done.map .finished ++ .running (work item) :: (rest.map work).map .waiting, world⟩ :=
        .begin (by omega)
      -- Then it is over, and the others follow in the world that it left.
      have more := ih ((work item).run programs world).2
        (done ++ [((work item).run programs world).1])
      simp only [List.map_append, List.append_assoc] at more
      simp only [Task.each, Task.run_bind, Task.run]
      exact .head begun ((reaches_finished (work item) _ _ world).trans more)
  exact behind []

/-- When all jobs are over there is nothing left to do. -/
theorem not_step_of_finished (results : List α) (world : World σ) (next : Pool σ α) :
    ¬ Step programs threads ⟨results.map .finished, world⟩ next := by
  -- A step needs a job that still has something to do.
  intro step
  obtain ⟨before, job, later, after, becomes, held, -⟩ := step.becomes
  have member : job ∈ results.map Job.finished := by
    rw [show results.map Job.finished = _ from held]
    simp
  obtain ⟨result, -, rfl⟩ := List.mem_map.mp member
  cases becomes

end Pool

end Manuscript
