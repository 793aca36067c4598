/-
This file proves what runs in a history of a teardown, however steps are registered and runs follow
each other and whatever fails. A step that is registered is known by its place in the history. The
stack holds the registrations that have no run behind them, the newest first, and all others ran:
every use of the teardown keeps both, so it holds of every history by induction on its calls.
-/

import Mathlib.Data.List.Forall2
import Testbed.Proofs.TeardownRuns

namespace Testbed

open Session

/-- What is done with a teardown. -/
inductive TeardownUse where
  | push (step : TeardownStep)
  | run

/-- What each use of a teardown is answered with. A run gives the number of failures. -/
abbrev TeardownReply : TeardownUse → Type
  | .push _ => Unit
  | .run => Nat

namespace Teardown

/-- A use of a teardown with its answer. -/
abbrev Call : Type := Exchange TeardownUse TeardownReply

variable {calls : List Call} {teardown left : Teardown}
  {before exchanges : List (Exchange Action Reply)}

/-- Carries out a use of a teardown. -/
def perform : (use : TeardownUse) → Teardown → Work (TeardownReply use × Teardown)
  | .push step, teardown => return ((), teardown.push step)
  | .run, teardown => teardown.run

/-- From a teardown, these calls were made, one after another, in those exchanges, and it was left
as another. -/
abbrev Used : Teardown → List Call → List (Exchange Action Reply) → Teardown → Prop :=
  Threaded fun use teardown => teardown.perform use

/-! ### Places of a history -/

/-- A step that is registered at a place of a history. -/
structure Registration where
  place : Nat
  step : TeardownStep

/-- Whether a history holds a registration. -/
def Holds (calls : List Call) (registration : Registration) : Prop :=
  calls[registration.place]? = some ⟨.push registration.step, ()⟩

/-- Whether there is a run behind a place of a history. -/
def RunBehind (calls : List Call) (place : Nat) : Prop :=
  ∃ later failed, place < later ∧ calls[later]? = some ⟨.run, failed⟩

theorem getElem?_concat_eq_some_iff {Value : Type} (values : List Value) (last value : Value)
    (place : Nat) :
    (values ++ [last])[place]? = some value ↔
      values[place]? = some value ∨ place = values.length ∧ last = value := by
  rcases Nat.lt_trichotomy place values.length with inside | rfl | outside
  · rw [List.getElem?_append_left inside]
    simp [Nat.ne_of_lt inside]
  · simp
  · have beyond : (values ++ [last]).length ≤ place := by
      rw [List.length_append, List.length_singleton]
      exact outside
    rw [List.getElem?_eq_none beyond, List.getElem?_eq_none (Nat.le_of_lt outside)]
    simp [Nat.ne_of_gt outside]

theorem Holds.place_lt {registration : Registration} (holds : Holds calls registration) :
    registration.place < calls.length :=
  (List.getElem?_eq_some_iff.1 holds).1

theorem holds_concat_push_iff (step : TeardownStep) (registration : Registration) :
    Holds (calls ++ [⟨.push step, ()⟩]) registration ↔
      Holds calls registration ∨ registration = ⟨calls.length, step⟩ := by
  unfold Holds
  rw [getElem?_concat_eq_some_iff]
  cases registration
  simp [eq_comm]

theorem holds_concat_run_iff (failed : Nat) (registration : Registration) :
    Holds (calls ++ [⟨.run, failed⟩]) registration ↔ Holds calls registration := by
  unfold Holds
  rw [getElem?_concat_eq_some_iff]
  simp

theorem runBehind_concat_push_iff (step : TeardownStep) (place : Nat) :
    RunBehind (calls ++ [⟨.push step, ()⟩]) place ↔ RunBehind calls place := by
  unfold RunBehind
  simp [getElem?_concat_eq_some_iff]

theorem runBehind_concat_run {place : Nat} (failed : Nat) (inside : place < calls.length) :
    RunBehind (calls ++ [⟨.run, failed⟩]) place :=
  ⟨calls.length, failed, inside, List.getElem?_concat_length⟩

theorem not_runBehind_of_le {place : Nat} (isEnd : calls.length ≤ place + 1) :
    ¬RunBehind calls place := by
  rintro ⟨later, failed, behind, isRun⟩
  have inside := (List.getElem?_eq_some_iff.1 isRun).1
  omega

/-! ### What waits and what ran -/

/-- The registrations that wait for a run behind a history: those with no run behind them, each
once, the newest first. -/
structure Waiting (calls : List Call) (registrations : List Registration) : Prop where
  newestFirst : registrations.Pairwise fun newer older => older.place < newer.place
  mem_iff : ∀ registration, registration ∈ registrations ↔
    Holds calls registration ∧ ¬RunBehind calls registration.place

/-- The registrations with which the runs of a history dealt: those with a run behind them, each
once. -/
structure Settled (calls : List Call) (registrations : List Registration) : Prop where
  nodup : registrations.Nodup
  mem_iff : ∀ registration, registration ∈ registrations ↔
    Holds calls registration ∧ RunBehind calls registration.place

variable {waiting settled : List Registration}

theorem waiting_nil : Waiting [] [] where
  newestFirst := .nil
  mem_iff registration := by simp [Holds]

theorem settled_nil : Settled [] [] where
  nodup := .nil
  mem_iff registration := by simp [Holds]

theorem Waiting.nodup (isWaiting : Waiting calls waiting) : waiting.Nodup :=
  isWaiting.newestFirst.imp fun older same => Nat.ne_of_gt older (congrArg Registration.place same)

/-- A step that is pushed is the newest that waits. -/
theorem Waiting.push (isWaiting : Waiting calls waiting) (step : TeardownStep) :
    Waiting (calls ++ [⟨.push step, ()⟩]) (⟨calls.length, step⟩ :: waiting) where
  newestFirst := by
    refine List.pairwise_cons.2 ⟨fun registration member => ?_, isWaiting.newestFirst⟩
    exact ((isWaiting.mem_iff registration).1 member).1.place_lt
  mem_iff registration := by
    rw [List.mem_cons, isWaiting.mem_iff, holds_concat_push_iff, runBehind_concat_push_iff]
    constructor
    · rintro (rfl | ⟨holds, noRun⟩)
      · exact ⟨.inr rfl, not_runBehind_of_le (Nat.le_succ _)⟩
      · exact ⟨.inl holds, noRun⟩
    · rintro ⟨holds | same, noRun⟩
      · exact .inr ⟨holds, noRun⟩
      · exact .inl same

theorem Settled.push (isSettled : Settled calls settled) (step : TeardownStep) :
    Settled (calls ++ [⟨.push step, ()⟩]) settled where
  nodup := isSettled.nodup
  mem_iff registration := by
    rw [isSettled.mem_iff, holds_concat_push_iff, runBehind_concat_push_iff]
    constructor
    · rintro ⟨holds, isRun⟩
      exact ⟨.inl holds, isRun⟩
    · rintro ⟨holds | rfl, isRun⟩
      · exact ⟨holds, isRun⟩
      · exact absurd isRun (not_runBehind_of_le (Nat.le_succ _))

theorem waiting_run (failed : Nat) : Waiting (calls ++ [⟨.run, failed⟩]) [] where
  newestFirst := .nil
  mem_iff registration := by
    rw [holds_concat_run_iff]
    constructor
    · rintro ⟨⟩
    · rintro ⟨holds, noRun⟩
      exact absurd (runBehind_concat_run failed holds.place_lt) noRun

/-- A run deals with what waits, and with nothing that another run has dealt with. -/
theorem Settled.run (isSettled : Settled calls settled) (isWaiting : Waiting calls waiting)
    (failed : Nat) : Settled (calls ++ [⟨.run, failed⟩]) (settled ++ waiting) where
  nodup := by
    refine List.nodup_append.2 ⟨isSettled.nodup, isWaiting.nodup, ?_⟩
    rintro registration isPast other isOpen rfl
    exact ((isWaiting.mem_iff _).1 isOpen).2 ((isSettled.mem_iff _).1 isPast).2
  mem_iff registration := by
    rw [List.mem_append, isSettled.mem_iff, isWaiting.mem_iff, holds_concat_run_iff]
    constructor
    · rintro (⟨holds, -⟩ | ⟨holds, -⟩) <;>
        exact ⟨holds, runBehind_concat_run failed holds.place_lt⟩
    · rintro ⟨holds, -⟩
      exact (Classical.em _).imp (⟨holds, ·⟩) (⟨holds, ·⟩)

/-! ### Histories -/

/-- Behind a history, the stack holds what waits, and the exchanges are those of the steps with
which its runs dealt. -/
structure Accounted (teardown : Teardown) (calls : List Call)
    (exchanges : List (Exchange Action Reply)) : Prop where
  stack : ∃ waiting, Waiting calls waiting ∧ teardown.newestFirst = waiting.map (·.step)
  past : ∃ settled results, Settled calls settled ∧
    RanSteps (settled.map (·.step)) exchanges results

theorem accounted_empty : Accounted empty [] [] where
  stack := ⟨[], waiting_nil, rfl⟩
  past := ⟨[], [], settled_nil, .nil⟩

theorem Accounted.perform {use : TeardownUse} {reply : TeardownReply use}
    (accounted : Accounted teardown calls before)
    (run : Runs (teardown.perform use) exchanges (reply, left)) :
    Accounted left (calls ++ [⟨use, reply⟩]) (before ++ exchanges) := by
  obtain ⟨waiting, isWaiting, stack⟩ := accounted.stack
  obtain ⟨settled, earlier, isSettled, ran⟩ := accounted.past
  cases use with
  | push step =>
    obtain ⟨rfl, -, rfl⟩ := (runs_done_pair_iff _ _ _ _ _).1 run
    rw [List.append_nil]
    refine ⟨⟨_, isWaiting.push step, ?_⟩, ⟨settled, earlier, isSettled.push step, ran⟩⟩
    exact congrArg (step :: ·) stack
  | run =>
    obtain ⟨rfl, results, ranNow, -⟩ := (runs_run_iff _ _ _ _).1 run
    rw [stack] at ranNow
    refine ⟨⟨[], waiting_run reply, rfl⟩,
      ⟨settled ++ waiting, earlier ++ results, isSettled.run isWaiting reply, ?_⟩⟩
    rw [List.map_append]
    exact ran.append ranNow

theorem Accounted.used {own : List Call}
    (used : Used teardown own exchanges left) (accounted : Accounted teardown calls before) :
    Accounted left (calls ++ own) (before ++ exchanges) := by
  -- What was done before grows with each call, so it is left open in the induction.
  induction used generalizing calls before with
  | nil teardown =>
    rw [List.append_nil, List.append_nil]
    exact accounted
  | cons use reply own now others teardown next left first rest inductionHypothesis =>
    rw [List.append_cons, ← List.append_assoc]
    exact inductionHypothesis (accounted.perform first)

theorem accounted_of_used (used : Used empty calls exchanges teardown) :
    Accounted teardown calls exchanges :=
  accounted_empty.used used

/-- Each run of a history runs what waits before it, and leaves nothing that waits. -/
theorem exists_ranSteps_of_used {earlier later : List Call}
    {failed : Nat} (used : Used empty (earlier ++ ⟨.run, failed⟩ :: later) exchanges teardown) :
    ∃ waiting results before own after, Waiting earlier waiting ∧
      exchanges = before ++ own ++ after ∧ Used empty earlier before ⟨waiting.map (·.step)⟩ ∧
      RanSteps (waiting.map (·.step)) own results ∧ failed = failures results ∧
      Used empty later after teardown := by
  obtain ⟨before, reached, rest, rfl, usedBefore, usedRest⟩ :=
    (threaded_append_iff _ _ _ _ _).1 used
  obtain ⟨waiting, isWaiting, stack⟩ := (accounted_of_used usedBefore).stack
  obtain rfl : reached = ⟨waiting.map (·.step)⟩ := congrArg Teardown.mk stack
  cases usedRest with
  | cons _ _ _ own after _ _ _ run usedAfter =>
    obtain ⟨rfl, results, ran, isCount⟩ := (runs_run_iff _ _ _ _).1 run
    exact ⟨waiting, results, before, own, after, isWaiting, (List.append_assoc _ _ _).symm,
      usedBefore, ran, isCount, usedAfter⟩

/-- Steps can run with any results that each of them can have. -/
theorem exists_ranSteps {steps : List TeardownStep} {results : List (Except String Unit)}
    (possible : List.Forall₂ (fun step result => ∃ own, Runs step.run own result) steps results) :
    ∃ exchanges, RanSteps steps exchanges results := by
  induction possible with
  | nil => exact ⟨[], .nil⟩
  | cons first rest inductionHypothesis =>
    obtain ⟨own, run⟩ := first
    obtain ⟨others, tail⟩ := inductionHypothesis
    exact ⟨_, .cons _ _ _ _ _ _ run tail⟩

/-- However pushes and runs follow each other from an empty stack, each run deals with the steps
that were pushed since the run before it, the newest first and each once, whatever results they
have; it gives the number of those that failed and leaves the stack empty. A run is possible at the
end of every history, with any results that the steps waiting there can have. Over the whole
history, just the steps ran that have a run behind them, and each of them once. -/
theorem used_account (used : Used empty calls exchanges teardown) :
    (∀ earlier failed later, calls = earlier ++ ⟨.run, failed⟩ :: later →
      ∃ waiting results before own after, Waiting earlier waiting ∧
        exchanges = before ++ own ++ after ∧ Used empty earlier before ⟨waiting.map (·.step)⟩ ∧
        RanSteps (waiting.map (·.step)) own results ∧ failed = failures results ∧
        Used empty later after teardown) ∧
    (∃ waiting, Waiting calls waiting ∧ teardown.newestFirst = waiting.map (·.step) ∧
      ∀ results, List.Forall₂ (fun registration result => ∃ own,
          Runs registration.step.run own result) waiting results →
        ∃ own, RanSteps (waiting.map (·.step)) own results ∧
          Runs teardown.run own (failures results, empty)) ∧
    ∃ settled results, Settled calls settled ∧
      RanSteps (settled.map (·.step)) exchanges results := by
  refine ⟨?_, ?_, (accounted_of_used used).past⟩
  · rintro earlier failed later rfl
    exact exists_ranSteps_of_used used
  · obtain ⟨waiting, isWaiting, stack⟩ := (accounted_of_used used).stack
    refine ⟨waiting, isWaiting, stack, fun results possible => ?_⟩
    obtain ⟨own, ran⟩ := exists_ranSteps (List.forall₂_map_left_iff.2 possible)
    exact ⟨own, ran, (runs_run_iff _ _ _ _).2 ⟨rfl, results, by rw [stack]; exact ran, rfl⟩⟩

/-- A step that fails. -/
def restore : TeardownStep := ⟨"restore", .done (.error "gone")⟩

/-- A step that does not fail. -/
def release : TeardownStep := ⟨"release", .done (.ok ())⟩

/-- Both steps are pushed and run, one of them is pushed and run again, and the other is pushed a
second time and waits. -/
def twoRuns : List Call :=
  [⟨.push restore, ()⟩, ⟨.push release, ()⟩, ⟨.run, 1⟩, ⟨.push release, ()⟩, ⟨.run, 0⟩,
    ⟨.push restore, ()⟩]

theorem used_account_twoRuns :
    ∃ exchanges, Used empty twoRuns exchanges ⟨[restore]⟩ ∧
      (∃ waiting results own, Waiting [⟨.push restore, ()⟩, ⟨.push release, ()⟩] waiting ∧
        RanSteps (waiting.map (·.step)) own results ∧ failures results = 1) ∧
      (∃ own, Runs (mk [restore]).run own (1, empty)) ∧
      ∃ settled results, Settled twoRuns settled ∧
        RanSteps (settled.map (·.step)) exchanges results ∧ ⟨0, restore⟩ ∈ settled ∧
        ⟨5, restore⟩ ∉ settled := by
  have pushed (step : TeardownStep) (teardown : Teardown) :
      Runs (teardown.perform (.push step)) [] ((), teardown.push step) := .done _
  have restored (rest : List TeardownStep) (own : List (Exchange Action Reply))
      (results : List (Except String Unit)) (tail : RanSteps rest own results) :
      RanSteps (restore :: rest) _ (.error "gone" :: results) := .cons _ _ _ _ _ _ (.done _) tail
  have released (rest : List TeardownStep) (own : List (Exchange Action Reply))
      (results : List (Except String Unit)) (tail : RanSteps rest own results) :
      RanSteps (release :: rest) _ (.ok () :: results) := .cons _ _ _ _ _ _ (.done _) tail
  have firstRun := (runs_run_iff ⟨[release, restore]⟩ empty _ 1).2
    ⟨rfl, _, released _ _ _ (restored _ _ _ .nil), rfl⟩
  have secondRun := (runs_run_iff ⟨[release]⟩ empty _ 0).2 ⟨rfl, _, released _ _ _ .nil, rfl⟩
  have used : Used empty twoRuns _ ⟨[restore]⟩ :=
    .cons _ _ _ _ _ _ _ _ (pushed restore _) <| .cons _ _ _ _ _ _ _ _ (pushed release _) <|
      .cons _ _ _ _ _ _ _ _ firstRun <| .cons _ _ _ _ _ _ _ _ (pushed release _) <|
      .cons _ _ _ _ _ _ _ _ secondRun <| .cons _ _ _ _ _ _ _ _ (pushed restore _) (.nil _)
  obtain ⟨runs, ⟨waiting, -, stack, possible⟩, settled, results, isSettled, ran⟩ :=
    used_account used
  obtain ⟨ready, readyResults, -, own, -, isReady, -, -, ranFirst, isCount, -⟩ :=
    runs [⟨.push restore, ()⟩, ⟨.push release, ()⟩] 1 _ rfl
  obtain ⟨last, rfl, isLast⟩ := List.map_eq_singleton_iff.1 stack.symm
  obtain ⟨lastOwn, -, lastRun⟩ := possible [.error "gone"]
    (.cons ⟨[], by rw [isLast]; exact .done _⟩ .nil)
  refine ⟨_, used, ⟨ready, readyResults, own, isReady, ranFirst, isCount.symm⟩, ⟨lastOwn, lastRun⟩,
    settled, results, isSettled, ran, (isSettled.mem_iff _).2 ⟨rfl, 2, 1, by decide, rfl⟩,
    fun member => ?_⟩
  exact not_runBehind_of_le (Nat.le_refl _) ((isSettled.mem_iff _).1 member).2

end Teardown

end Testbed
