/-
This file proves how long a retrieval pauses. A delay that grows is the exact product up to the
greatest delay as long as the power of the factor has 32 bits, or where its cut changes nothing
because the delay is zero or at its greatest anyway; otherwise it falls short of the product. The
sum of the delays of a budget is cut off once, in the end. The pauses of a retrieval are the delays
after its first attempts, however it is cancelled, so that they never exceed the sum, and they are
all of them where the budget is spent.
-/

import Mathlib.Order.MinMax
import Testbed.Proofs.Retrieval

namespace Testbed

open Session

/-! ### Spans together -/

namespace Duration

/-- The nanoseconds of spans together, without a limit. -/
def total : List Duration → Nat
  | [] => 0
  | span :: rest => span.nanoseconds + total rest

theorem total_append (first second : List Duration) :
    total (first ++ second) = total first + total second := by
  induction first with
  | nil => exact (Nat.zero_add _).symm
  | cons span rest inductionHypothesis =>
    rw [List.cons_append, total, total, inductionHypothesis, Nat.add_assoc]

theorem total_replicate (count : Nat) (span : Duration) :
    total (List.replicate count span) = count * span.nanoseconds := by
  induction count with
  | zero => exact (Nat.zero_mul _).symm
  | succ count inductionHypothesis =>
    rw [List.replicate_succ, total, inductionHypothesis, Nat.succ_mul, Nat.add_comm]

theorem total_le_of_isPrefix {first second : List Duration} (isBefore : first <+: second) :
    total first ≤ total second := by
  obtain ⟨rest, rfl⟩ := isBefore
  rw [total_append]
  exact Nat.le_add_right _ _

theorem clamp_le_clamp {first second : Nat} (le : first ≤ second) :
    (clamp first).nanoseconds ≤ (clamp second).nanoseconds := by
  rw [nanoseconds_clamp, nanoseconds_clamp]
  omega

/-- Spans that are added one after another are cut off as if only their sum were. -/
theorem foldl_add {Item : Type} (span : Item → Duration) (items : List Item) (start : Duration) :
    items.foldl (fun sum item => sum.add (span item)) start =
      clamp (start.nanoseconds + total (items.map span)) := by
  induction items generalizing start with
  | nil => exact (clamp_nanoseconds start).symm
  | cons item rest inductionHypothesis =>
    rw [List.foldl_cons, inductionHypothesis, List.map_cons, total]
    refine eq_of_nanoseconds_eq ?_
    simp only [add, nanoseconds_clamp]
    omega

end Duration

/-! ### Delays -/

namespace Backoff

/-- The nanoseconds of a growing delay when its power and its product have no limit. -/
def exactDelay (initial : Duration) (factor : UInt32) (greatest : Duration) (attempt : UInt32) :
    Nat :=
  min (initial.nanoseconds * Nat.pow factor.toNat (attempt.toNat - 1)) greatest.nanoseconds

/-- The product is cut off where no greatest delay reaches, so only the power has a limit that
matters. -/
theorem nanoseconds_delayAfter (initial : Duration) (factor : UInt32) (greatest : Duration)
    (attempt : UInt32) :
    ((exponential initial factor greatest).delayAfter attempt).nanoseconds =
      min (initial.nanoseconds * min (Nat.pow factor.toNat (attempt.toNat - 1)) 0xFFFFFFFF)
        greatest.nanoseconds := by
  have within := greatest.le_greatest
  rw [← toNat_multiplier]
  simp only [delayAfter, Duration.scale, Duration.nanoseconds_shorter, Duration.nanoseconds_clamp]
  omega

/-- No growing delay is longer than the greatest. -/
theorem delayAfter_le (initial : Duration) (factor : UInt32) (greatest : Duration)
    (attempt : UInt32) :
    ((exponential initial factor greatest).delayAfter attempt).nanoseconds ≤
      greatest.nanoseconds := by
  rw [nanoseconds_delayAfter]
  exact Nat.min_le_right _ _

/-- Growing delays do not become shorter, unless the factor is zero. -/
theorem delayAfter_mono (initial : Duration) {factor : UInt32} (greatest : Duration)
    (positive : 1 ≤ factor) {first second : UInt32} (le : first ≤ second) :
    ((exponential initial factor greatest).delayAfter first).nanoseconds ≤
      ((exponential initial factor greatest).delayAfter second).nanoseconds := by
  have power : Nat.pow factor.toNat (first.toNat - 1) ≤
      Nat.pow factor.toNat (second.toNat - 1) :=
    Nat.pow_le_pow_right (UInt32.le_iff_toNat_le.1 positive)
      (Nat.sub_le_sub_right (UInt32.le_iff_toNat_le.1 le) 1)
  have counted : min (Nat.pow factor.toNat (first.toNat - 1)) 0xFFFFFFFF ≤
      min (Nat.pow factor.toNat (second.toNat - 1)) 0xFFFFFFFF := by omega
  have product := Nat.mul_le_mul_left initial.nanoseconds counted
  rw [nanoseconds_delayAfter, nanoseconds_delayAfter]
  omega

/-- A growing delay is the initial one times the power of the factor, up to the greatest delay, the
power being 2^32 - 1 if it has more than 32 bits. It is never longer than the exact product up to
the greatest delay, and it is as long if and only if the power has 32 bits, the delay is zero from
the beginning, or the limit of the power leads to the greatest delay anyway. -/
theorem delayAfter_account (initial : Duration) (factor : UInt32) (greatest : Duration)
    (attempt : UInt32) :
    ((exponential initial factor greatest).delayAfter attempt).nanoseconds =
      min (initial.nanoseconds * min (Nat.pow factor.toNat (attempt.toNat - 1)) 0xFFFFFFFF)
        greatest.nanoseconds ∧
    ((exponential initial factor greatest).delayAfter attempt).nanoseconds ≤
      exactDelay initial factor greatest attempt ∧
    (((exponential initial factor greatest).delayAfter attempt).nanoseconds =
        exactDelay initial factor greatest attempt ↔
      Nat.pow factor.toNat (attempt.toNat - 1) ≤ 0xFFFFFFFF ∨ initial.nanoseconds = 0 ∨
        greatest.nanoseconds ≤ initial.nanoseconds * 0xFFFFFFFF) := by
  rw [nanoseconds_delayAfter]
  unfold exactDelay
  generalize Nat.pow factor.toNat (attempt.toNat - 1) = power
  refine ⟨rfl, ?_, ?_⟩
  · have product := Nat.mul_le_mul_left initial.nanoseconds (Nat.min_le_left power 0xFFFFFFFF)
    omega
  · rcases Nat.lt_or_ge 0xFFFFFFFF power with tooGreat | fits
    · rw [Nat.min_eq_right (Nat.le_of_lt tooGreat)]
      rcases Nat.eq_zero_or_pos initial.nanoseconds with nothing | positive
      · rw [nothing, Nat.zero_mul, Nat.zero_mul]
        exact iff_of_true rfl (.inr (.inl rfl))
      · have product := Nat.mul_lt_mul_of_pos_left tooGreat positive
        omega
    · rw [Nat.min_eq_left fits]
      exact iff_of_true rfl (.inl fits)

/-- The power of two after 33 attempts has no 32 bits, and the delay is a nanosecond times
2^32 - 1. -/
theorem delayAfter_falls_short :
    (1 : UInt32) ≤ 34 ∧
      ((exponential ⟨1, by decide⟩ 2 (.ofSeconds 60)).delayAfter 34).nanoseconds = 4294967295 ∧
      exactDelay ⟨1, by decide⟩ 2 (.ofSeconds 60) 34 = 8589934592 := by
  decide

/-- The delays after so many attempts, behind those made. -/
def delays (backoff : Backoff) (made count : Nat) : List Duration :=
  (List.range' (made + 1) count).map fun attempt => backoff.delayAfter (UInt32.ofNat attempt)

theorem delays_succ (backoff : Backoff) (made count : Nat) :
    backoff.delays made (count + 1) =
      backoff.delayAfter (UInt32.ofNat (made + 1)) :: backoff.delays (made + 1) count := rfl

theorem delays_isPrefix (backoff : Backoff) (made : Nat) {fewer more : Nat} (le : fewer ≤ more) :
    backoff.delays made fewer <+: backoff.delays made more := by
  obtain ⟨others, rfl⟩ := Nat.exists_eq_add_of_le le
  unfold delays
  rw [← List.range'_append_1, List.map_append]
  exact List.prefix_append _ _

theorem delays_fixed (delay : Duration) (made count : Nat) :
    (fixed delay).delays made count = List.replicate count delay := by
  unfold delays delayAfter
  rw [List.map_const', List.length_range']

end Backoff

namespace Policy

/-- The sum of the delays of a budget is cut off once. -/
theorem maxTotalDelay_eq (policy : Policy) :
    policy.maxTotalDelay =
      .clamp (Duration.total (policy.backoff.delays 0 (policy.attempts - 1))) := by
  have count : policy.attempts - 1 = policy.maxAttempts.toNat - 1 := by
    unfold attempts
    omega
  unfold maxTotalDelay totalDelay Backoff.delays
  rw [count, Duration.foldl_add]
  congr 1
  exact Nat.zero_add _

theorem maxTotalDelay_mono (backoff : Backoff) {fewer more : UInt32} (le : fewer ≤ more) :
    (Policy.mk fewer backoff).maxTotalDelay.nanoseconds ≤
      (Policy.mk more backoff).maxTotalDelay.nanoseconds := by
  have attempts : (Policy.mk fewer backoff).attempts ≤ (Policy.mk more backoff).attempts :=
    max_le_max_left 1 (UInt32.le_iff_toNat_le.1 le)
  rw [maxTotalDelay_eq, maxTotalDelay_eq]
  exact Duration.clamp_le_clamp (Duration.total_le_of_isPrefix
    (backoff.delays_isPrefix 0 (Nat.sub_le_sub_right attempts 1)))

end Policy

namespace Poll

variable {Value Failure : Type}

/-! ### Pauses -/

/-- The delay of a pause, if an exchange is one. -/
def pausedIn? : Exchange (Poll.Action Value Failure) Poll.Reply → Option Duration
  | ⟨.pause delay, _⟩ => some delay
  | _ => none

/-- Whether a retrieval made as many attempts as its budget allows, without success. -/
def Outcome.isSpent : Outcome Value Failure → Bool
  | exhausted .. => true
  | failed .. => true
  | _ => false

variable {describe : Failure → String} {backoff : Backoff} {policy : Policy}
  {own : List (Exchange (Poll.Action Value Failure) Poll.Reply)} {outcome : Outcome Value Failure}

/-- There is a pause behind each attempt but the last. -/
theorem transcript_pauses (describe : Failure → String) (backoff : Backoff) (made : Nat)
    (history : List (Attempt Value Failure)) :
    (transcript describe backoff made history).filterMap pausedIn? =
      backoff.delays made (history.length - 1) := by
  fun_induction transcript describe backoff made history with
  | case1 => rfl
  | case2 made attempted => cases attempted <;> rfl
  | case3 made attempted next rest inductionHypothesis =>
    rw [List.length_cons, Nat.add_sub_cancel] at inductionHypothesis
    rw [List.length_cons, List.length_cons, Nat.add_sub_cancel, Backoff.delays_succ,
      ← inductionHypothesis]
    cases attempted <;> rfl

/-- In a cancelled retrieval there is a pause behind every attempt, even if it is cut short. -/
theorem Interrupted.pauses {made : Nat} {history : List (Attempt Value Failure)}
    (interrupted : Interrupted describe backoff made history own) :
    own.filterMap pausedIn? = backoff.delays made history.length := by
  induction interrupted with
  | asked made => rfl
  | paused made attempted => cases attempted <;> rfl
  | later made attempted rest own interrupted inductionHypothesis =>
    rw [List.length_cons, Backoff.delays_succ, ← inductionHypothesis]
    cases attempted <;> rfl

/-- The pauses of a retrieval are the delays after its first attempts, and all of its budget if that
is spent. -/
theorem pauses_of_runs_retrieval (run : Runs (retrieval describe policy) own outcome) :
    ∃ count, count ≤ policy.attempts - 1 ∧ own.filterMap pausedIn? = policy.backoff.delays 0 count ∧
      (outcome.isSpent = true → count = policy.attempts - 1) := by
  rcases exists_history_of_runs_retrieval policy run with
    ⟨history, ends, rfl⟩ | ⟨history, opened, within, interrupted, rfl⟩
  · refine ⟨history.length - 1, Nat.sub_le_sub_right ends.length_le.2 1,
      transcript_pauses _ _ _ _, fun spent => ?_⟩
    cases ends with
    | satisfied earlier value opened within => cases spent
    | failed earlier failure opened all => rw [List.length_append, List.length_singleton, all]
    | exhausted earlier value opened all => rw [List.length_append, List.length_singleton, all]
  · exact ⟨history.length, by omega, interrupted.pauses, nofun⟩

/-- The delay of a sleep, if an exchange is one. -/
def sleptIn? : Exchange Testbed.Action Testbed.Reply → Option Duration
  | ⟨.sleep delay, _⟩ => some delay
  | _ => none

/-- Whether an action lets time pass for a delay. -/
def isSleep : Testbed.Action → Bool
  | .sleep _ => true
  | _ => false

/-- Work that does not sleep. -/
abbrev Sleepless {Result : Type} (work : Work Result) : Prop :=
  Avoids isSleep work

theorem Sleepless.sleptIn?_eq_nil {Result : Type} {work : Work Result} (sleepless : Sleepless work)
    {exchanges : List (Exchange Testbed.Action Testbed.Reply)} {result : Result}
    (run : Runs work exchanges result) : exchanges.filterMap sleptIn? = [] := by
  refine List.filterMap_eq_nil_iff.2 fun exchange member => ?_
  have other := sleepless exchanges result run exchange member
  obtain ⟨action, reply⟩ := exchange
  cases action
  case sleep => cases other
  all_goals rfl

/-- The sleeps of a retrieval that is carried out as work are its pauses, if nothing else in it
sleeps. -/
theorem sleptIn?_of_carried {fetch : Work (Except Failure Value)} {accepts : Value → Work Bool}
    {exchanges : List (Exchange Testbed.Action Testbed.Reply)} (fetches : Sleepless fetch)
    (judges : ∀ value, Sleepless (accepts value))
    (carried : Carried (uncancelled fetch accepts) own exchanges) :
    exchanges.filterMap sleptIn? = own.filterMap pausedIn? := by
  induction carried with
  | nil => rfl
  | cons action reply own before after first rest inductionHypothesis =>
    rw [List.filterMap_append, inductionHypothesis]
    cases action with
    | askCancelled =>
      obtain ⟨rfl, -⟩ := (runs_done_iff _ _ _).1 first
      rfl
    | fetch =>
      rw [fetches.sleptIn?_eq_nil first]
      rfl
    | judge value =>
      rw [(judges value).sleptIn?_eq_nil first]
      rfl
    | pause delay =>
      obtain ⟨_, slept, -⟩ := (runs_bind_done_iff _ _ _ _).1 first
      rw [(runs_ask_iff _ _ _).1 slept]
      rfl
    | note event =>
      rw [(runs_ask_iff _ _ _).1 first]
      rfl

/-! ### Pauses and budgets -/

/-- The sum of a budget's delays covers pauses, exactly if the budget is spent. -/
structure Covers (policy : Policy) (pauses : List Duration) (isSpent : Bool) : Prop where
  total_le :
    (Duration.clamp (Duration.total pauses)).nanoseconds ≤ policy.maxTotalDelay.nanoseconds
  total_eq : isSpent = true → Duration.clamp (Duration.total pauses) = policy.maxTotalDelay

theorem covers_of_runs_retrieval (run : Runs (retrieval describe policy) own outcome) :
    Covers policy (own.filterMap pausedIn?) outcome.isSpent := by
  obtain ⟨count, within, pauses, spent⟩ := pauses_of_runs_retrieval run
  rw [pauses]
  constructor
  · rw [policy.maxTotalDelay_eq]
    exact Duration.clamp_le_clamp
      (Duration.total_le_of_isPrefix (policy.backoff.delays_isPrefix 0 within))
  · intro isSpent
    rw [spent isSpent, policy.maxTotalDelay_eq]

theorem covers_of_runs_retrieveAccepted {fetch : Work (Except Failure Value)}
    {accepts : Value → Work Bool} {exchanges : List (Exchange Testbed.Action Testbed.Reply)}
    (fetches : Sleepless fetch) (judges : ∀ value, Sleepless (accepts value))
    (run : Runs (retrieveAccepted describe fetch accepts policy) exchanges outcome) :
    Covers policy (exchanges.filterMap sleptIn?) outcome.isSpent := by
  obtain ⟨own, run, carried⟩ := (runs_carriedOut_iff _ _ _).1 run
  rw [sleptIn?_of_carried fetches judges carried]
  exact covers_of_runs_retrieval run

/-- The sum of the delays of a budget is the exact one, cut off at the longest span once. More
attempts never make it less. It covers the pauses of every retrieval, whether something cancels it
or not, and those of one that spends its budget exactly; and so it covers the sleeps of a retrieval
that is carried out as work in which nothing else sleeps. A growing delay is never longer than the
greatest, and not shorter than those before it unless its factor is zero. -/
theorem maxTotalDelay_account (describe : Failure → String) (policy : Policy) :
    policy.maxTotalDelay =
      .clamp (Duration.total (policy.backoff.delays 0 (policy.attempts - 1))) ∧
    (∀ delay, policy.backoff = .fixed delay →
      policy.maxTotalDelay = .clamp ((policy.attempts - 1) * delay.nanoseconds)) ∧
    (∀ maxAttempts, policy.maxAttempts ≤ maxAttempts →
      policy.maxTotalDelay.nanoseconds ≤
        (Policy.mk maxAttempts policy.backoff).maxTotalDelay.nanoseconds) ∧
    (∀ own (outcome : Outcome Value Failure), Runs (retrieval describe policy) own outcome →
      Covers policy (own.filterMap pausedIn?) outcome.isSpent) ∧
    (∀ (fetch : Work (Except Failure Value)) (accepts : Value → Work Bool) exchanges outcome,
      Sleepless fetch → (∀ value, Sleepless (accepts value)) →
      Runs (retrieveAccepted describe fetch accepts policy) exchanges outcome →
        Covers policy (exchanges.filterMap sleptIn?) outcome.isSpent) ∧
    ∀ initial factor greatest, policy.backoff = .exponential initial factor greatest →
      (∀ attempt, (policy.backoff.delayAfter attempt).nanoseconds ≤ greatest.nanoseconds) ∧
      (1 ≤ factor → ∀ first second, first ≤ second →
        (policy.backoff.delayAfter first).nanoseconds ≤
          (policy.backoff.delayAfter second).nanoseconds) := by
  refine ⟨policy.maxTotalDelay_eq, fun delay same => ?_, fun maxAttempts more => ?_,
    fun own outcome => covers_of_runs_retrieval,
    fun fetch accepts exchanges outcome => covers_of_runs_retrieveAccepted,
    fun initial factor greatest same => ?_⟩
  · rw [policy.maxTotalDelay_eq, same, Backoff.delays_fixed, Duration.total_replicate]
  · exact Policy.maxTotalDelay_mono policy.backoff more
  · rw [same]
    exact ⟨Backoff.delayAfter_le initial factor greatest,
      fun positive first second => Backoff.delayAfter_mono initial greatest positive⟩

/-- Three attempts fail, with the longest whole seconds before the second and the third, so that the
sum is cut off. Delays that grow without a limit of their own follow each other. -/
theorem maxTotalDelay_account_cutOff :
    let longest : Duration := .ofSeconds 0xFFFFFFFFFFFFFFFF
    (Policy.fixed 3 longest).maxTotalDelay = .clamp (2 * longest.nanoseconds) ∧
    (Policy.fixed 3 longest).maxTotalDelay.nanoseconds ≤
      (Policy.fixed 4 longest).maxTotalDelay.nanoseconds ∧
    (∃ own, Runs (retrieval id (Policy.fixed 3 longest) : Part Nat String _) own
        (.failed "refused" none 3) ∧
      Duration.clamp (Duration.total (own.filterMap pausedIn?)) =
        (Policy.fixed 3 longest).maxTotalDelay) ∧
    (∃ exchanges, Runs (retrieveAccepted id (ask (.openAdmin "broker")) (fun _ => .done true)
          (Policy.fixed 3 longest)) exchanges (.failed "refused" none 3) ∧
      Duration.clamp (Duration.total (exchanges.filterMap sleptIn?)) =
        (Policy.fixed 3 longest).maxTotalDelay) ∧
    ((Policy.doubling 3 (.ofSeconds 1) longest).backoff.delayAfter 1).nanoseconds ≤
      ((Policy.doubling 3 (.ofSeconds 1) longest).backoff.delayAfter 70).nanoseconds := by
  intro longest
  obtain ⟨own, run⟩ : ∃ own, Runs (retrieval id (Policy.fixed 3 longest) : Part Nat String _) own
      (.failed "refused" none 3) :=
    ⟨_, runs_retrieval_transcript (Policy.fixed 3 longest) _
      (.failed [.failed "lost", .failed "late"] "refused" (by decide) rfl)⟩
  obtain ⟨exchanges, worked⟩ : ∃ exchanges,
      Runs (retrieveAccepted id (ask (.openAdmin "broker")) (fun _ => .done true)
        (Policy.fixed 3 longest)) exchanges (.failed "refused" none 3) := by
    refine exists_runs_act (.error "lost") (exists_runs_act () (exists_runs_act () ?_))
    refine exists_runs_act (.error "late") (exists_runs_act () (exists_runs_act () ?_))
    exact exists_runs_act (.error "refused") (exists_runs_act () (exists_runs_act () ⟨[], .done _⟩))
  obtain ⟨-, isFixed, more, paused, slept, -⟩ :=
    @maxTotalDelay_account Nat String id (Policy.fixed 3 longest)
  obtain ⟨-, -, -, -, -, grows⟩ :=
    @maxTotalDelay_account Nat String id (Policy.doubling 3 (.ofSeconds 1) longest)
  exact ⟨isFixed longest rfl, more 4 (by decide), ⟨own, run, (paused _ _ run).total_eq rfl⟩,
    ⟨exchanges, worked, (slept _ _ _ _ (avoids_ask _ rfl) (fun _ => avoids_done _) worked).total_eq
      rfl⟩, (grows _ 2 _ rfl).2 (by decide) 1 70 (by decide)⟩

end Poll

end Testbed
