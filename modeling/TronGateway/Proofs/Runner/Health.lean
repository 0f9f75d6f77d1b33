import TronGateway.Proofs.Runner.Signs
import TronGateway.Proofs.Runner.Unhealthy
set_option autoImplicit false

/-!
# The health of the scanner along a run

Nothing but the runner touches the flag, so that the flag behind a step follows from the flag before
it and from what the step left behind. A scanner that has become unhealthy is healthy again only
behind a completed height that is close enough to the last final height that was read.
-/

namespace TronGateway.Runner

open Program (Leaves)

variable {settings : Settings} {signs : List Sign}

section Flag

variable {Rest : Type} {respond : (question : TronGateway.Question) → Rest →
    Option question.Answer × Rest} {tokens : List Token}

def KeepsHealth (question : TronGateway.Question) : Prop :=
  ∀ healthy, question ≠ .remember (.health healthy)

theorem healthy_answer {question : TronGateway.Question} (keeps : KeepsHealth question)
    (world : World Rest) :
    (World.answer respond question world).2.memory.healthy = world.memory.healthy := by
  rcases World.memory_answer question world with same | ⟨change, rfl, changed⟩
  · rw [same]
  · rw [changed]
    cases change with
    | health healthy => exact absurd rfl (keeps healthy)
    | _ => rfl

theorem keepsHealth_of_surveying {question : TronGateway.Question}
    (surveying : Scanner.IsSurveying question) : KeepsHealth question := by
  rintro healthy rfl
  exact surveying.elim False.elim False.elim

theorem asks_keepsHealth {question : Question}
    (other : ∀ healthy, question ≠ .setHealthy healthy) :
    (onScanner tokens question).Asks KeepsHealth := by
  cases question with
  | setHealthy healthy => exact absurd rfl (other healthy)
  | height => exact Scanner.height_asks nofun
  | fetch height =>
      change (Scanner.fetch tokens height).run.Asks KeepsHealth
      rw [Scanner.run_fetch]
      refine .ask _ _ nofun fun reply => ?_
      cases reply with
      | error failure => exact .done _
      | ok block =>
          have surveys : (Scanner.survey tokens height block).Asks KeepsHealth :=
            (Scanner.asks_survey block).mono fun _ => keepsHealth_of_surveying
          exact surveys.bind fun transfers => .ask _ _ nofun fun _ => .done _
  | _ => exact .ask _ _ nofun fun _ => .done _

theorem healthy_run {α : Type} {activity : Activity α} (asks : activity.Asks KeepsHealth)
    (world : World Rest) :
    (activity.run (World.answer respond) world).2.memory.healthy = world.memory.healthy := by
  have kept : ∀ question state, KeepsHealth question →
      state.memory.healthy = world.memory.healthy →
      (World.answer respond question state).2.memory.healthy = world.memory.healthy :=
    fun _ state keeps same => (healthy_answer keeps state).trans same
  exact asks.keeps kept rfl

theorem healthy_onWorld {question : Question}
    (other : ∀ healthy, question ≠ .setHealthy healthy) (world : World Rest) :
    (onWorld respond tokens question world).2.memory.healthy = world.memory.healthy := by
  rw [Program.served_snd]
  exact healthy_run (asks_keepsHealth other) world

theorem asks_recheck : (Scanner.recheck tokens).Asks KeepsHealth := by
  unfold Scanner.recheck
  refine .bind (.ask _ _ nofun fun _ => .done _) fun memory => ?_
  by_cases healthy : memory.healthy
  · rw [if_pos healthy]
    exact .done _
  · rw [if_neg healthy]
    refine .bind (.ask _ _ nofun fun _ => .done _) fun setting => ?_
    cases setting with
    | error failure => exact .done _
    | ok setting =>
        dsimp only
        by_cases off : 0 < setting
        · rw [if_pos off]
          exact .done _
        · rw [if_neg off]
          have asks : Scanner.height.run.Asks KeepsHealth := Scanner.height_asks nofun
          refine asks.bind fun final => ?_
          cases final with
          | error failure => exact .done _
          | ok final =>
              refine (Program.Asks.check _).bind fun due => ?_
              have reports : (Scanner.reportSolvency tokens due).run.Asks KeepsHealth :=
                (Scanner.asks_reportSolvency tokens due).mono fun _ reporting =>
                  keepsHealth_of_surveying (.inr reporting)
              exact reports.bind fun _ => .done _

def IsTold (before : Bool) (state : World Rest × List Sign) : Prop :=
  state.1.memory.healthy = lastTold before state.2

theorem IsTold.noting {before : Bool} (question : Question) (state : World Rest × List Sign)
    (told : IsTold before state) :
    IsTold before (Program.noting watch (onWorld respond tokens) question state).2 := by
  obtain ⟨world, signs⟩ := state
  have known : world.memory.healthy = lastTold before signs := told
  by_cases tells : ∃ healthy, question = .setHealthy healthy
  · obtain ⟨healthy, rfl⟩ := tells
    change healthy = lastTold before (signs ++ [.told healthy])
    rw [lastTold_append]
    rfl
  · have other := not_exists.mp tells
    change (onWorld respond tokens question world).2.memory.healthy =
      lastTold before (signs ++ (watch question (onWorld respond tokens question world).1).toList)
    rw [healthy_onWorld other, known, lastTold_append, lastTold_watch other]

theorem run_watching (respond : (question : TronGateway.Question) → Rest →
    Option question.Answer × Rest) (tokens : List Token) (settings : Settings) (state : State)
    (world : World Rest) (log : List Event) :
    ∃ signs outcome after, Leaves watch (step settings state) signs outcome ∧
      after.memory.healthy = lastTold world.memory.healthy signs ∧
      (step settings state).run (Program.noting see (onWorld respond tokens)) (world, log) =
        (outcome, after, log ++ signs.filterMap Sign.event?) := by
  -- The signs begin with those of the log, so that the events of the step end up behind it.
  obtain ⟨signs, leaves, ran⟩ := Program.run_noting (onWorld respond tokens) (step settings state)
    (world, log.map Sign.left)
  have held : IsTold world.memory.healthy (world, log.map Sign.left) := (lastTold_left _ log).symm
  have told : IsTold world.memory.healthy ((step settings state).run
      (Program.noting watch (onWorld respond tokens)) (world, log.map Sign.left)).2 :=
    (asks_step settings state).keeps (fun question state _ told => told.noting question state) held
  have same : ∀ question (state : World Rest × List Sign),
      Program.noting see (onWorld respond tokens) question
          (state.1, state.2.filterMap Sign.event?) =
        ((Program.noting watch (onWorld respond tokens) question state).1,
          ((Program.noting watch (onWorld respond tokens) question state).2.1,
            (Program.noting watch (onWorld respond tokens) question state).2.2.filterMap
              Sign.event?)) := by
    intro question state
    unfold Program.noting
    rw [see_eq_watch, List.filterMap_append]
  have projected := Program.run_project same (step settings state) (world, log.map Sign.left)
  rw [ran] at told projected
  dsimp only at leaves told projected
  rw [filterMap_left, List.filterMap_append, filterMap_left] at projected
  refine ⟨signs, _, ((step settings state).run (onWorld respond tokens) world).2, leaves, ?_,
    projected⟩
  rw [told, lastTold_append, lastTold_left]

end Flag

/-! ### Steps in a run -/

section Run

variable {Asked World : Type} {Answer : Asked → Type}
  {answer : (question : Asked) → World → Option (Answer question) × World}
  {step : State → Program Answer State}

theorem iterate_succ_of_finished {fuel : Nat} {state next : State} {world after : World}
    (ran : iterate answer step fuel state world = (.finished next, after))
    (going : next ≠ .stopped) :
    iterate answer step (fuel + 1) state world = (step next).run answer after := by
  induction fuel generalizing state world with
  | zero =>
      cases ran
      rw [iterate.eq_3 _ _ _ _ _ going]
      rcases (step next).run answer after with ⟨last | overflow | _, ended⟩
      · rfl
      · rfl
      · rfl
  | succ fuel ih =>
      by_cases halted : state = .stopped
      · subst halted
        cases ran
        exact absurd rfl going
      · rw [iterate.eq_3 _ _ _ _ _ halted] at ran ⊢
        rcases stepped : (step state).run answer world with ⟨last | overflow | _, between⟩
        · rw [stepped] at ran
          exact ih ran
        · rw [stepped] at ran
          cases ran
        · rw [stepped] at ran
          cases ran

theorem iterate_succ_of_ended {fuel : Nat} {state : State} {world : World}
    (ended : ∀ next, (iterate answer step fuel state world).1 = .finished next →
      next = .stopped) :
    iterate answer step (fuel + 1) state world = iterate answer step fuel state world := by
  induction fuel generalizing state world with
  | zero =>
      cases ended state rfl
      rfl
  | succ fuel ih =>
      by_cases halted : state = .stopped
      · subst halted
        rfl
      · rw [iterate.eq_3 _ _ _ _ _ halted] at ended ⊢
        rw [iterate.eq_3 _ _ _ _ _ halted]
        rcases stepped : (step state).run answer world with ⟨last | overflow | _, between⟩
        · rw [stepped] at ended
          exact ih ended
        · rfl
        · rfl

end Run

section Observe

variable {World : Type} {answer : (question : Question) → World → Option question.Answer × World}
  {settings : Settings} {count : Nat} {world after : World}

/-- The run makes no step behind its first `count` ones. -/
def HasEnded (answer : (question : Question) → World → Option question.Answer × World)
    (settings : Settings) (count : Nat) (world : World) : Prop :=
  ∀ next, (observe answer settings count world).1 = .finished next → next = .stopped

theorem ended_or_going
    (answer : (question : Question) → World → Option question.Answer × World)
    (settings : Settings) (count : Nat) (world : World) :
    HasEnded answer settings count world ∨ ∃ state before log,
      observe answer settings count world = (.finished state, before, log) ∧ state ≠ .stopped := by
  rcases ran : observe answer settings count world with ⟨outcome, before, log⟩
  by_cases going : ∃ state, outcome = .finished state ∧ state ≠ .stopped
  · obtain ⟨state, rfl, going⟩ := going
    exact .inr ⟨state, before, log, rfl, going⟩
  · refine .inl fun next same => ?_
    rw [ran] at same
    by_contra more
    exact going ⟨next, same, more⟩

theorem observe_succ_of_ended (ended : HasEnded answer settings count world) :
    observe answer settings (count + 1) world = observe answer settings count world :=
  iterate_succ_of_ended ended

theorem observe_succ_of_finished {state : State} {before : World} {log : List Event}
    (ran : observe answer settings count world = (.finished state, before, log))
    (going : state ≠ .stopped) :
    observe answer settings (count + 1) world =
      (step settings state).run (Program.noting see answer) (before, log) :=
  iterate_succ_of_finished ran going

theorem holds_observe {outcome : Outcome State} {log : List Event}
    (ran : observe answer settings count world = (outcome, after, log)) :
    HoldsAfter settings outcome log := by
  induction count generalizing outcome after log with
  | zero =>
      cases ran
      rfl
  | succ count ih =>
      rcases ended_or_going answer settings count world with
        ended | ⟨state, before, known, earlier, going⟩
      · rw [observe_succ_of_ended ended] at ran
        exact ih ran
      · obtain ⟨events, leaves, noted⟩ :=
          Program.run_noting answer (step settings state) (before, known)
        rw [observe_succ_of_finished earlier going, noted] at ran
        cases ran
        have held : Holds settings state known := ih earlier
        exact held.step (steps_of_leaves going leaves)

end Observe

/-! ### Strides -/

/-- One step of a run: what there was before it, how it ended, and what there is behind it. -/
structure Stride (Rest : Type) where
  state : State
  before : World Rest
  log : List Event
  outcome : Outcome State
  after : World Rest
  events : List Event

section Strides

variable {Rest : Type}

/-- The step that a run of the runner over the scanner makes behind its first `count` ones. -/
structure IsStride (respond : (question : TronGateway.Question) → Rest →
    Option question.Answer × Rest) (tokens : List Token) (settings : Settings) (world : World Rest)
    (count : Nat) (stride : Stride Rest) : Prop where
  began : observe (onWorld respond tokens) settings count world =
    (.finished stride.state, stride.before, stride.log)
  going : stride.state ≠ .stopped
  ended : observe (onWorld respond tokens) settings (count + 1) world =
    (stride.outcome, stride.after, stride.log ++ stride.events)

namespace Stride

def Fails (stride : Stride Rest) : Prop :=
  ∃ event ∈ stride.events, event.Fails stride.state

/-- The store has replied to the cursor behind a height, be it with a failure. -/
def Completes (stride : Stride Rest) : Prop :=
  ∃ event ∈ stride.events, event.Completes

/-- The step completed the height `cursor`, with `final` the last final height that was read. -/
structure Advances (settings : Settings) (stride : Stride Rest) (cursor final next : Int64) :
    Prop where
  scanning : stride.state = .scanning cursor final
  last : lastHeight stride.log = some final
  follows : next.toInt = cursor.toInt + 1
  fetched : ∃ report, .fetched cursor (some (.ok report)) ∈ stride.events
  stored : ∃ reply, storing settings next (some reply) ∈ stride.events

/-- The flag behind a step. A distance of more than 64 bits ends the run and leaves the flag. -/
structure Follows (settings : Settings) (stride : Stride Rest) : Prop where
  failed : stride.Fails → stride.after.memory.healthy = false
  completed : stride.Completes → ∃ cursor final next, stride.Advances settings cursor final next ∧
    (fitsInt64 (final.toInt - next.toInt) = true → stride.after.memory.healthy =
      decide (final.toInt - next.toInt ≤ settings.maxHealthyLag.toInt)) ∧
    (fitsInt64 (final.toInt - next.toInt) = false →
      stride.outcome = .overflowed .subtract ∧
        stride.after.memory.healthy = stride.before.memory.healthy)
  otherwise : ¬ stride.Fails → ¬ stride.Completes →
    stride.after.memory.healthy = stride.before.memory.healthy

/-- The step completed a height within the lag of the last final height that was read. -/
def CatchesUp (settings : Settings) (stride : Stride Rest) : Prop :=
  stride.Completes ∧ ∃ cursor final next, stride.Advances settings cursor final next ∧
    final.toInt - next.toInt ≤ settings.maxHealthyLag.toInt

variable {stride : Stride Rest} {cursor final next : Int64} {report : BlockReport}
  {reply : Except Error Unit}

theorem not_fails_of_completion (scanning : stride.state = .scanning cursor final)
    (left : stride.events = completion settings cursor next report reply) : ¬ stride.Fails := by
  rintro ⟨event, member, fails⟩
  rw [left] at member
  rw [scanning] at fails
  rcases List.mem_append.mp member with taken | last
  · exact (calm_taking taken).1 fails
  · rw [List.mem_singleton.mp last] at fails
    exact fails

theorem completes_of_completion
    (left : stride.events = completion settings cursor next report reply) : stride.Completes := by
  refine ⟨storing settings next (some reply), ?_, trivial⟩
  rw [left]
  exact List.mem_append_right _ List.mem_cons_self

theorem advances_of_completion (scanning : stride.state = .scanning cursor final)
    (last : lastHeight stride.log = some final) (follows : next.toInt = cursor.toInt + 1)
    (left : stride.events = completion settings cursor next report reply) :
    stride.Advances settings cursor final next where
  scanning := scanning
  last := last
  follows := follows
  fetched := ⟨report, left ▸ List.mem_cons_self⟩
  stored := ⟨reply, left ▸ List.mem_append_right _ List.mem_cons_self⟩

theorem follows_of_failure {event : Event} (left : stride.events = [event])
    (fails : event.Fails stride.state) (ends : ¬ event.Completes)
    (told : stride.after.memory.healthy = false) : stride.Follows settings := by
  have failed : stride.Fails := ⟨event, left ▸ List.mem_cons_self, fails⟩
  refine ⟨fun _ => told, ?_, fun sound _ => absurd failed sound⟩
  rintro ⟨other, member, completes⟩
  rw [left] at member
  exact absurd (List.mem_singleton.mp member ▸ completes) ends

theorem follows_of_tells (tells : Tells settings stride.state signs stride.outcome)
    (last : ∀ cursor final, stride.state = .scanning cursor final →
      lastHeight stride.log = some final)
    (left : stride.events = signs.filterMap Sign.event?)
    (told : stride.after.memory.healthy = lastTold stride.before.memory.healthy signs) :
    stride.Follows settings := by
  obtain ⟨state, before, log, outcome, after, events⟩ := stride
  dsimp only at tells last left told
  cases tells with
  | nothing events calm =>
      rw [filterMap_left] at left
      rw [lastTold_left] at told
      subst left
      refine ⟨?_, ?_, fun _ _ => told⟩
      · rintro ⟨event, member, fails⟩
        exact absurd fails (calm event member).1
      · rintro ⟨event, member, completes⟩
        exact absurd completes (calm event member).2
  | heightFailed cursor failure => exact follows_of_failure left trivial id told
  | fetchFailed cursor final failure => exact follows_of_failure left trivial id told
  | completed cursor final next lag report reply follows lagged =>
      rw [List.filterMap_append, filterMap_left, List.filterMap_cons_none rfl, List.filterMap_nil,
        List.append_nil] at left
      rw [lastTold_append, lastTold_left] at told
      refine ⟨fun fails => absurd fails (not_fails_of_completion rfl left), fun _ => ?_,
        fun _ calm => absurd (completes_of_completion left) calm⟩
      refine ⟨cursor, final, next,
        advances_of_completion rfl (last cursor final rfl) follows left, fun _ => ?_, ?_⟩
      · rw [← Checked.toInt_of_sub lagged, told]
        exact decide_eq_decide.mpr Int64.le_iff_toInt_le
      · intro far
        cases lagged.symm.trans (Checked.signed_eq_error_iff.mpr ⟨far, rfl⟩)
  | tooFar cursor final next report reply overflow follows far =>
      rw [filterMap_left] at left
      rw [lastTold_left] at told
      obtain ⟨outside, rfl⟩ := Checked.signed_eq_error_iff.mp far
      refine ⟨fun fails => absurd fails (not_fails_of_completion rfl left), fun _ => ?_,
        fun _ calm => absurd (completes_of_completion left) calm⟩
      refine ⟨cursor, final, next,
        advances_of_completion rfl (last cursor final rfl) follows left, ?_, fun _ => ⟨rfl, told⟩⟩
      intro fits
      cases outside.symm.trans fits

theorem Follows.catchesUp (follows : stride.Follows settings)
    (unhealthy : stride.before.memory.healthy = false)
    (recovered : stride.after.memory.healthy = true) : stride.CatchesUp settings := by
  have moved : stride.after.memory.healthy ≠ stride.before.memory.healthy := by
    rw [unhealthy, recovered]
    nofun
  have sound : ¬ stride.Fails := fun fails => by
    rw [follows.failed fails] at recovered
    cases recovered
  have completes : stride.Completes := by
    by_contra none
    exact moved (follows.otherwise sound none)
  obtain ⟨cursor, final, next, advances, near, far⟩ := follows.completed completes
  cases fits : fitsInt64 (final.toInt - next.toInt) with
  | true =>
      rw [near fits] at recovered
      exact ⟨completes, cursor, final, next, advances, of_decide_eq_true recovered⟩
  | false => exact absurd (far fits).2 moved

end Stride

variable {respond : (question : TronGateway.Question) → Rest → Option question.Answer × Rest}
  {tokens : List Token} {settings : Settings} {world : World Rest} {count : Nat}

theorem IsStride.follows {stride : Stride Rest}
    (made : IsStride respond tokens settings world count stride) : stride.Follows settings := by
  obtain ⟨signs, outcome, after, leaves, told, ran⟩ :=
    run_watching respond tokens settings stride.state stride.before stride.log
  have ended := made.ended
  have began := made.began
  have held : Holds settings stride.state stride.log := holds_observe began
  rw [observe_succ_of_finished began made.going, ran] at ended
  injection ended with sameOutcome behind
  injection behind with sameAfter sameLog
  subst sameOutcome sameAfter
  refine Stride.follows_of_tells (tells_of_leaves leaves) ?_
    (List.append_cancel_left sameLog).symm told
  intro cursor final scanning
  rw [scanning] at held
  obtain ⟨start, progress, last⟩ := held
  exact last

theorem exists_stride {state : State} {before : World Rest} {log : List Event}
    (ran : observe (onWorld respond tokens) settings count world = (.finished state, before, log))
    (going : state ≠ .stopped) :
    ∃ stride, IsStride respond tokens settings world count stride := by
  obtain ⟨signs, outcome, after, leaves, told, stepped⟩ :=
    run_watching respond tokens settings state before log
  refine ⟨⟨state, before, log, outcome, after, signs.filterMap Sign.event?⟩, ran, going, ?_⟩
  rw [observe_succ_of_finished ran going, stepped]

/-! ### The flag along a run -/

/-- The flag of the scanner after at most `count` steps of its runner. -/
def healthyAfter (respond : (question : TronGateway.Question) → Rest →
    Option question.Answer × Rest) (tokens : List Token) (settings : Settings) (world : World Rest)
    (count : Nat) : Bool :=
  (iterate (World.answer respond) (scanStep settings tokens) count .starting
    world).2.memory.healthy

theorem healthyAfter_eq (count : Nat) : healthyAfter respond tokens settings world count =
    (observe (onWorld respond tokens) settings count world).2.1.memory.healthy := by
  have relayed := iterate_relay (onScanner tokens) (World.answer respond) (step settings) count
    .starting world
  have same : ∀ question (state : World Rest × List Event),
      onWorld respond tokens question state.1 =
        ((Program.noting see (onWorld respond tokens) question state).1,
          (Program.noting see (onWorld respond tokens) question state).2.1) := fun _ _ => rfl
  have noted := iterate_project same (step settings) count .starting (world, [])
  exact congrArg (fun world => world.memory.healthy) (relayed.trans noted)

theorem healthyAfter_succ_of_ended
    (ended : HasEnded (onWorld respond tokens) settings count world) :
    healthyAfter respond tokens settings world (count + 1) =
      healthyAfter respond tokens settings world count := by
  rw [healthyAfter_eq, healthyAfter_eq, observe_succ_of_ended ended]

theorem ended_or_stride
    (respond : (question : TronGateway.Question) → Rest → Option question.Answer × Rest)
    (tokens : List Token) (settings : Settings) (world : World Rest) (count : Nat) :
    HasEnded (onWorld respond tokens) settings count world ∨
    ∃ stride, IsStride respond tokens settings world count stride ∧
      stride.before.memory.healthy = healthyAfter respond tokens settings world count ∧
      stride.after.memory.healthy = healthyAfter respond tokens settings world (count + 1) := by
  rcases ended_or_going (onWorld respond tokens) settings count world with
    ended | ⟨state, before, log, ran, going⟩
  · exact .inl ended
  · obtain ⟨stride, made⟩ := exists_stride ran going
    refine .inr ⟨stride, made, ?_, ?_⟩
    · rw [healthyAfter_eq, made.began]
    · rw [healthyAfter_eq, made.ended]

theorem catchesUp_between {earlier later : Nat} (ordered : earlier ≤ later)
    (unhealthy : healthyAfter respond tokens settings world earlier = false)
    (recovered : healthyAfter respond tokens settings world later = true) :
    ∃ count stride, earlier ≤ count ∧ count < later ∧
      IsStride respond tokens settings world count stride ∧ stride.CatchesUp settings := by
  induction later, ordered using Nat.le_induction with
  | base =>
      rw [unhealthy] at recovered
      cases recovered
  | succ later ordered ih =>
      cases known : healthyAfter respond tokens settings world later with
      | true =>
          obtain ⟨count, stride, behind, before, made⟩ := ih known
          exact ⟨count, stride, behind, Nat.lt_succ_of_lt before, made⟩
      | false =>
          -- The flag turns at the last step.
          rcases ended_or_stride respond tokens settings world later with
            ended | ⟨stride, made, was, is⟩
          · rw [healthyAfter_succ_of_ended ended, known] at recovered
            cases recovered
          · exact ⟨later, stride, ordered, Nat.lt_succ_self later, made,
              made.follows.catchesUp (was.trans known) (is.trans recovered)⟩

/-- In a run of the runner over the scanner, from any start and whatever fails, the flag of the
scanner is false behind each failed query for the final height between two beats and behind each
failed fetch; behind a completed height it says whether the new cursor is within the lag of the last
final height that was read; and every other step leaves it. So a scanner that is healthy again has
completed a height within the lag since. A query that fails while the start is sought is one of the
other steps, and a completed height whose distance overflows leaves the flag too and ends the run.
The rounds beside the runner do not touch the flag. -/
theorem healthy_after_each_step
    (respond : (question : TronGateway.Question) → Rest → Option question.Answer × Rest)
    (tokens : List Token) (settings : Settings) (world : World Rest) :
    (∀ count,
      (HasEnded (onWorld respond tokens) settings count world ∧
        healthyAfter respond tokens settings world (count + 1) =
          healthyAfter respond tokens settings world count) ∨
      ∃ stride, IsStride respond tokens settings world count stride ∧
        stride.before.memory.healthy = healthyAfter respond tokens settings world count ∧
        stride.after.memory.healthy = healthyAfter respond tokens settings world (count + 1) ∧
        stride.Follows settings) ∧
    (∀ earlier later, earlier ≤ later →
      healthyAfter respond tokens settings world earlier = false →
      healthyAfter respond tokens settings world later = true →
      ∃ count stride, earlier ≤ count ∧ count < later ∧
        IsStride respond tokens settings world count stride ∧ stride.CatchesUp settings) ∧
    ∀ place, ((Scanner.recheck tokens).run (World.answer respond) place).2.memory.healthy =
      place.memory.healthy := by
  refine ⟨fun count => ?_, fun _ _ => catchesUp_between, healthy_run asks_recheck⟩
  rcases ended_or_stride respond tokens settings world count with ended | ⟨stride, made, was, is⟩
  · exact .inl ⟨ended, healthyAfter_succ_of_ended ended⟩
  · exact .inr ⟨stride, made, was, is, made.follows⟩

end Strides

/-- The node does not tell its height at first; then the scanner catches up. -/
theorem healthy_after_each_step_from_181 :
    ∃ count stride, 2 ≤ count ∧ count < 4 ∧
      IsStride lateRest [] ⟨"TRON", 181, 30⟩ (.opening false) count stride ∧
      stride.CatchesUp ⟨"TRON", 181, 30⟩ := by
  have recovers := (healthy_after_each_step lateRest [] ⟨"TRON", 181, 30⟩ (.opening false)).2.1
  exact recovers 2 4 (by decide) rfl rfl

/-- A failed query leaves the scanner healthy where it was made to find the start. -/
theorem healthy_behind_failed_start :
    ∃ stride failure, IsStride lateRest [] ⟨"TRON", 0, 30⟩ (.opening false) 1 stride ∧
      .measured (some (.error failure)) ∈ stride.events ∧
      healthyAfter lateRest [] ⟨"TRON", 0, 30⟩ (.opening false) 2 = true := by
  refine ⟨⟨.seeking, _, _, .finished .seeking, _, [.measured (some (.error .settings))]⟩,
    .settings, ⟨rfl, nofun, rfl⟩, List.mem_cons_self, rfl⟩

end TronGateway.Runner
