import TronGateway.Proofs.PaymentRecord
import TronGateway.Proofs.Runner.History
import TronGateway.Proofs.Runner.Medium
set_option autoImplicit false

/-!
# Restarts

Runs that follow each other over one store, each from what the ones before it left there. A run that
reads the cursor goes on from it. One that finds none, be it that nothing has been stored or that
the store fails, starts at its configured height or at the final height, wherever the cursor is. No
height is left out as long as such a start passes over none.
-/

namespace TronGateway.Runner

theorem cursorOf_ofInt (cursor : Int64) :
    cursorOf (some (.ok (some (Decimal.ofInt cursor.toInt)))) = some cursor := by
  change (Cursor.parse (Decimal.ofInt cursor.toInt)).toOption = some cursor
  rw [Cursor.parse_ofInt]
  rfl

theorem ofInt_injective {first second : Int64}
    (same : Decimal.ofInt first.toInt = Decimal.ofInt second.toInt) : first = second := by
  have known := cursorOf_ofInt first
  rw [same, cursorOf_ofInt] at known
  cases known
  rfl

variable {chain : String} {World : Type}

/-- A run: how it is set up, the number of its steps, and the world that it begins in. -/
structure Session (World : Type) where
  startHeight : Int64
  maxHealthyLag : Int64
  fuel : Nat
  world : World

namespace Session

def settings (chain : String) (session : Session World) : Settings :=
  ⟨chain, session.startHeight, session.maxHealthyLag⟩

def log (medium : Medium chain World) (session : Session World) : List Event :=
  (observe medium.answer (session.settings chain) session.fuel session.world).2.2

def after (medium : Medium chain World) (session : Session World) : World :=
  (observe medium.answer (session.settings chain) session.fuel session.world).2.1

/-- The height that the run starts at, if it gets to one. -/
def start (medium : Medium chain World) (session : Session World) : Option Int64 :=
  resolvedStart (session.settings chain) (session.log medium)

def heights (medium : Medium chain World) (session : Session World) : List Int64 :=
  (session.log medium).filterMap Event.height?

def Writes (medium : Medium chain World) (session : Session World) (cursor : Int64) : Prop :=
  ∃ reply, .put (Cursor.key chain) (Decimal.ofInt cursor.toInt) reply ∈ session.log medium

/-- The store refuses to tell the cursor. -/
def ReadFails (medium : Medium chain World) (session : Session World) : Prop :=
  ∃ failure,
    (session.log medium).head? = some (.got (Cursor.key chain) (some (.error failure)))

def FindsNone (medium : Medium chain World) (session : Session World) : Prop :=
  ∃ reply, (session.log medium).head? = some (.got (Cursor.key chain) (some reply)) ∧
    cursorOf (some reply) = none

variable {medium : Medium chain World} {session : Session World}

theorem standing (medium : Medium chain World) (session : Session World) :
    Standing (Cursor.key chain) (medium.entry session.world) (session.log medium)
      (medium.entry (session.after medium)) :=
  medium.standing_observe (session.settings chain) session.fuel session.world

theorem sound (medium : Medium chain World) (session : Session World) :
    Sound (session.settings chain) (session.log medium) := by
  have nothing : Holds (session.settings chain) .starting [] := rfl
  obtain ⟨events, sound, ran⟩ := nothing.iterate medium.answer session.fuel session.world
  unfold log observe run
  rw [ran]
  exact sound

theorem scansFrom_of_start {height : Int64} (started : session.start medium = some height) :
    ScansFrom (session.settings chain) height (session.log medium) := by
  unfold start at started
  rcases session.sound medium with idle | ⟨own, scans⟩
  · rw [idle.unresolved] at started
    cases started
  · rw [scans.started] at started
    cases started
    exact scans

theorem quiet_of_no_start (unresolved : session.start medium = none) :
    ∀ event ∈ session.log medium, event.Quiet := by
  unfold start at unresolved
  rcases session.sound medium with idle | ⟨own, scans⟩
  · exact idle.quiet
  · rw [scans.started] at unresolved
    cases unresolved

theorem fetches_of_no_start (unresolved : session.start medium = none) :
    fetches (session.log medium) = [] :=
  List.filterMap_eq_nil_iff.mpr fun event member => (quiet_of_no_start unresolved event member).1

theorem earned_of_put {text : String} {reply : Option (Except Error Unit)}
    (member : .put (Cursor.key chain) text reply ∈ session.log medium) :
    ∃ height cursor : Int64, session.start medium = some height ∧
      text = Decimal.ofInt cursor.toInt ∧ ∀ between, height.toInt ≤ between →
        between < cursor.toInt → Completed (session.log medium) between := by
  cases started : session.start medium with
  | none => exact absurd rfl ((quiet_of_no_start started _ member).2.2 _ text reply)
  | some height =>
      obtain ⟨before, behind, split⟩ := List.append_of_mem member
      obtain ⟨cursor, -, written, -, completed⟩ :=
        (scansFrom_of_start started).earned before _ behind split
      refine ⟨height, cursor, rfl, written, fun between low high => ?_⟩
      rw [split]
      exact Completed.append (completed between low high) _

theorem log_begins (medium : Medium chain World) (session : Session World) :
    session.log medium = [] ∨
    ∃ reply rest, session.log medium = .got (Cursor.key chain) reply :: rest ∧
      ∀ text, reply = some (.ok text) → text = medium.entry session.world := by
  unfold log observe run
  cases session.fuel with
  | zero => exact Or.inl rfl
  | succ fuel =>
      refine Or.inr ?_
      have going : State.starting ≠ .stopped := by
        intro same
        cases same
      rw [iterate.eq_3 _ _ _ _ _ going, step, start_eq, Program.run]
      simp only [Program.noting]
      cases answered : medium.answer (.store (.get (Cursor.key (session.settings chain).chain)))
          session.world with
      | mk reply between =>
          have told (text : Option String) (same : reply = some (.ok text)) :
              text = medium.entry session.world :=
            medium.told session.world text ((congrArg Prod.fst answered).trans same)
          cases reply with
          | none => exact ⟨none, [], rfl, told⟩
          | some reply =>
              -- The steps after the first one only add to the log.
              obtain ⟨rest, extended⟩ := iterate_log medium.answer fuel
                (startingPoint (session.settings chain) reply) between
                [.got (Cursor.key chain) (some reply)]
              exact ⟨some reply, rest, extended, told⟩

theorem start_of_begins {reply : Except Error (Option String)} {rest : List Event}
    (begins : session.log medium = .got (Cursor.key chain) (some reply) :: rest) :
    session.start medium = match cursorOf (some reply) with
      | some cursor => some cursor
      | none =>
        if 0 < session.startHeight then some session.startHeight
        else (session.heights medium).head? := by
  unfold start heights
  rw [begins]
  rfl

theorem begins_of_start {height : Int64} (started : session.start medium = some height) :
    ∃ reply rest, session.log medium = .got (Cursor.key chain) (some reply) :: rest ∧
      ∀ text, reply = .ok text → text = medium.entry session.world := by
  unfold start at started
  rcases log_begins medium session with nothing | ⟨reply, rest, begins, told⟩
  · rw [nothing] at started
    cases started
  · rw [begins] at started
    cases reply with
    | none => cases started
    | some reply =>
        refine ⟨reply, rest, begins, fun text same => told text ?_⟩
        rw [same]

theorem resumes {cursor : Int64}
    (stored : medium.entry session.world = some (Decimal.ofInt cursor.toInt)) :
    session.ReadFails medium ∨ fetches (session.log medium) = [] ∨
      ScansFrom (session.settings chain) cursor (session.log medium) := by
  cases started : session.start medium with
  | none => exact Or.inr (Or.inl (fetches_of_no_start started))
  | some height =>
      obtain ⟨reply, rest, begins, told⟩ := begins_of_start started
      cases reply with
      | error failure =>
          refine Or.inl ⟨failure, ?_⟩
          rw [begins]
          rfl
      | ok text =>
          refine Or.inr (Or.inr (scansFrom_of_start ?_))
          rw [start_of_begins begins, told text rfl, stored, cursorOf_ofInt]

theorem start_of_findsNone (findsNone : session.FindsNone medium) : session.start medium =
    if 0 < session.startHeight then some session.startHeight
    else (session.heights medium).head? := by
  obtain ⟨reply, head, unknown⟩ := findsNone
  obtain ⟨rest, begins⟩ := List.head?_eq_some_iff.mp head
  rw [start_of_begins begins, unknown]

end Session

/-! ### Runs over one store -/

open Session

/-- Runs that follow each other: each begins in a world with the cursor that the ones before it left
in the store. -/
inductive Restarts (medium : Medium chain World) (before : Option String) :
    List (Session World) → Option String → Prop where
  | nothing : Restarts medium before [] before
  | next (session : Session World) {sessions : List (Session World)}
    (earlier : Restarts medium before sessions (medium.entry session.world)) :
    Restarts medium before (sessions ++ [session]) (medium.entry (session.after medium))

def history (medium : Medium chain World) (sessions : List (Session World)) : List Event :=
  sessions.flatMap (Session.log medium)

/-- Each run that finds no cursor starts at the height at most, or at most at a cursor that a run
before it has written. -/
def PassesOverNone (medium : Medium chain World) (height : Int64)
    (sessions : List (Session World)) : Prop :=
  ∀ earlier session later, sessions = earlier ++ session :: later → session.FindsNone medium →
    ∀ start, session.start medium = some start → start ≤ height ∨
      ∃ other ∈ earlier, ∃ cursor, other.Writes medium cursor ∧ start ≤ cursor

variable {medium : Medium chain World} {before after : Option String}
  {sessions : List (Session World)} {session : Session World}

theorem Restarts.standing (runs : Restarts medium before sessions after) :
    Standing (Cursor.key chain) before (history medium sessions) after := by
  induction runs with
  | nothing => exact .untouched
  | next session _ ih =>
      unfold history
      rw [List.flatMap_append, List.flatMap_singleton]
      exact ih.append (session.standing medium)

theorem Restarts.origin (runs : Restarts medium before sessions after) {cursor : Int64}
    (stored : cursorOf (some (.ok after)) = some cursor) :
    cursorOf (some (.ok before)) = some cursor ∨
      ∃ session ∈ sessions, session.Writes medium cursor := by
  rcases runs.standing.origin with rfl | ⟨text, reply, member, rfl⟩
  · exact Or.inl stored
  · obtain ⟨session, inside, member⟩ := List.mem_flatMap.mp member
    obtain ⟨height, written, -, rfl, -⟩ := session.earned_of_put member
    rw [cursorOf_ofInt] at stored
    cases stored
    exact Or.inr ⟨session, inside, reply, member⟩

theorem PassesOverNone.earlier {height : Int64} {more : List (Session World)}
    (passes : PassesOverNone medium height (sessions ++ more)) :
    PassesOverNone medium height sessions := by
  intro earlier session later split
  refine passes earlier session (later ++ more) ?_
  rw [split, List.append_assoc, List.cons_append]

theorem PassesOverNone.start_le {height start : Int64}
    (passes : PassesOverNone medium height (sessions ++ [session]))
    (runs : Restarts medium before sessions (medium.entry session.world))
    (above : ∀ cursor, cursorOf (some (.ok before)) = some cursor → cursor ≤ height)
    (started : session.start medium = some start) : start ≤ height ∨
      ∃ other ∈ sessions, ∃ cursor, other.Writes medium cursor ∧ start ≤ cursor := by
  obtain ⟨reply, rest, begins, told⟩ := begins_of_start started
  cases known : cursorOf (some reply) with
  | none =>
      refine passes sessions session [] rfl ⟨reply, ?_, known⟩ start started
      rw [begins]
      rfl
  | some cursor =>
      rw [start_of_begins begins, known] at started
      cases started
      cases reply with
      | error failure => cases known
      | ok text =>
          rw [told text rfl] at known
          rcases runs.origin known with first | ⟨other, member, writes⟩
          · exact Or.inl (above start first)
          · exact Or.inr ⟨other, member, start, writes, Int64.le_refl start⟩

theorem Restarts.completed (runs : Restarts medium before sessions after) {height : Int64}
    (above : ∀ cursor, cursorOf (some (.ok before)) = some cursor → cursor ≤ height)
    (passes : PassesOverNone medium height sessions) (member : session ∈ sessions) {cursor : Int64}
    (writes : session.Writes medium cursor) {between : Int} (low : height.toInt ≤ between)
    (high : between < cursor.toInt) :
    ∃ other ∈ sessions, Completed (other.log medium) between := by
  -- From the last run down: what its own start has left open lies below a cursor written before.
  induction runs generalizing session cursor with
  | nothing => cases member
  | @next last sessions earlier ih =>
      have before_last {other : Session World} {written : Int64} (inside : other ∈ sessions)
          (writes : other.Writes medium written) (high : between < written.toInt) :
          ∃ other ∈ sessions ++ [last], Completed (other.log medium) between := by
        obtain ⟨found, inside, completed⟩ := ih passes.earlier inside writes high
        exact ⟨found, List.mem_append_left _ inside, completed⟩
      rcases List.mem_append.mp member with inside | same
      · exact before_last inside writes high
      · have last_run := List.mem_singleton.mp same
        subst last_run
        obtain ⟨reply, put⟩ := writes
        obtain ⟨start, own, started, text, completed⟩ := session.earned_of_put put
        have exact_cursor : cursor = own := ofInt_injective text
        subst exact_cursor
        by_cases reached : start.toInt ≤ between
        · exact ⟨session, member, completed between reached high⟩
        · rcases passes.start_le earlier above started with
            below | ⟨other, inside, next, writes, below⟩
          · have := Int64.le_iff_toInt_le.mp below
            omega
          · have := Int64.le_iff_toInt_le.mp below
            exact before_last inside writes (by omega)

/-- With one configured height in all runs nothing behind it is left out, whatever fails. -/
theorem Restarts.completed_of_configured (runs : Restarts medium none sessions after)
    {height : Int64} (positive : 0 < height)
    (configured : ∀ session ∈ sessions, session.startHeight = height)
    (member : session ∈ sessions) {cursor : Int64} (writes : session.Writes medium cursor)
    {between : Int} (low : height.toInt ≤ between) (high : between < cursor.toInt) :
    ∃ other ∈ sessions, Completed (other.log medium) between := by
  have above : ∀ cursor, cursorOf (some (.ok none)) = some cursor → cursor ≤ height := by
    intro cursor known
    cases known
  have passes : PassesOverNone medium height sessions := by
    intro earlier session later split findsNone start started
    have inside : session ∈ sessions := by
      rw [split]
      exact List.mem_append_right _ List.mem_cons_self
    rw [start_of_findsNone findsNone, configured session inside, if_pos positive] at started
    cases started
    exact Or.inl (Int64.le_refl height)
  exact runs.completed above passes member writes low high

/-- The final height of a chain without transfers, and whether the store can be read. -/
structure Scene where
  final : Int64
  readable : Bool

namespace Scene

def fate : StoreCall → Scene → Fate
  | .get _, scene => if scene.readable then .answered else .failed (.database "store down") false
  | _, _ => .answered

def answer : (question : Question) → Scene → Option question.Answer × Scene
  | .store _, scene => (none, scene)
  | .height, scene => (some (.ok scene.final), scene)
  | .fetch _, scene => (some (.ok ⟨"TRON", [], false, false⟩), scene)
  | .setHealthy _, scene => (some (), scene)
  | .deliver _, scene => (some (.ok ()), scene)
  | .wait _, scene => (some .elapsed, scene)
  | .isStopped, scene => (some false, scene)

end Scene

def emptyBlocks : Medium "TRON" (Store × Scene) :=
  .onStore "TRON" Scene.fate Scene.answer

def firstRun (startHeight : Int64) (fuel : Nat) (scene : Scene) : Session (Store × Scene) :=
  ⟨startHeight, 30, fuel, (Store.empty, scene)⟩

def nextRun (earlier : Session (Store × Scene)) (scene : Scene) : Session (Store × Scene) :=
  ⟨0, 30, 4, ((earlier.after emptyBlocks).1, scene)⟩

/-- The run fetches the blocks 100 and 101, and leaves the cursor 102. -/
def steadyRun : Session (Store × Scene) := firstRun 100 4 ⟨101, true⟩

/-- The run starts at the final height 100, and ends before it has fetched a block. -/
def shortRun : Session (Store × Scene) := firstRun 0 3 ⟨100, true⟩

theorem restarts_nextRun (startHeight : Int64) (fuel : Nat) (scene next : Scene) :
    Restarts emptyBlocks none
      [firstRun startHeight fuel scene, nextRun (firstRun startHeight fuel scene) next]
      (emptyBlocks.entry ((nextRun (firstRun startHeight fuel scene) next).after emptyBlocks)) := by
  have first : Restarts emptyBlocks none ([] ++ [firstRun startHeight fuel scene]) _ :=
    .next _ .nothing
  exact .next (nextRun (firstRun startHeight fuel scene) next) first

theorem steadyRun_writes : steadyRun.Writes emptyBlocks 102 :=
  ⟨some (.ok ()), List.mem_of_getLast? (by rfl)⟩

theorem Completed.mem {log : List Event} {height : Int} (completed : Completed log height) :
    height ∈ (successes log).map fun found => found.1.toInt := by
  obtain ⟨fetched, report, same, found, -⟩ := completed
  exact List.mem_map.mpr ⟨(fetched, report), found, same⟩

/-! ### What restarts do -/

/-- Whatever fails, the store holds the cursor that the runs have left there, and a run that is told
it goes on from it; one that finds none starts as it is configured, else at the final height. From a
height over which no such start passes, as may be the start of the first run, no height up to a
later cursor is left out. -/
theorem restarts_resume_and_leave_no_gap (medium : Medium chain World)
    {before after : Option String} {sessions : List (Session World)}
    (runs : Restarts medium before sessions after) :
    Standing (Cursor.key chain) before (history medium sessions) after ∧
    (∀ next : Session World, medium.entry next.world = after →
      (∀ cursor : Int64, after = some (Decimal.ofInt cursor.toInt) →
        next.ReadFails medium ∨ fetches (next.log medium) = [] ∨
          ScansFrom (next.settings chain) cursor (next.log medium)) ∧
      (next.FindsNone medium → next.start medium =
        if 0 < next.startHeight then some next.startHeight else (next.heights medium).head?)) ∧
    ∀ height : Int64, (∀ cursor, cursorOf (some (.ok before)) = some cursor → cursor ≤ height) →
      PassesOverNone medium height sessions →
      ∀ session ∈ sessions, ∀ cursor : Int64, session.Writes medium cursor →
        ∀ between : Int, height.toInt ≤ between → between < cursor.toInt →
          ∃ other ∈ sessions, Completed (other.log medium) between := by
  refine ⟨runs.standing, ?_, ?_⟩
  · intro next begins
    refine ⟨fun cursor stored => ?_, start_of_findsNone⟩
    exact resumes (begins.trans stored)
  · intro height above passes session member cursor writes between low high
    exact runs.completed above passes member writes low high

/-- The second run goes on from the cursor of the first, and no block is left out. -/
theorem steadyRun_leaves_no_gap :
    Restarts emptyBlocks none [steadyRun, nextRun steadyRun ⟨103, true⟩] (some "104") ∧
    ∀ between : Int, 100 ≤ between → between < 104 →
      ∃ other ∈ [steadyRun, nextRun steadyRun ⟨103, true⟩],
        Completed (other.log emptyBlocks) between := by
  have runs : Restarts emptyBlocks none [steadyRun, nextRun steadyRun ⟨103, true⟩] (some "104") :=
    restarts_nextRun 100 4 ⟨101, true⟩ ⟨103, true⟩
  have passes : PassesOverNone emptyBlocks 100 [steadyRun, nextRun steadyRun ⟨103, true⟩] := by
    intro earlier session later split findsNone start started
    rcases earlier with _ | ⟨first, _ | ⟨second, rest⟩⟩
    · cases split
      cases started
      exact Or.inl (Int64.le_refl 100)
    · cases split
      cases started
      exact Or.inr ⟨steadyRun, List.mem_cons_self, 102, steadyRun_writes, Int64.le_refl 102⟩
    · have lengths := congrArg List.length split
      simp only [List.length_cons, List.length_append, List.length_nil] at lengths
      omega
  have writes : (nextRun steadyRun ⟨103, true⟩).Writes emptyBlocks 104 :=
    ⟨some (.ok ()), List.mem_of_getLast? (by rfl)⟩
  refine ⟨runs, ?_⟩
  refine (restarts_resume_and_leave_no_gap emptyBlocks runs).2.2 100 ?_ passes _ ?_ 104 writes
  · intro cursor known
    cases known
  · exact List.mem_cons_of_mem _ List.mem_cons_self

/-- Where the store cannot be read, or nothing has been stored yet, the next run starts at the final
height, and the blocks from the cursor or from the first start up to there are never fetched. -/
theorem nextRun_passes_over_heights :
    (Restarts emptyBlocks none [steadyRun, nextRun steadyRun ⟨200, false⟩] (some "201") ∧
      emptyBlocks.entry (nextRun steadyRun ⟨200, false⟩).world = some "102" ∧
      (nextRun steadyRun ⟨200, false⟩).start emptyBlocks = some 200 ∧
      (nextRun steadyRun ⟨200, false⟩).Writes emptyBlocks 201 ∧
      ∀ run ∈ [steadyRun, nextRun steadyRun ⟨200, false⟩],
        ¬ Completed (run.log emptyBlocks) 150) ∧
    Restarts emptyBlocks none [shortRun, nextRun shortRun ⟨200, true⟩] (some "201") ∧
      shortRun.start emptyBlocks = some 100 ∧
      (nextRun shortRun ⟨200, true⟩).start emptyBlocks = some 200 ∧
      (nextRun shortRun ⟨200, true⟩).Writes emptyBlocks 201 ∧
      ∀ run ∈ [shortRun, nextRun shortRun ⟨200, true⟩],
        ¬ Completed (run.log emptyBlocks) 150 := by
  have unread := restarts_nextRun 100 4 ⟨101, true⟩ ⟨200, false⟩
  have unwritten := restarts_nextRun 0 3 ⟨100, true⟩ ⟨200, true⟩
  have unreadWrites : (nextRun steadyRun ⟨200, false⟩).Writes emptyBlocks 201 :=
    ⟨some (.ok ()), List.mem_of_getLast? (by rfl)⟩
  have unwrittenWrites : (nextRun shortRun ⟨200, true⟩).Writes emptyBlocks 201 :=
    ⟨some (.ok ()), List.mem_of_getLast? (by rfl)⟩
  refine ⟨⟨unread, by rfl, by rfl, unreadWrites, ?_⟩,
    unwritten, by rfl, by rfl, unwrittenWrites, ?_⟩
  · intro run member completed
    have found := completed.mem
    rcases List.mem_pair.mp member with rfl | rfl
    · exact absurd found (by decide +kernel)
    · exact absurd found (by decide +kernel)
  · intro run member completed
    have found := completed.mem
    rcases List.mem_pair.mp member with rfl | rfl
    · exact absurd found (by decide +kernel)
    · exact absurd found (by decide +kernel)

end TronGateway.Runner
