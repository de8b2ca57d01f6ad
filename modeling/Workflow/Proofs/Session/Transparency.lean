import Workflow.Proofs.Session.Abandoned
import Workflow.Proofs.Session.DepthFirst
import Workflow.Proofs.Session.PlainInput

/-!
# Breakpoints are transparent

A turn that hands out a task for its breakpoint changes nothing but a mark, and what the next turn
does is what this one would have done without the breakpoint.  So a session with breakpoints, each
pull of which is repeated until it comes to more than a breakpoint, goes through what the plain
session goes through: `Session.SideBySide` drives the two alike, and the second one without its
breakpoints is always the first.
-/

namespace Workflow.Session

/-- Whether a task is one that waits for the program around the session. -/
def awaits (s : Session) (id : TaskId) : Bool :=
  (s.taskAt? id).any Task.requiresInput

/-- The innermost flow has a child that is still to be handed out for its breakpoint. -/
def Interrupts (s : Session) : Prop :=
  ∃ scope id flow child inner, s.AtChild scope id flow child inner ∧ child.interrupted = false ∧
    s.settings.breakpoints.contains inner.name = true

/-- A pull comes to an answer, whatever number of turns it is allowed. -/
def Pulls (s : Session) (answer : Pull) (s' : Session) : Prop :=
  ∃ turns, s.pullWithin turns = (answer, s') ∧ answer ≠ .unfinished

/-- A pull is repeated for as long as it hands out a task that waits for nothing. -/
inductive PullsThrough : Session → Pull → Session → Prop
  | answered {s s' : Session} {answer : Pull} (hpull : s.Pulls answer s')
      (hinput : ∀ id, answer = .task id → s'.awaits id = true) : PullsThrough s answer s'
  | passed {s r s' : Session} {id : TaskId} {answer : Pull} (hpull : s.Pulls (.task id) r)
      (hidle : r.awaits id = false) (hrest : PullsThrough r answer s') : PullsThrough s answer s'

section

variable {s s' : Session}

theorem taskAt?_plain (s : Session) (id : TaskId) :
    s.plain.taskAt? id = (s.taskAt? id).map Task.plain :=
  s.tasks_plain id

@[simp] theorem awaits_plain (s : Session) (id : TaskId) : s.plain.awaits id = s.awaits id := by
  rw [awaits, awaits, taskAt?_plain]
  cases s.taskAt? id with
  | none => rfl
  | some task => exact task.requiresInput_plain

theorem awaits_of_taskAt? {id : TaskId} {task : Task} (htask : s.taskAt? id = some task) :
    s.awaits id = task.requiresInput := by
  rw [awaits, htask]
  rfl

/-! ## Turns -/

theorem plain_attend {id : TaskId} {child : Child}
    (hpassed : ∀ inner, s.taskAt? child.task = some inner → child.interrupted = false →
      s.settings.breakpoints.contains inner.name = false) :
    s.plain.attend id { child with interrupted := false } = Outcome.plain (s.attend id child) := by
  simp only [attend, task_plain]
  cases hinner : s.task child.task with
  | error error => rfl
  | ok inner =>
      have hdue : (!child.interrupted && s.settings.breakpoints.contains inner.name) = false := by
        cases hmark : child.interrupted with
        | true => rfl
        | false =>
            rw [hpassed inner (task_eq_ok_iff.mp hinner) hmark]
            rfl
      have hnone : s.plain.settings.breakpoints.contains inner.name = false := rfl
      simp only [Except.map, Task.plain_others, Task.requiresInput_plain, Task.isFlow_plain, hdue,
        hnone, Bool.and_false, Bool.false_eq_true, ↓reduceIte]
      split
      · rfl
      · split
        · rfl
        · exact s.plain_settleChild id child false inner

theorem plain_resume {scope : ScopeId} {id : TaskId}
    (hpassed : ∀ task flow child inner, s.taskAt? id = some task → task.complete = false →
      task.flow? = some flow → flow.current = some child → s.taskAt? child.task = some inner →
      child.interrupted = false → s.settings.breakpoints.contains inner.name = false) :
    s.plain.resume scope id = Outcome.plain (s.resume scope id) := by
  simp only [resume, task_plain, flow_plain]
  cases htask : s.task id with
  | error error => rfl
  | ok task =>
      simp only [Except.map, Task.plain_others]
      cases hcomplete : task.complete with
      | true => exact s.plain_leave scope
      | false =>
          cases hflow : s.flow id with
          | error error => rfl
          | ok flow =>
              have hhere := task_eq_ok_iff.mp htask
              have hruns : task.flow? = some flow := by
                obtain ⟨found, hfound, hruns⟩ := flowAt?_eq_some_iff.mp (flow_eq_ok_iff.mp hflow)
                rw [hhere] at hfound
                cases hfound
                exact hruns
              have hcurrent : flow.plain.current =
                  flow.current.map fun child => { child with interrupted := false } := rfl
              simp only [hcurrent, Bool.false_eq_true, ↓reduceIte]
              cases hchild : flow.current with
              | none => exact s.plain_proceed id flow
              | some child =>
                  exact plain_attend fun inner hinner hmark =>
                    hpassed task flow child inner hhere hcomplete hruns hchild hinner hmark

theorem turn_of_unbound {scope : ScopeId} (hrunning : s.redirectedTo = none)
    (hhead : s.active.head? = some scope) (hbound : (s.scope scope).flow = none) :
    s.turn = (.ok .again, { s with active := s.active.pop }) := by
  simp [turn, hrunning, hhead, hbound]

/-- A turn that does not hand out a task for its breakpoint does the same without breakpoints. -/
theorem plain_turn (hpassed : ¬s.Interrupts) : s.plain.turn = Outcome.plain s.turn := by
  by_cases hidle : s.redirectedTo.isSome ∨ s.active.head? = none
  · rw [turn_of_not_running hidle, turn_of_not_running (s := s.plain) hidle]
    rfl
  · rw [not_or, Option.not_isSome_iff_eq_none] at hidle
    obtain ⟨hrunning, hactive⟩ := hidle
    obtain ⟨scope, hhead⟩ := Option.ne_none_iff_exists'.mp hactive
    cases hbound : (s.scope scope).flow with
    | none =>
        rw [turn_of_unbound hrunning hhead hbound,
          turn_of_unbound (s := s.plain) hrunning hhead hbound]
        rfl
    | some id =>
        rw [turn_of_bound hrunning hhead hbound,
          turn_of_bound (s := s.plain) hrunning hhead hbound]
        apply plain_resume
        intro task flow child inner htask hcomplete hruns hcurrent hinner hmark
        have hwork : s.Working scope id task flow :=
          ⟨hrunning, hhead, hbound, htask, hcomplete, hruns⟩
        refine Bool.eq_false_iff.mpr fun hdue => hpassed ?_
        exact ⟨scope, id, flow, child, inner, ⟨⟨task, hwork⟩, hcurrent, hinner⟩, hmark, hdue⟩

/-- A turn that comes upon a child at its breakpoint hands it out and marks it. -/
theorem AtChild.turn_of_breakpoint {scope : ScopeId} {id : TaskId} {flow : Flow} {child : Child}
    {inner : Task} (hat : s.AtChild scope id flow child inner)
    (hmark : child.interrupted = false)
    (hbreak : s.settings.breakpoints.contains inner.name = true) :
    s.turn = (.ok (.handOut child.task), s.markInterrupted id) := by
  rw [hat.turn_eq, hmark, hbreak]
  rfl

/-- A turn hands out a child that is not at its breakpoint only if that waits for input. -/
theorem AtChild.handOut_cases {scope : ScopeId} {id other : TaskId} {flow : Flow} {child : Child}
    {inner : Task} (hat : s.AtChild scope id flow child inner)
    (hturn : s.turn = (.ok (.handOut other), s')) :
    child.interrupted = false ∧ s.settings.breakpoints.contains inner.name = true ∨
      inner.requiresInput = true := by
  rw [hat.turn_eq] at hturn
  split_ifs at hturn with hdue hinput
  · simpa using Or.inl hdue
  · exact .inr hinput
  · cases hturn
  · unfold settleChild at hturn
    split at hturn <;> cases hturn

/-- The plain session is at the same child. -/
theorem AtChild.plain {scope : ScopeId} {id : TaskId} {flow : Flow} {child : Child} {inner : Task}
    (hat : s.AtChild scope id flow child inner) :
    s.plain.AtChild scope id flow.plain { child with interrupted := false } inner.plain where
  working := by
    obtain ⟨task, hwork⟩ := hat.working
    refine ⟨task.plain, hwork.running, hwork.head, hwork.bound, ?_, ?_, ?_⟩
    · rw [taskAt?_plain, hwork.here]
      rfl
    · rw [task.plain_others.2.2.2, hwork.incomplete]
    · rw [Task.flow?_plain, hwork.runs]
      rfl
  current := by
    rw [Flow.plain, hat.current]
    rfl
  inner := by
    rw [taskAt?_plain, hat.inner]
    rfl

/-- Without breakpoints, a turn at a child that waits for input hands it out and does no more. -/
theorem AtChild.plain_turn_of_requiresInput {scope : ScopeId} {id : TaskId} {flow : Flow}
    {child : Child} {inner : Task} (hat : s.AtChild scope id flow child inner)
    (hinput : inner.requiresInput = true) :
    s.plain.turn = (.ok (.handOut child.task), s.plain) := by
  have hnone : s.plain.settings.breakpoints.contains inner.plain.name = false := rfl
  rw [hat.plain.turn_eq, hnone, Task.requiresInput_plain, hinput]
  rfl

/-- A child that was handed out for its breakpoint is marked. -/
theorem AtChild.interrupted_of_markInterrupted {scope scope' : ScopeId} {id id' : TaskId}
    {flow flow' : Flow} {child child' : Child} {inner inner' : Task}
    (hat : s.AtChild scope id flow child inner)
    (hat' : (s.markInterrupted id).AtChild scope' id' flow' child' inner') :
    child'.interrupted = true := by
  obtain ⟨task, hwork⟩ := hat.working
  obtain ⟨task', hwork'⟩ := hat'.working
  obtain ⟨rfl, rfl⟩ := hwork'.unique hwork.head hwork.bound
  have hflow := hwork'.flowAt?
  rw [markInterrupted_eq, flowAt?_modifyFlow_self, hwork.flowAt?] at hflow
  cases hflow
  have hcurrent := hat'.current
  rw [Flow.interrupted, hat.current] at hcurrent
  cases hcurrent
  rfl

/-- A turn that hands out a task for its breakpoint only marks it.  Without the breakpoint it would
have handed it out as well, if it waits for input, and otherwise done what the next turn does. -/
theorem Interrupts.turn (hdue : s.Interrupts) :
    ∃ id s', s.turn = (.ok (.handOut id), s') ∧ s'.plain = s.plain ∧ ¬s'.Interrupts ∧
      (s'.awaits id = true → s.plain.turn = (.ok (.handOut id), s.plain)) := by
  obtain ⟨scope, id, flow, child, inner, hat, hmark, hbreak⟩ := hdue
  refine ⟨child.task, s.markInterrupted id, hat.turn_of_breakpoint hmark hbreak,
    s.plain_markInterrupted id, ?_, fun hawaits => ?_⟩
  · rintro ⟨scope', id', flow', child', inner', hat', hmark', -⟩
    rw [hat.interrupted_of_markInterrupted hat'] at hmark'
    cases hmark'
  · apply hat.plain_turn_of_requiresInput
    rw [← awaits_of_taskAt? hat.inner, ← awaits_plain, ← plain_markInterrupted s id, awaits_plain]
    exact hawaits

/-- Any other turn that hands out a task hands out one that waits for input. -/
theorem awaits_of_turn {id : TaskId} (hpassed : ¬s.Interrupts)
    (hturn : s.turn = (.ok (.handOut id), s')) : s'.awaits id = true := by
  obtain ⟨scope, owner, flow, child, inner, hat, rfl, hsame⟩ := (turned hturn).handsOut
  have hinput : inner.requiresInput = true := by
    rcases hat.handOut_cases hturn with ⟨hmark, hbreak⟩ | hinput
    · exact absurd ⟨scope, owner, flow, child, inner, hat, hmark, hbreak⟩ hpassed
    · exact hinput
  have hplain : s'.plain = s.plain := by
    rcases hsame with rfl | rfl
    · rfl
    · exact s.plain_markInterrupted owner
  rw [← awaits_plain, hplain, awaits_plain, awaits_of_taskAt? hat.inner, hinput]

/-! ## Pulls -/

theorem Pulls.of_turn {result : Except Error Turn} {answer : Pull} (hturn : s.turn = (result, s'))
    (hanswer : Turn.answer? result = some answer) : s.Pulls answer s' :=
  ⟨1, pullWithin_of_answer hturn hanswer 0, answer_ne_unfinished hanswer⟩

theorem Pulls.of_pull {id : TaskId} (hpull : s.pull.1 = .task id) :
    s.Pulls (.task id) s.pull.2 := by
  cases hpulled : s.pull with
  | mk answer s' =>
      rw [hpulled] at hpull
      cases hpull
      exact ⟨s.turnLimit, hpulled, Pull.noConfusion⟩

theorem Turns.pulls {count : Nat} {r : Session} {answer : Pull} (hturns : Turns count s r)
    (hpull : r.Pulls answer s') : s.Pulls answer s' := by
  obtain ⟨turns, hwithin, hanswer⟩ := hpull
  exact ⟨count + turns, (hturns.pullWithin turns).trans hwithin, hanswer⟩

/-- A session comes to one answer. -/
theorem Pulls.unique {answer answer' : Pull} {s'' : Session} (hpull : s.Pulls answer s')
    (hpull' : s.Pulls answer' s'') : answer' = answer ∧ s'' = s' := by
  obtain ⟨turns, hwithin, hanswer⟩ := hpull
  obtain ⟨turns', hwithin', hanswer'⟩ := hpull'
  obtain ⟨count, r, result, hturns, hlast, hresult⟩ := exists_last_turn hwithin hanswer
  obtain ⟨count', r', result', hturns', hlast', hresult'⟩ := exists_last_turn hwithin' hanswer'
  have henough := pullWithin_of_turns hturns hlast hresult
    (show count < count + count' + 1 by omega)
  have henough' := pullWithin_of_turns hturns' hlast' hresult'
    (show count' < count + count' + 1 by omega)
  exact Prod.mk.inj (henough'.symm.trans henough)

theorem PullsThrough.head {r : Session} {answer : Pull} (hturn : s.turn = (.ok .again, r))
    (hpull : r.PullsThrough answer s') : s.PullsThrough answer s' := by
  have hfirst := Turns.single hturn
  cases hpull with
  | answered hpull hinput => exact .answered (hfirst.pulls hpull) hinput
  | passed hpull hidle hrest => exact .passed (hfirst.pulls hpull) hidle hrest

/-- A turn that leads on does not hand out a task for its breakpoint. -/
theorem not_interrupts_of_again (hturn : s.turn = (.ok .again, s')) : ¬s.Interrupts := by
  intro hdue
  obtain ⟨id, r, hhanded, -⟩ := hdue.turn
  rw [hturn] at hhanded
  cases hhanded

theorem Turns.plain {count : Nat} (hturns : Turns count s s') :
    Turns count s.plain s'.plain := by
  induction hturns with
  | refl s => exact .refl s.plain
  | turn hturn _ ih =>
      refine .turn ?_ ih
      rw [plain_turn (not_interrupts_of_again hturn), hturn]
      rfl

/-- What a session comes to when its pulls are repeated, it comes to at once without its
breakpoints. -/
theorem PullsThrough.plain {answer : Pull} (hpull : s.PullsThrough answer s') :
    s.plain.Pulls answer s'.plain := by
  induction hpull with
  | @answered s s' answer hpull hinput =>
      obtain ⟨turns, hwithin, hanswer⟩ := hpull
      obtain ⟨count, r, result, hturns, hlast, hresult⟩ := exists_last_turn hwithin hanswer
      refine hturns.plain.pulls ?_
      by_cases hdue : r.Interrupts
      · obtain ⟨id, marked, hturn, hplain, -, hwaits⟩ := hdue.turn
        rw [hlast] at hturn
        cases hturn
        cases hresult
        have hhanded := hwaits (hinput id rfl)
        rw [hplain]
        exact .of_turn hhanded rfl
      · refine .of_turn ?_ hresult
        rw [plain_turn hdue, hlast]
        rfl
  | @passed s b s' id answer hpull hidle _ ih =>
      obtain ⟨turns, hwithin, hanswer⟩ := hpull
      obtain ⟨count, r, result, hturns, hlast, hresult⟩ := exists_last_turn hwithin hanswer
      cases answer?_eq_task hresult
      refine hturns.plain.pulls ?_
      by_cases hdue : r.Interrupts
      · obtain ⟨other, marked, hturn, hplain, -⟩ := hdue.turn
        rw [hlast] at hturn
        cases hturn
        rwa [hplain] at ih
      · rw [awaits_of_turn hdue hlast] at hidle
        cases hidle

/-- A turn that is not at a breakpoint begins a pull that goes on as it does without breakpoints. -/
theorem pullsThrough_of_turn {turns : Nat} {answer : Pull} (hpassed : ¬s.Interrupts)
    (hwithin : s.plain.pullWithin (turns + 1) = (answer, s'))
    (hrest : ∀ r : Session, r.plain.pullWithin turns = (answer, s') →
      ∃ b', r.PullsThrough answer b' ∧ b'.plain = s') :
    ∃ b', s.PullsThrough answer b' ∧ b'.plain = s' := by
  rw [pullWithin_succ, plain_turn hpassed] at hwithin
  cases hresult : Turn.answer? s.turn.1 with
  | some found =>
      simp only [Outcome.plain, hresult, Prod.mk.injEq] at hwithin
      obtain ⟨rfl, rfl⟩ := hwithin
      refine ⟨s.turn.2, .answered (.of_turn rfl hresult) fun id htask => ?_, rfl⟩
      cases htask
      exact awaits_of_turn hpassed (Prod.ext (answer?_eq_task hresult) rfl)
  | none =>
      simp only [Outcome.plain, hresult] at hwithin
      obtain ⟨b', hpull, hplain⟩ := hrest s.turn.2 hwithin
      exact ⟨b', hpull.head (turn_of_answer?_eq_none hresult), hplain⟩

/-- What a session comes to without its breakpoints, it comes to when its pulls are repeated.  The
induction is on the turns of the plain session: a breakpoint takes one more turn, which is not one
of them, and is never met twice in a row. -/
theorem exists_pullsThrough {turns : Nat} {answer : Pull} (hanswer : answer ≠ .unfinished)
    (hwithin : s.plain.pullWithin turns = (answer, s')) :
    ∃ b', s.PullsThrough answer b' ∧ b'.plain = s' := by
  induction turns generalizing s with
  | zero =>
      rw [pullWithin] at hwithin
      exact absurd (Prod.mk.inj hwithin).1.symm hanswer
  | succ turns ih =>
      by_cases hdue : s.Interrupts
      · obtain ⟨id, marked, hturn, hplain, hpassed, hwaits⟩ := hdue.turn
        cases hawaits : marked.awaits id with
        | true =>
            rw [pullWithin_of_answer (hwaits hawaits) rfl turns] at hwithin
            cases hwithin
            refine ⟨marked, .answered (.of_turn hturn rfl) fun other htask => ?_, hplain⟩
            cases htask
            exact hawaits
        | false =>
            rw [← hplain] at hwithin
            obtain ⟨b', hpull, hlast⟩ := pullsThrough_of_turn hpassed hwithin fun r => ih
            exact ⟨b', .passed (.of_turn hturn rfl) hawaits hpull, hlast⟩
      · exact pullsThrough_of_turn hdue hwithin fun r => ih

end

/-! ## Two sessions side by side -/

/-- Two sessions of one document that are driven alike.  The first has no breakpoints; the second
may have some from the start or be given some at any time, and each of its pulls is repeated for as
long as it hands out a task that waits for nothing.  All else that is asked of the one is asked of
the other. -/
inductive SideBySide : Session → Session → Prop
  | started {document : Document} {settings : SessionSettings} {ownsEvents : Bool} {a b : Session}
      (hplain : Session.start document { settings with breakpoints := [] } ownsEvents = .ok a)
      (hstart : Session.start document settings ownsEvents = .ok b) : SideBySide a b
  | pulled {a b a' b' : Session} {answer answer' : Pull} (hbefore : SideBySide a b)
      (hplain : a.Pulls answer a') (hpull : b.PullsThrough answer' b') : SideBySide a' b'
  | filledIn {a b : Session} (hbefore : SideBySide a b) (id : TaskId) (field : String)
      (value : Value) : SideBySide (a.fillIn id field value).2 (b.fillIn id field value).2
  | clicked {a b : Session} (hbefore : SideBySide a b) (id : TaskId) (component : String) :
      SideBySide (a.click id component).2 (b.click id component).2
  | answered {a b : Session} (hbefore : SideBySide a b) (id : TaskId) (value : Value) :
      SideBySide (a.answer id value).2 (b.answer id value).2
  | breakpointSet {a b : Session} (hbefore : SideBySide a b) (name : String) :
      SideBySide a (b.setBreakpoint name)
  | requeued {a b : Session} (hbefore : SideBySide a b) (events : Array Event) :
      SideBySide { a with events } { b with events }

/-- The first session is the second one without its breakpoints, and whatever is asked of both comes
to the same. -/
structure Agree (a b : Session) : Prop where
  plain : b.plain = a
  /-- A pull of the first one returns if the repeated pull of the second one does. -/
  returns : (∃ answer a', a.Pulls answer a') ↔ ∃ answer b', b.PullsThrough answer b'
  pulls : ∀ {answer a' answer' b'}, a.Pulls answer a' → b.PullsThrough answer' b' →
    answer' = answer ∧ b'.plain = a'
  fillIn : ∀ id field value, (b.fillIn id field value).1 = (a.fillIn id field value).1
  click : ∀ id component, (b.click id component).1 = (a.click id component).1
  answer : ∀ id value, (b.answer id value).1 = (a.answer id value).1

section

variable {a b : Session}

theorem agree_plain (b : Session) : Agree b.plain b where
  plain := rfl
  returns := by
    constructor
    · rintro ⟨answer, a', turns, hwithin, hanswer⟩
      obtain ⟨b', hpull, -⟩ := exists_pullsThrough hanswer hwithin
      exact ⟨answer, b', hpull⟩
    · rintro ⟨answer, b', hpull⟩
      exact ⟨answer, b'.plain, hpull.plain⟩
  pulls := fun hplain hpull => hplain.unique hpull.plain
  fillIn := fun id field value => by rw [plain_fillIn]; rfl
  click := fun id component => by rw [plain_click]; rfl
  answer := fun id value => by rw [plain_answer]; rfl

theorem plain_start {document : Document} {settings : SessionSettings} {ownsEvents : Bool}
    (hplain : Session.start document { settings with breakpoints := [] } ownsEvents = .ok a)
    (hstart : Session.start document settings ownsEvents = .ok b) : b.plain = a := by
  obtain ⟨declared, hdeclared, rfl⟩ := start_eq hplain
  obtain ⟨declared', hdeclared', rfl⟩ := start_eq hstart
  rw [hdeclared] at hdeclared'
  cases hdeclared'
  have htasks : (#[rootTask document declared.settings].map Task.plain) =
      #[rootTask document declared.settings] := by
    simp only [List.map_toArray, List.map_cons, List.map_nil]
    rfl
  simp only [Session.plain, initial, htasks]

theorem SideBySide.plain (hdriven : SideBySide a b) : b.plain = a := by
  induction hdriven with
  | started hplain hstart => exact plain_start hplain hstart
  | @pulled a b a' b' answer answer' _ hplain hpull ih =>
      subst ih
      exact (hplain.unique hpull.plain).2
  | @filledIn a b _ id field value ih => rw [← ih, plain_fillIn]; rfl
  | @clicked a b _ id component ih => rw [← ih, plain_click]; rfl
  | @answered a b _ id value ih => rw [← ih, plain_answer]; rfl
  | @breakpointSet a b _ name ih => rw [plain_setBreakpoint, ih]
  | requeued _ events ih => rw [← ih]; rfl

/-- Breakpoints are transparent: of two sessions that are driven alike, one with and one without
breakpoints, the one without them is at every point the other one with its breakpoints and marks
taken away, and whatever is asked of both at that point comes to the same. -/
theorem breakpoints_transparent (hdriven : SideBySide a b) : Agree a b :=
  hdriven.plain ▸ agree_plain b

end

/-- The session of `detourDocument` whose first screen was answered. -/
def detourAhead : Session :=
  ((initial detourDocument {} true {}).pull.2.click ⟨1⟩ "next").2

/-- The same session with a breakpoint on the nested flow from the start, and with one on the screen
since it was answered. -/
def detourWatched : Session :=
  ((initial detourDocument { breakpoints := ["detour"] } true {}).pull.2.click ⟨1⟩
    "next").2.setBreakpoint "welcome"

theorem detour_sideBySide : SideBySide detourAhead detourWatched := by
  have hplain : Session.start detourDocument {} true = .ok (initial detourDocument {} true {}) :=
    start_initial (by decide +kernel) rfl
  have hstart : Session.start detourDocument { breakpoints := ["detour"] } true =
      .ok (initial detourDocument { breakpoints := ["detour"] } true {}) :=
    start_initial (by decide +kernel) rfl
  have hstarted : SideBySide (initial detourDocument {} true {})
      (initial detourDocument { breakpoints := ["detour"] } true {}) :=
    .started hplain hstart
  have hscreen : (initial detourDocument {} true {}).pull.1 = .task ⟨1⟩ := by decide +kernel
  have hthrough : (initial detourDocument { breakpoints := ["detour"] } true {}).PullsThrough
      (.task ⟨1⟩) (initial detourDocument { breakpoints := ["detour"] } true {}).pull.2 := by
    refine .answered (Pulls.of_pull (by decide +kernel)) fun id htask => ?_
    rw [← Pull.task.inj htask]
    decide +kernel
  have hpulled := hstarted.pulled (Pulls.of_pull hscreen) hthrough
  exact (hpulled.clicked ⟨1⟩ "next").breakpointSet "welcome"

/-- The screen and the nested flow are handed out for their breakpoints, one after the other, before
the screen that both sessions come to. -/
theorem detour_transparent :
    detourWatched.pull.1 = .task ⟨1⟩ ∧ detourWatched.pull.2.pull.1 = .task ⟨2⟩ ∧
      ∃ a' b', detourAhead.Pulls (.task ⟨3⟩) a' ∧ detourWatched.PullsThrough (.task ⟨3⟩) b' ∧
        b'.plain = a' := by
  have hahead : detourAhead.pull.1 = .task ⟨3⟩ := by decide +kernel
  have hwelcome : detourWatched.pull.1 = .task ⟨1⟩ := by decide +kernel
  have hdetour : detourWatched.pull.2.pull.1 = .task ⟨2⟩ := by decide +kernel
  have hscreen : detourWatched.pull.2.pull.2.pull.1 = .task ⟨3⟩ := by decide +kernel
  have hlast : detourWatched.pull.2.pull.2.PullsThrough (.task ⟨3⟩)
      detourWatched.pull.2.pull.2.pull.2 := by
    refine .answered (Pulls.of_pull hscreen) fun id htask => ?_
    rw [← Pull.task.inj htask]
    decide +kernel
  have hthrough : detourWatched.PullsThrough (.task ⟨3⟩) detourWatched.pull.2.pull.2.pull.2 :=
    .passed (Pulls.of_pull hwelcome) (by decide +kernel)
      (.passed (Pulls.of_pull hdetour) (by decide +kernel) hlast)
  have hagree := breakpoints_transparent detour_sideBySide
  exact ⟨hwelcome, hdetour, _, _, Pulls.of_pull hahead, hthrough,
    (hagree.pulls (Pulls.of_pull hahead) hthrough).2⟩

end Workflow.Session
