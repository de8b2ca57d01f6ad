import Mathlib.Logic.Relation
import Workflow.Proofs.Session.Lookup

/-!
# Runs of a session

The program around a session pulls it, fills in and clicks screens, answers remote calls and sets
breakpoints, in any order and with any task it names.  `Session.Step` is one such operation, whether
it fails or not, and `Session.Run` is any number of them.  A pull counts once it has answered; how
many turns it was allowed does not matter.  The program also takes the events that wait, and a
client lets its sessions share one queue; `Session.Drives` allows for both.

Inside a pull, `Session.Turns` counts the turns that come to nothing else than another turn.
-/

namespace Workflow

/-- What the last turn of a pull says that the pull comes to. -/
def Turn.answer? : Except Error Turn → Option Pull
  | .error error => some (.failed error)
  | .ok (.handOut task) => some (.task task)
  | .ok .ended => some .ended
  | .ok .again => none

namespace Session

/-- One operation of the program around a session. -/
inductive Step (s : Session) : Session → Prop
  | pulled {turns : Nat} {answer : Pull} {s' : Session}
      (hpull : s.pullWithin turns = (answer, s')) (hanswer : answer ≠ .unfinished) : Step s s'
  | filledIn (id : TaskId) (field : String) (value : Value) : Step s (s.fillIn id field value).2
  | clicked (id : TaskId) (component : String) : Step s (s.click id component).2
  | answered (id : TaskId) (value : Value) : Step s (s.answer id value).2
  | breakpointSet (name : String) : Step s (s.setBreakpoint name)

/-- Any number of operations, one after another. -/
def Run : Session → Session → Prop :=
  Relation.ReflTransGen Step

def rootTask (document : Document) (settings : FlowSettings) : Task where
  name := document.startingFlow
  scope := ⟨0⟩
  owner := none
  complete := false
  activity := .flow { definition := document.startingFlow, repetition := .once, settings }

/-- A session that starts, with the settings of the session and of its root flow. -/
def initial (document : Document) (settings : SessionSettings) (ownsEvents : Bool)
    (flowSettings : FlowSettings) : Session where
  repository := document.repository
  settings
  scopes := #[(Scope.opened document.context none).bind ⟨0⟩ true]
  tasks := #[rootTask document flowSettings]
  active := Cursor.empty.push ⟨0⟩
  history := .empty
  root := ⟨0⟩
  redirectedTo := none
  events := #[]
  ownsEvents

/-- A session starts with its root flow as the only one being run. -/
theorem start_eq {document : Document} {settings : SessionSettings} {ownsEvents : Bool}
    {s : Session} (hstart : Session.start document settings ownsEvents = .ok s) :
    ∃ declared, Keyed.get? document.startingFlow document.repository.flows = some declared ∧
      s = initial document settings ownsEvents declared.settings := by
  unfold Session.start at hstart
  cases hfault : document.fault? with
  | some error =>
      rw [Document.checked, hfault] at hstart
      cases hstart
  | none =>
      rw [Document.checked, hfault] at hstart
      cases hdeclared : Keyed.get? document.startingFlow document.repository.flows with
      | none =>
          dsimp only [bind, Except.bind] at hstart
          rw [hdeclared] at hstart
          cases hstart
      | some declared =>
          dsimp only [bind, Except.bind] at hstart
          rw [hdeclared] at hstart
          cases hstart
          exact ⟨declared, rfl, rfl⟩

/-- A document without a fault is run. -/
theorem start_initial {document : Document} {settings : SessionSettings} {ownsEvents : Bool}
    {flowSettings : FlowSettings} (hfault : document.fault? = none)
    (hflow : (Keyed.get? document.startingFlow document.repository.flows).map FlowDecl.settings =
      some flowSettings) :
    Session.start document settings ownsEvents =
      .ok (initial document settings ownsEvents flowSettings) := by
  obtain ⟨declared, hdeclared, rfl⟩ := Option.map_eq_some_iff.mp hflow
  rw [Session.start, Document.checked, hfault]
  dsimp only [bind, Except.bind]
  rw [hdeclared]
  rfl

/-- Only a document without a fault is run. -/
theorem fault?_of_start {document : Document} {settings : SessionSettings} {ownsEvents : Bool}
    {s : Session} (hstart : Session.start document settings ownsEvents = .ok s) :
    document.fault? = none := by
  cases hfault : document.fault? with
  | none => rfl
  | some error =>
      rw [Session.start, Document.checked, hfault] at hstart
      cases hstart

/-- A session that some document comes to by some run. -/
def Reachable (s : Session) : Prop :=
  ∃ document settings ownsEvents start,
    Session.start document settings ownsEvents = .ok start ∧ start.Run s

theorem Reachable.run {s s' : Session} (hreach : s.Reachable) (hrun : s.Run s') :
    s'.Reachable := by
  obtain ⟨document, settings, ownsEvents, start, hstart, hbefore⟩ := hreach
  exact ⟨document, settings, ownsEvents, start, hstart, hbefore.trans hrun⟩

theorem Reachable.step {s s' : Session} (hreach : s.Reachable) (hstep : s.Step s') :
    s'.Reachable :=
  hreach.run (Relation.ReflTransGen.single hstep)

/-- What the program around a session does with it: it operates on it, or changes the queue of
events, by taking those that wait or by letting the session go on with the queue of another one. -/
inductive Drive (s : Session) : Session → Prop
  | operated {s' : Session} (hstep : Step s s') : Drive s s'
  | requeued (events : Array Event) : Drive s { s with events }

/-- Whatever the program around a session does. -/
def Drives : Session → Session → Prop :=
  Relation.ReflTransGen Drive

/-- A session that some document comes to, whatever the program around it does. -/
def Driven (s : Session) : Prop :=
  ∃ document settings ownsEvents start,
    Session.start document settings ownsEvents = .ok start ∧ start.Drives s

theorem Run.drives {s s' : Session} (hrun : s.Run s') : s.Drives s' :=
  Relation.ReflTransGen.mono (fun _ _ hstep => Drive.operated hstep) _ _ hrun

theorem Reachable.driven {s : Session} (hreach : s.Reachable) : s.Driven := by
  obtain ⟨document, settings, ownsEvents, start, hstart, hrun⟩ := hreach
  exact ⟨document, settings, ownsEvents, start, hstart, hrun.drives⟩

theorem Driven.drives {s s' : Session} (hdriven : s.Driven) (hdrives : s.Drives s') :
    s'.Driven := by
  obtain ⟨document, settings, ownsEvents, start, hstart, hbefore⟩ := hdriven
  exact ⟨document, settings, ownsEvents, start, hstart, hbefore.trans hdrives⟩

/-! ## Runs made of requests -/

/-- What the program around a session may ask of it. -/
inductive Request
  | pull
  | fillIn (id : TaskId) (field : String) (value : Value)
  | click (id : TaskId) (component : String)
  | answer (id : TaskId) (value : Value)

/-- The session after some requests. -/
def carryOut (s : Session) : List Request → Session
  | [] => s
  | .pull :: rest => s.pull.2.carryOut rest
  | .fillIn id field value :: rest => (s.fillIn id field value).2.carryOut rest
  | .click id component :: rest => (s.click id component).2.carryOut rest
  | .answer id value :: rest => (s.answer id value).2.carryOut rest

/-- Whether every pull among some requests comes to an answer. -/
def answersAll (s : Session) : List Request → Bool
  | [] => true
  | .pull :: rest => s.pull.1 != .unfinished && s.pull.2.answersAll rest
  | .fillIn id field value :: rest => (s.fillIn id field value).2.answersAll rest
  | .click id component :: rest => (s.click id component).2.answersAll rest
  | .answer id value :: rest => (s.answer id value).2.answersAll rest

theorem run_carryOut {s : Session} (requests : List Request)
    (hanswers : s.answersAll requests = true) : s.Run (s.carryOut requests) := by
  induction requests generalizing s with
  | nil => exact .refl
  | cons request rest ih =>
      cases request with
      | pull =>
          obtain ⟨hanswer, hrest⟩ := Bool.and_eq_true_iff.mp hanswers
          have hpull : s.pull = (s.pull.1, s.pull.2) := (Prod.eta s.pull).symm
          exact .head (.pulled hpull (bne_iff_ne.mp hanswer)) (ih hrest)
      | fillIn id field value => exact .head (.filledIn id field value) (ih hanswers)
      | click id component => exact .head (.clicked id component) (ih hanswers)
      | answer id value => exact .head (.answered id value) (ih hanswers)

/-- Requests that are all answered lead from a sound document to a reachable session. -/
theorem reachable_carryOut {document : Document} {settings : SessionSettings} {ownsEvents : Bool}
    {flowSettings : FlowSettings} (requests : List Request) (hfault : document.fault? = none)
    (hflow : (Keyed.get? document.startingFlow document.repository.flows).map FlowDecl.settings =
      some flowSettings)
    (hanswers : (initial document settings ownsEvents flowSettings).answersAll requests = true) :
    ((initial document settings ownsEvents flowSettings).carryOut requests).Reachable :=
  ⟨document, settings, ownsEvents, _, start_initial hfault hflow, run_carryOut requests hanswers⟩

/-! ## Turns within a pull -/

/-- `count` turns lead from the first session to the second, each of them asking for another. -/
inductive Turns : Nat → Session → Session → Prop
  | refl (s : Session) : Turns 0 s s
  | turn {count : Nat} {s s₁ s₂ : Session} (hturn : s.turn = (.ok .again, s₁))
      (hrest : Turns count s₁ s₂) : Turns (count + 1) s s₂

theorem Turns.single {s s' : Session} (hturn : s.turn = (.ok .again, s')) : Turns 1 s s' :=
  .turn hturn (.refl s')

theorem Turns.trans {first second : Nat} {s₁ s₂ s₃ : Session} (hfirst : Turns first s₁ s₂)
    (hsecond : Turns second s₂ s₃) : Turns (first + second) s₁ s₃ := by
  induction hfirst with
  | refl => simpa using hsecond
  | @turn count _ _ _ hturn _ ih =>
      have hcount : count + 1 + second = count + second + 1 := by omega
      exact hcount ▸ .turn hturn (ih hsecond)

theorem pullWithin_succ (s : Session) (turns : Nat) :
    s.pullWithin (turns + 1) =
      match Turn.answer? s.turn.1 with
      | some answer => (answer, s.turn.2)
      | none => s.turn.2.pullWithin turns := by
  rw [pullWithin]
  split <;> simp_all [Turn.answer?]

/-- A pull goes through the turns that lead on. -/
theorem Turns.pullWithin {count : Nat} {s s' : Session} (hturns : Turns count s s') (turns : Nat) :
    s.pullWithin (count + turns) = s'.pullWithin turns := by
  induction hturns with
  | refl => simp
  | @turn count s s₁ s₂ hturn _ ih =>
      have hcount : count + 1 + turns = count + turns + 1 := by omega
      rw [hcount, pullWithin_succ, hturn]
      exact ih

theorem pullWithin_of_answer {s s' : Session} {result : Except Error Turn} {answer : Pull}
    (hturn : s.turn = (result, s')) (hanswer : Turn.answer? result = some answer) (turns : Nat) :
    s.pullWithin (turns + 1) = (answer, s') := by
  rw [pullWithin_succ, hturn]
  simp [hanswer]

/-- A turn that answers nothing asks for another one. -/
theorem turn_of_answer?_eq_none {s : Session} (hresult : Turn.answer? s.turn.1 = none) :
    s.turn = (.ok .again, s.turn.2) := by
  refine Prod.ext ?_ rfl
  revert hresult
  cases s.turn.1 with
  | error error => simp [Turn.answer?]
  | ok turn => cases turn <;> simp [Turn.answer?]

theorem answer_ne_unfinished {result : Except Error Turn} {answer : Pull}
    (hanswer : Turn.answer? result = some answer) : answer ≠ .unfinished := by
  rintro rfl
  cases result with
  | error error => simp [Turn.answer?] at hanswer
  | ok turn => cases turn <;> simp [Turn.answer?] at hanswer

/-- A pull that answers comes to its answer in a last turn. -/
theorem exists_last_turn {turns : Nat} {s s' : Session} {answer : Pull}
    (hpull : s.pullWithin turns = (answer, s')) (hanswer : answer ≠ .unfinished) :
    ∃ count r result, Turns count s r ∧ r.turn = (result, s') ∧
      Turn.answer? result = some answer := by
  induction turns generalizing s with
  | zero =>
      simp only [Session.pullWithin, Prod.mk.injEq] at hpull
      exact absurd hpull.1.symm hanswer
  | succ turns ih =>
      rw [pullWithin_succ] at hpull
      cases hresult : Turn.answer? s.turn.1 with
      | some found =>
          rw [hresult] at hpull
          obtain ⟨rfl, rfl⟩ := Prod.mk.inj hpull
          exact ⟨0, s, s.turn.1, .refl s, rfl, hresult⟩
      | none =>
          rw [hresult] at hpull
          obtain ⟨count, r, result, hturns, hlast, hfound⟩ := ih hpull
          have hagain := turn_of_answer?_eq_none hresult
          exact ⟨count + 1, r, result, .turn hagain hturns, hlast, hfound⟩

/-- A pull that does not answer has only taken turns that lead on. -/
theorem exists_turns_of_unfinished {turns : Nat} {s : Session}
    (hpull : (s.pullWithin turns).1 = .unfinished) : ∃ r, Turns turns s r := by
  induction turns generalizing s with
  | zero => exact ⟨s, .refl s⟩
  | succ turns ih =>
      rw [pullWithin_succ] at hpull
      cases hresult : Turn.answer? s.turn.1 with
      | some answer =>
          rw [hresult] at hpull
          exact absurd hpull (answer_ne_unfinished hresult)
      | none =>
          rw [hresult] at hpull
          obtain ⟨r, hturns⟩ := ih hpull
          exact ⟨r, .turn (turn_of_answer?_eq_none hresult) hturns⟩

theorem lt_turnLimit (s : Session) {turns : Nat} (hturns : turns < Nat.pow 2 64) :
    turns < s.turnLimit :=
  Nat.lt_of_lt_of_le hturns (Nat.le_add_left _ _)

/-- A pull comes to what a turn answers that follows a few turns that lead on. -/
theorem pullWithin_of_turns {count turns : Nat} {s r s' : Session} {result : Except Error Turn}
    {answer : Pull} (hturns : Turns count s r) (hlast : r.turn = (result, s'))
    (hanswer : Turn.answer? result = some answer) (hcount : count < turns) :
    s.pullWithin turns = (answer, s') := by
  obtain ⟨spare, rfl⟩ := Nat.exists_eq_add_of_lt hcount
  rw [Nat.add_assoc, hturns.pullWithin, pullWithin_of_answer hlast hanswer]

/-- Any number of turns that a pull cannot use up makes for the same answer. -/
theorem pullWithin_eq_of_answer {turns more : Nat} {s : Session}
    (hanswer : (s.pullWithin turns).1 ≠ .unfinished)
    (hmore : ∀ count r, Turns count s r → count < more) :
    s.pullWithin more = s.pullWithin turns := by
  obtain ⟨count, r, result, hturns, hlast, hresult⟩ := exists_last_turn rfl hanswer
  exact pullWithin_of_turns hturns hlast hresult (hmore count r hturns)

theorem pull_of_turns {count : Nat} {s r s' : Session} {result : Except Error Turn} {answer : Pull}
    (hturns : Turns count s r) (hlast : r.turn = (result, s'))
    (hanswer : Turn.answer? result = some answer) (hcount : count < s.turnLimit) :
    s.pull = (answer, s') :=
  pullWithin_of_turns hturns hlast hanswer hcount

end Session

end Workflow
