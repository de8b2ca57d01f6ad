import Workflow.Proofs.Client.Ending

/-!
# Events of a client

The sessions of a client emit into one queue, one session after another.  A pull moves what waits
there to the events that are kept, up to the first redirect, and drops the redirect and what comes
after it.  Nothing is lost by that: a session emits nothing in a pull after it is redirected, so a
redirect is the last event that waits, `Session.RedirectLast`.

`Client.Log` is what happened to a client so far, with everything that each of its sessions emitted.
What was taken and what is still to be taken are the events of the log but for the redirects, and
each session that was replaced has emitted the one redirect that led to the next one,
`Client.Accounts`.
-/

namespace Workflow

def Event.withoutRedirects (events : List Event) : List Event :=
  events.filter fun event => event.redirectUrl?.isNone

@[simp] theorem Event.withoutRedirects_append (first second : List Event) :
    withoutRedirects (first ++ second) = withoutRedirects first ++ withoutRedirects second :=
  List.filter_append first second

theorem Event.redirectUrl?_of_mem {event : Event} {events : List Event}
    (hmem : event ∈ withoutRedirects events) : event.redirectUrl? = none := by
  obtain ⟨-, hnone⟩ := List.mem_filter.mp hmem
  exact Option.isNone_iff_eq_none.mp hnone

/-- Where only the last event may be a redirect, nothing else comes after the first one. -/
theorem Event.splitAtRedirect_fst {events : List Event}
    (hlast : ∀ event ∈ events.dropLast, event.redirectUrl? = none) :
    (splitAtRedirect events).1 = withoutRedirects events := by
  induction events with
  | nil => rfl
  | cons event rest ih =>
      cases hurl : event.redirectUrl? with
      | none =>
          have hrest : ∀ later ∈ rest.dropLast, later.redirectUrl? = none := by
            intro later hmem
            apply hlast
            cases rest with
            | nil => cases hmem
            | cons => exact List.mem_cons_of_mem event hmem
          simp [splitAtRedirect, withoutRedirects, hurl, ih hrest]
      | some url =>
          cases rest with
          | nil => simp [splitAtRedirect, withoutRedirects, hurl]
          | cons =>
              have hnone := hlast event List.mem_cons_self
              rw [hurl] at hnone
              cases hnone

namespace Session

variable {s s' : Session}

/-- What the program around a session does with one of its tasks. -/
inductive TaskStep (s : Session) (id : TaskId) : Session → Prop
  | filledIn (field : String) (value : Value) : TaskStep s id (s.fillIn id field value).2
  | clicked (component : String) : TaskStep s id (s.click id component).2
  | answered (value : Value) : TaskStep s id (s.answer id value).2

theorem TaskStep.step {id : TaskId} (hwork : s.TaskStep id s') : s.Step s' := by
  cases hwork with
  | filledIn field value => exact .filledIn id field value
  | clicked component => exact .clicked id component
  | answered value => exact .answered id value

theorem TaskStep.acts {id : TaskId} (hwork : s.TaskStep id s') : Acts id s s' := by
  cases hwork with
  | filledIn field value => exact fillIn_acts s id field value
  | clicked component => exact click_acts s id component
  | answered value => exact answer_acts s id value

/-! ## Redirects in the queue -/

/-- Only the last event that waits may be a redirect, and then the session is redirected. -/
structure RedirectLast (s : Session) : Prop where
  last : ∀ event ∈ s.events.toList.dropLast, event.redirectUrl? = none
  redirected : s.redirectedTo = none → s.waitingRedirects = []

theorem redirectLast_of_quiet (hquiet : s.waitingRedirects = []) : s.RedirectLast where
  last := fun event hmem =>
    List.filterMap_eq_nil_iff.mp hquiet event (List.dropLast_subset _ hmem)
  redirected := fun _ => hquiet

theorem RedirectLast.turn {result : Except Error Turn} (hlast : s.RedirectLast)
    (hturn : s.turn = (result, s')) : s'.RedirectLast := by
  by_cases hbefore : s.redirectedTo.isSome = true
  · rw [turn_of_not_running (.inl hbefore)] at hturn
    cases hturn
    exact hlast
  · have hrunning := Option.not_isSome_iff_eq_none.mp hbefore
    have hquiet := hlast.redirected hrunning
    have hwaiting := List.filterMap_eq_nil_iff.mp hquiet
    obtain ⟨said, hsaid⟩ := (turned hturn).announces
    constructor
    · -- The turn adds one event at most, and none of those before it is a redirect.
      intro event hmem
      rw [hsaid.queued] at hmem
      cases said with
      | none =>
          rw [Option.toList_none, List.append_nil] at hmem
          exact hlast.last event hmem
      | some new =>
          rw [Option.toList_some, List.dropLast_concat] at hmem
          exact hwaiting event hmem
    · intro hafter
      have hredirected := hsaid.redirected
      rw [hrunning, hafter] at hredirected
      rw [waitingRedirects, hsaid.queued, List.filterMap_append, ← waitingRedirects, hquiet]
      simpa using hredirected.symm

theorem RedirectLast.turns {count : Nat} (hlast : s.RedirectLast) (hturns : Turns count s s') :
    s'.RedirectLast := by
  induction hturns with
  | refl => exact hlast
  | turn hturn _ ih => exact ih (hlast.turn hturn)

theorem RedirectLast.pull {turns : Nat} {answer : Pull} (hlast : s.RedirectLast)
    (hpull : s.pullWithin turns = (answer, s')) (hanswer : answer ≠ .unfinished) :
    s'.RedirectLast := by
  obtain ⟨count, r, result, hturns, hturn, -⟩ := exists_last_turn hpull hanswer
  exact (hlast.turns hturns).turn hturn

end Session

namespace Client

/-- What a program does with a client if it leaves it to the client which documents to load, and
the events that it takes. -/
inductive Uses (start : Client) : List Event → Client → Prop
  | refl : Uses start [] start
  | pulled {taken : List Event} {c c' : Client} {steps : Nat} {answer : Pull}
      (hbefore : Uses start taken c) (hpull : c.pullWithin steps = (answer, c'))
      (hanswer : answer ≠ .unfinished) : Uses start taken c'
  | worked {taken : List Event} {c : Client} {id : TaskId} {session : Session}
      (hbefore : Uses start taken c) (hwork : c.session.TaskStep id session) :
      Uses start taken { c with session }
  | breakpointSet {taken : List Event} {c : Client} (hbefore : Uses start taken c)
      (name : String) : Uses start taken (c.setBreakpoint name)
  | eventsTaken {taken : List Event} {c : Client} (hbefore : Uses start taken c) :
      Uses start (taken ++ c.takeEvents.1) c.takeEvents.2

/-- A session that was replaced: all that it emitted, and the client before and after the step of
the pull that replaced it. -/
structure Replacement where
  emitted : List Event
  before : Client
  after : Client

/-- What happened to a client: the sessions that were replaced, one after another, what the session
there is has emitted, and what was taken. -/
structure Log where
  replaced : List Replacement
  current : List Event
  taken : List Event

namespace Log

def emitted (log : Log) : List Event :=
  log.replaced.flatMap Replacement.emitted ++ log.current

def emit (log : Log) (new : List Event) : Log :=
  { log with current := log.current ++ new }

def replace (log : Log) (before after : Client) : Log :=
  { log with
    replaced := log.replaced ++ [⟨log.current, before, after⟩]
    current := [] }

@[simp] theorem emitted_emit (log : Log) (new : List Event) :
    (log.emit new).emitted = log.emitted ++ new :=
  (List.append_assoc ..).symm

@[simp] theorem emitted_replace (log : Log) (before after : Client) :
    (log.replace before after).emitted = log.emitted := by
  simp [emitted, replace]

end Log

/-- What happens to a client, step by step of its pulls, with its log.  A session adds to the queue
only, so what it emits in a step is what the queue has more. -/
inductive Logged (start : Client) : Log → Client → Prop
  | started : Logged start ⟨[], [], []⟩ start
  | decided {log : Log} {c c' : Client} {pull answer : Pull} {session : Session}
      {new : List Event} (hbefore : Logged start log c) (hpull : c.session.pull = (pull, session))
      (hnew : session.events.toList = c.session.events.toList ++ new)
      (hsettle : c.settle (pull, session) = (some answer, c')) (hanswer : answer ≠ .unfinished) :
      Logged start (log.emit new) c'
  | replaced {log : Log} {c c' : Client} {pull : Pull} {session : Session} {new : List Event}
      (hbefore : Logged start log c) (hpull : c.session.pull = (pull, session))
      (hnew : session.events.toList = c.session.events.toList ++ new)
      (hsettle : c.settle (pull, session) = (none, c')) :
      Logged start ((log.emit new).replace c c') c'
  | worked {log : Log} {c : Client} {id : TaskId} {session : Session} {new : List Event}
      (hbefore : Logged start log c) (hwork : c.session.TaskStep id session)
      (hnew : session.events.toList = c.session.events.toList ++ new) :
      Logged start (log.emit new) { c with session }
  | breakpointSet {log : Log} {c : Client} (hbefore : Logged start log c) (name : String) :
      Logged start log (c.setBreakpoint name)
  | eventsTaken {log : Log} {c : Client} (hbefore : Logged start log c) :
      Logged start { log with taken := log.taken ++ c.takeEvents.1 } c.takeEvents.2

/-- The events that are still to be taken. -/
def untaken (c : Client) : List Event :=
  c.kept.toList ++ Event.withoutRedirects c.session.events.toList

/-- The session emitted one redirect, and the document that it leads to took its place. -/
def Replacement.Follows (r : Replacement) (url : String) : Prop :=
  r.emitted.filterMap Event.redirectUrl? = [url] ∧
    load r.before.source r.before.settings r.before.requests url = .ok r.after.session ∧
    r.after.url = url

/-- The log of a client accounts for the events that are still to be taken, and for the documents
that were loaded. -/
structure Accounts (log : Log) (c : Client) : Prop where
  ready : c.Ready
  events : log.taken ++ c.untaken = Event.withoutRedirects log.emitted
  redirected : log.current.filterMap Event.redirectUrl? = c.session.redirectedTo.toList
  replaced : ∀ r ∈ log.replaced, ∃ url, r.Follows url

section

variable {c c' start : Client} {log : Log} {new : List Event}

/-! ## One step of a pull -/

theorem drain_untaken (hlast : c.session.RedirectLast) : c.drain.2.untaken = c.untaken := by
  have hsplit := Event.splitAtRedirect_fst hlast.last
  simp [drain, untaken, Session.drainEvents, hsplit, Event.withoutRedirects]

theorem reload_untaken (c : Client) (url : String) : (c.reload url).2.untaken = c.untaken := by
  unfold reload
  dsimp only
  split <;> rfl

theorem settle_untaken (pull : Pull) {session : Session} (hlast : session.RedirectLast) :
    (c.settle (pull, session)).2.untaken = ({ c with session } : Client).untaken := by
  have hdrained := drain_untaken (c := { c with session }) hlast
  cases pull with
  | failed | unfinished => rfl
  | task | ended =>
      dsimp only [settle]
      split
      · next drained hdrain =>
          rw [hdrain] at hdrained
          exact hdrained
      · next url drained hdrain =>
          rw [hdrain] at hdrained
          have hreloaded := reload_untaken drained url
          split <;> next hreload =>
            rw [hreload] at hreloaded
            exact hreloaded.trans hdrained

/-! ## What is logged is accounted for -/

theorem accounts_start {source : Source} {settings : SessionSettings} {url : String}
    (hstart : Client.start source settings url = .ok start) : Accounts ⟨[], [], []⟩ start := by
  have hready := (Run.kept hstart .refl).ready
  obtain ⟨session, hload, rfl⟩ := exists_of_map_eq_ok hstart
  obtain ⟨-, hnone, hempty⟩ := fresh_of_load hload
  refine ⟨hready, ?_, ?_, by simp⟩
  · rw [untaken, hempty]
    rfl
  · rw [hnone]
    rfl

/-- What the session emits is to be taken later, but for a redirect. -/
theorem Accounts.emit {session : Session} (haccounts : Accounts log c)
    (hstep : c.session.Step session)
    (hnew : session.events.toList = c.session.events.toList ++ new) :
    log.taken ++ ({ c with session } : Client).untaken =
        Event.withoutRedirects (log.emit new).emitted ∧
      (log.emit new).current.filterMap Event.redirectUrl? = session.redirectedTo.toList := by
  constructor
  · rw [Log.emitted_emit, Event.withoutRedirects_append, ← haccounts.events, untaken, untaken,
      hnew, Event.withoutRedirects_append]
    simp only [List.append_assoc]
  · obtain ⟨found, hqueued, hredirected⟩ := Session.Moves.announced hstep.moves
    obtain rfl : found = new := List.append_cancel_left (hqueued.symm.trans hnew)
    rw [Log.emit, List.filterMap_append, haccounts.redirected, hredirected]

/-- Where a pull of the session is settled, nothing that it emitted is lost. -/
theorem Accounts.settled {pull : Pull} {session : Session} {decided : Option Pull}
    (haccounts : Accounts log c) (hpull : c.session.pull = (pull, session))
    (hnew : session.events.toList = c.session.events.toList ++ new)
    (hsettle : c.settle (pull, session) = (decided, c')) (hdecided : decided ≠ some .unfinished) :
    c'.Ready ∧ Settles c pull session decided c' ∧
      log.taken ++ c'.untaken = Event.withoutRedirects (log.emit new).emitted ∧
      (log.emit new).current.filterMap Event.redirectUrl? = session.redirectedTo.toList := by
  rw [Session.pull] at hpull
  obtain ⟨hstep, hsettles⟩ := settle_settles haccounts.ready hpull hsettle hdecided
  obtain ⟨huntaken, hredirected⟩ := haccounts.emit hstep hnew
  have hanswer := ne_unfinished_of_settle hsettle hdecided
  have hlast := (Session.redirectLast_of_quiet haccounts.ready.quiet).pull hpull hanswer
  have hsame := settle_untaken (c := c) pull hlast
  rw [hsettle] at hsame
  refine ⟨?_, hsettles, hsame ▸ huntaken, hredirected⟩
  cases settle_stepped haccounts.ready hpull hsettle hdecided with
  | decided hpulled => exact hpulled.ready
  | loaded hready => exact hready

theorem Accounts.decided {pull answer : Pull} {session : Session} (haccounts : Accounts log c)
    (hpull : c.session.pull = (pull, session))
    (hnew : session.events.toList = c.session.events.toList ++ new)
    (hsettle : c.settle (pull, session) = (some answer, c')) (hanswer : answer ≠ .unfinished) :
    Accounts (log.emit new) c' := by
  obtain ⟨hready, hsettles, huntaken, hredirected⟩ :=
    haccounts.settled hpull hnew hsettle (by simpa using hanswer)
  refine ⟨hready, huntaken, ?_, haccounts.replaced⟩
  cases hsettles with
  | answered | failed => exact hredirected

theorem Accounts.replace {pull : Pull} {session : Session} (haccounts : Accounts log c)
    (hpull : c.session.pull = (pull, session))
    (hnew : session.events.toList = c.session.events.toList ++ new)
    (hsettle : c.settle (pull, session) = (none, c')) :
    Accounts ((log.emit new).replace c c') c' := by
  obtain ⟨hready, hsettles, huntaken, hemitted⟩ :=
    haccounts.settled hpull hnew hsettle (by simp)
  cases hsettles with
  | @loaded url kept fresh hredirected hload =>
      obtain ⟨-, hnone, hempty⟩ := fresh_of_load hload
      have hfresh : { fresh with events := #[] } = fresh := by rw [← hempty]
      refine ⟨hready, ?_, ?_, ?_⟩
      · rw [Log.emitted_replace]
        exact huntaken
      · rw [hfresh, hnone]
        rfl
      · intro r hmem
        rcases List.mem_append.mp hmem with hbefore | hnow
        · exact haccounts.replaced r hbefore
        · obtain rfl := List.mem_singleton.mp hnow
          rw [hredirected] at hemitted
          refine ⟨url, hemitted, ?_, rfl⟩
          rw [hfresh]
          exact hload

theorem Accounts.worked {id : TaskId} {session : Session} (haccounts : Accounts log c)
    (hwork : c.session.TaskStep id session)
    (hnew : session.events.toList = c.session.events.toList ++ new) :
    Accounts (log.emit new) { c with session } := by
  obtain ⟨huntaken, hredirected⟩ := haccounts.emit hwork.step hnew
  have hready := haccounts.ready.acts hwork.step hwork.acts
  exact ⟨hready, huntaken, hredirected, haccounts.replaced⟩

theorem Accounts.taken (haccounts : Accounts log c) :
    Accounts { log with taken := log.taken ++ c.takeEvents.1 } c.takeEvents.2 := by
  refine ⟨⟨haccounts.ready.driven, haccounts.ready.quiet⟩, ?_, haccounts.redirected,
    haccounts.replaced⟩
  have huntaken := haccounts.events
  rw [untaken, ← List.append_assoc] at huntaken
  exact huntaken

theorem Logged.accounts {source : Source} {settings : SessionSettings} {url : String}
    (hstart : Client.start source settings url = .ok start) (hlogged : start.Logged log c) :
    Accounts log c := by
  induction hlogged with
  | started => exact accounts_start hstart
  | decided _ hpull hnew hsettle hanswer ih => exact ih.decided hpull hnew hsettle hanswer
  | replaced _ hpull hnew hsettle ih => exact ih.replace hpull hnew hsettle
  | worked _ hwork hnew ih => exact ih.worked hwork hnew
  | breakpointSet _ name ih =>
      have hdrives := ih.ready.driven.drives (.single (.operated (.breakpointSet name)))
      exact ⟨⟨hdrives, ih.ready.quiet⟩, ih.events, ih.redirected, ih.replaced⟩
  | eventsTaken _ ih => exact ih.taken

/-! ## Every run is logged -/

theorem Logged.step {decided : Option Pull} (hlogged : start.Logged log c) (hready : c.Ready)
    (hstep : c.step = (decided, c')) (hdecided : decided ≠ some .unfinished) :
    ∃ log', start.Logged log' c' ∧ log'.taken = log.taken := by
  obtain ⟨pull, session, hpull, hsettle⟩ := exists_pull_of_step hstep
  have hpulled := hpull
  rw [Session.pull] at hpulled
  obtain ⟨hmoved, -⟩ := settle_settles hready hpulled hsettle hdecided
  obtain ⟨new, hnew, -⟩ := Session.Moves.announced hmoved.moves
  cases decided with
  | none => exact ⟨_, hlogged.replaced hpull hnew hsettle, rfl⟩
  | some answer =>
      have hanswer : answer ≠ .unfinished := by simpa using hdecided
      exact ⟨_, hlogged.decided hpull hnew hsettle hanswer, rfl⟩

theorem Uses.logged {source : Source} {settings : SessionSettings} {url : String}
    {taken : List Event} (hstart : Client.start source settings url = .ok start)
    (huses : start.Uses taken c) : ∃ log, start.Logged log c ∧ log.taken = taken := by
  induction huses with
  | refl => exact ⟨_, .started, rfl⟩
  | @pulled taken c c' steps answer _ hpull hanswer ih =>
      have hstep : ∀ r r' decided, (∃ log, start.Logged log r ∧ log.taken = taken) →
          r.step = (decided, r') → decided ≠ some .unfinished →
            ∃ log, start.Logged log r' ∧ log.taken = taken := by
        rintro r r' decided ⟨log, hlogged, rfl⟩ hstep hdecided
        exact hlogged.step (hlogged.accounts hstart).ready hstep hdecided
      refine of_decideWithin (fun r => ∃ log, start.Logged log r ∧ log.taken = taken)
        (fun _ r => ∃ log, start.Logged log r ∧ log.taken = taken) ih ?_ ?_ hpull hanswer
      · intro r r' pull hbefore hdecided hne
        exact hstep r r' (some pull) hbefore hdecided (by simpa using hne)
      · intro r r' hbefore hnone
        exact hstep r r' none hbefore hnone (by simp)
  | worked _ hwork ih =>
      obtain ⟨log, hlogged, rfl⟩ := ih
      obtain ⟨new, hnew, -⟩ := Session.Moves.announced hwork.step.moves
      exact ⟨_, hlogged.worked hwork hnew, rfl⟩
  | breakpointSet _ name ih =>
      obtain ⟨log, hlogged, rfl⟩ := ih
      exact ⟨_, hlogged.breakpointSet name, rfl⟩
  | eventsTaken _ ih =>
      obtain ⟨log, hlogged, rfl⟩ := ih
      exact ⟨_, hlogged.eventsTaken, rfl⟩

/-- A client loses no event, and gives none out twice.  Every run has a log; what was taken, what is
kept and what waits in the queue make up all that the sessions of the log emitted, in that order,
but for the redirects, and no redirect is ever taken.  Each session that was replaced had emitted
one redirect, and the document that it leads to was loaded; the session there is has emitted none,
or the one that it is redirected by. -/
theorem events_accounted {source : Source} {settings : SessionSettings} {url : String}
    (hstart : Client.start source settings url = .ok start) :
    (∀ taken c, start.Uses taken c → ∃ log, start.Logged log c ∧ log.taken = taken) ∧
      ∀ log c, start.Logged log c →
        log.taken ++ c.kept.toList ++ Event.withoutRedirects c.session.events.toList =
            Event.withoutRedirects log.emitted ∧
          (∀ event ∈ log.taken, event.redirectUrl? = none) ∧
          (∀ r ∈ log.replaced, ∃ url, r.Follows url) ∧
          log.current.filterMap Event.redirectUrl? = c.session.redirectedTo.toList := by
  refine ⟨fun taken c huses => huses.logged hstart, fun log c hlogged => ?_⟩
  have haccounts := hlogged.accounts hstart
  refine ⟨?_, ?_, haccounts.replaced, haccounts.redirected⟩
  · rw [List.append_assoc]
    exact haccounts.events
  · intro event hmem
    have hemitted : event ∈ Event.withoutRedirects log.emitted := by
      rw [← haccounts.events]
      exact List.mem_append_left _ hmem
    exact Event.redirectUrl?_of_mem hemitted

end

/-- Two documents with a marker each, the first of which leads to the second. -/
def relay : Source :=
  .ofTexts [
    ("/first",
      "\x7b\"starting_flow\": \"main\", \"flows\": \x7b\"main\": \x7b\"tasks\": [" ++
      "[\"event\", \"set out\", [], \"departed\"], " ++
      "[\"redirect\", \"leave\", [], \"/second\"]]\x7d\x7d\x7d"),
    ("/second",
      "\x7b\"starting_flow\": \"main\", \"flows\": \x7b\"main\": \x7b\"tasks\": [" ++
      "[\"event\", \"come in\", [], \"arrived\"]]\x7d\x7d\x7d")]

/-- A pull of `relay` takes two steps, and each document emits its events in one of them. -/
theorem relay_steps : ∃ start c₁ c₂, Client.start relay {} "/first" = .ok start ∧
    start.step = (none, c₁) ∧ c₁.step = (some .ended, c₂) ∧
      start.session.pull.2.events.toList = start.session.events.toList ++
        [.marker "set out" "departed", .redirect "/second"] ∧
      c₁.session.pull.2.events.toList = c₁.session.events.toList ++
        [.marker "come in" "arrived"] ∧
      c₂.kept.toList = [.marker "set out" "departed", .marker "come in" "arrived"] := by
  have hsteps : (Client.start relay {} "/first").map (fun start => decide
      (start.step.1 = none ∧ start.step.2.step.1 = some .ended ∧
        start.session.pull.2.events.toList = start.session.events.toList ++
          [.marker "set out" "departed", .redirect "/second"] ∧
        start.step.2.session.pull.2.events.toList = start.step.2.session.events.toList ++
          [.marker "come in" "arrived"] ∧
        start.step.2.step.2.kept.toList =
          [.marker "set out" "departed", .marker "come in" "arrived"])) = .ok true := by
    decide +kernel
  obtain ⟨start, hstart, hfacts⟩ := exists_of_map_eq_ok hsteps
  obtain ⟨hfirst, hsecond, hfacts⟩ := of_decide_eq_true hfacts
  exact ⟨start, _, _, hstart, eq_of_fst_eq hfirst, eq_of_fst_eq hsecond, hfacts⟩

/-- The markers of both documents are taken, nothing else is left to be taken, and the redirect
between them was followed. -/
theorem relay_accounted : ∃ start c₁ c, Client.start relay {} "/first" = .ok start ∧
    start.Uses [.marker "set out" "departed", .marker "come in" "arrived"] c ∧
      start.Logged
        ⟨[⟨[.marker "set out" "departed", .redirect "/second"], start, c₁⟩],
          [.marker "come in" "arrived"],
          [.marker "set out" "departed", .marker "come in" "arrived"]⟩ c ∧
      c.untaken = [] ∧
      load start.source start.settings start.requests "/second" = .ok c₁.session := by
  obtain ⟨start, c₁, c₂, hstart, hfirst, hsecond, hdeparted, harrived, hkept⟩ := relay_steps
  have hpulled : start.pullWithin 2 = (.ended, c₂) := by
    rw [pullWithin, decideWithin, hfirst]
    exact decideWithin_of_some hsecond 0
  have huses : start.Uses c₂.kept.toList c₂.takeEvents.2 :=
    .eventsTaken (.pulled .refl hpulled Pull.noConfusion)
  obtain ⟨firstPull, first, hpull₁, hsettle₁⟩ := exists_pull_of_step hfirst
  obtain ⟨secondPull, second, hpull₂, hsettle₂⟩ := exists_pull_of_step hsecond
  rw [hpull₁] at hdeparted
  rw [hpull₂] at harrived
  have hreplaced := Logged.replaced .started hpull₁ hdeparted hsettle₁
  have hdecided := hreplaced.decided hpull₂ harrived hsettle₂ Pull.noConfusion
  have hlogged : start.Logged
      ⟨[⟨[.marker "set out" "departed", .redirect "/second"], start, c₁⟩],
        [.marker "come in" "arrived"], c₂.kept.toList⟩ c₂.takeEvents.2 := hdecided.eventsTaken
  rw [hkept] at huses hlogged
  obtain ⟨hevents, -, hfollows, -⟩ := (events_accounted hstart).2 _ _ hlogged
  obtain ⟨url, hurl, hload, -⟩ := hfollows _ (List.mem_singleton_self _)
  obtain rfl : "/second" = url := List.singleton_inj.mp hurl
  refine ⟨start, c₁, _, hstart, huses, hlogged, ?_, hload⟩
  rw [List.append_assoc] at hevents
  exact List.append_cancel_left (hevents.trans (List.append_nil _).symm)

end Client

end Workflow
