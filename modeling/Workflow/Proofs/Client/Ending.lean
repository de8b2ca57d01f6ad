import Workflow.Client
import Workflow.Proofs.Failures.Values
import Workflow.Proofs.Session.Moments
import Workflow.Proofs.Session.Redirecting

/-!
# When a client comes to its end

A pull of a client ends when its session has nothing left to run and no redirect waits.  The session
has then left its root flow, or it was redirected before, `Client.Pulled`: a pull that meets a
redirect takes it from the queue and loads the document it leads to, `Client.Settles`.

If that document cannot be loaded the pull fails, and the redirect is gone: the session stays
redirected, nothing is left to tell the client where to go, and every later pull says that the end
was reached, `Client.Lost`.
-/

namespace Workflow

theorem Event.splitAtRedirect_snd (events : List Event) :
    (splitAtRedirect events).2 = (events.filterMap redirectUrl?).head? := by
  induction events with
  | nil => rfl
  | cons event rest ih =>
      cases hurl : event.redirectUrl? with
      | some url => simp [splitAtRedirect, hurl]
      | none => simp [splitAtRedirect, hurl, ih]

namespace Session

variable {s s' : Session}

/-! ## Pulls of a session -/

def waitingRedirects (s : Session) : List String :=
  s.events.toList.filterMap Event.redirectUrl?

/-- If no redirect waits, then at most one waits later, and that is where the session has been
redirected to in between. -/
theorem redirectedTo_of_moves (hmoves : Relation.ReflTransGen Move s s')
    (hquiet : s.waitingRedirects = []) :
    s'.waitingRedirects = [] ∧ s'.redirectedTo = s.redirectedTo ∨
      ∃ url, s'.waitingRedirects = [url] ∧ s.redirectedTo = none ∧ s'.redirectedTo = some url := by
  obtain ⟨new, hqueued, hredirected⟩ := Moves.announced hmoves
  have hwaiting : s'.waitingRedirects = new.filterMap Event.redirectUrl? := by
    rw [waitingRedirects] at hquiet
    rw [waitingRedirects, hqueued, List.filterMap_append, hquiet, List.nil_append]
  rw [← hwaiting] at hredirected
  cases hbefore : s.redirectedTo with
  | none =>
      cases hafter : s'.redirectedTo with
      | none => exact .inl ⟨by simpa [hbefore, hafter] using hredirected, rfl⟩
      | some url => exact .inr ⟨url, by simpa [hbefore, hafter] using hredirected.symm, rfl, rfl⟩
  | some url =>
      cases hafter : s'.redirectedTo with
      | none => simp [hbefore, hafter] at hredirected
      | some found =>
          obtain ⟨rfl, hnone⟩ : found = url ∧ s'.waitingRedirects = [] := by
            simpa [hbefore, hafter] using hredirected
          exact .inl ⟨hnone, rfl⟩

theorem Act.redirectedTo_eq {id : TaskId} (hact : Act id s s') :
    s'.redirectedTo = s.redirectedTo := by
  cases hact with
  | screenSet | resultMerged | patched | recorded | refused => rfl
  | completed => simp
  | returned => simp

theorem Acts.redirectedTo_eq {id : TaskId} (hacts : Acts id s s') :
    s'.redirectedTo = s.redirectedTo := by
  induction hacts with
  | refl => rfl
  | tail _ hact ih => exact hact.redirectedTo_eq.trans ih

/-- A turn that fails is one of a session that is not redirected, and leaves it so. -/
theorem redirectedTo_of_error {error : Error} (hturn : s.turn = (.error error, s')) :
    s'.redirectedTo = none := by
  have hrunning : s.redirectedTo = none := by
    refine Option.not_isSome_iff_eq_none.mp fun hredirected => ?_
    rw [turn_of_not_running (.inl hredirected)] at hturn
    cases hturn
  cases turned hturn with
  | stuck => exact hrunning
  | left _ _ _ _ _ hleave =>
      unfold leave at hleave
      dsimp only at hleave
      split_ifs at hleave <;> cases hleave
  | dropped | unopened => exact hrunning
  | @unpublished _ id =>
      obtain ⟨-, -, -, hredirected, -⟩ := concluded_others s id true
      exact hredirected.trans hrunning

theorem redirectedTo_of_failed {error : Error} {turns : Nat}
    (hpull : s.pullWithin turns = (.failed error, s')) : s'.redirectedTo = none := by
  obtain ⟨count, r, result, -, hlast, hanswer⟩ := exists_last_turn hpull Pull.noConfusion
  cases result with
  | error found => exact redirectedTo_of_error hlast
  | ok turn => cases turn <;> cases hanswer

/-- A pull ends where the session is redirected, or where nothing is left to run. -/
theorem finished_of_ended {turns : Nat} (hsound : s.Sound)
    (hpull : s.pullWithin turns = (.ended, s')) :
    s'.redirectedTo.isSome = true ∨ s'.isFinished = true := by
  obtain ⟨count, r, result, hturns, hlast, hanswer⟩ := exists_last_turn hpull Pull.noConfusion
  have hended : result = .ok .ended := by
    cases result with
    | error found => cases hanswer
    | ok turn => cases turn <;> first | rfl | cases hanswer
  subst hended
  have hsound' := Moves.sound hturns.moves hsound
  cases turned hlast with
  | idle hidle =>
      refine hidle.imp_right fun hempty => ?_
      rw [Cursor.head?_eq hsound'.active, List.head?_eq_none_iff] at hempty
      rw [isFinished, Cursor.isEmpty_eq hsound'.active, hempty]
      rfl
  | left _ _ _ _ _ hleave =>
      unfold leave at hleave
      dsimp only at hleave
      split_ifs at hleave with hempty
      · cases hleave
        exact .inr hempty
      · cases hleave

/-- A session is redirected by a turn within a flow that stays the innermost one. -/
theorem Turned.active_of_redirected {result : Except Error Turn} (hturned : s.Turned result s')
    (hbefore : s.redirectedTo = none) (hafter : s'.redirectedTo.isSome = true) :
    s'.active = s.active ∧ s.active.head?.isSome = true := by
  have hsame : s'.redirectedTo = s.redirectedTo →
      s'.active = s.active ∧ s.active.head?.isSome = true := by
    intro hsame
    rw [hsame, hbefore] at hafter
    cases hafter
  cases hturned with
  | idle | stuck | unbound | waiting | entered | interrupted => exact hsame rfl
  | left _ _ _ _ _ hleave =>
      unfold leave at hleave
      dsimp only at hleave
      split_ifs at hleave <;> cases hleave <;> exact hsame rfl
  | @settled _ id _ child _ ran hat _ _ hrun =>
      obtain ⟨task, hwork⟩ := hat.working
      exact ⟨(foldChild_others ran id child).1.trans (runChild_others hrun).1,
        by rw [hwork.head]; rfl⟩
  | dropped | skipped | unopened | passOpened | passEnded => exact hsame rfl
  | opened => exact hsame (by simp)
  | @published _ id _ _ mark => exact hsame (concluded_others s id mark).2.2.2.1
  | @unpublished _ id => exact hsame (concluded_others s id true).2.2.2.1

/-- A redirected session has a flow that it does not go on with. -/
def Stranded (s : Session) : Prop :=
  s.redirectedTo.isSome = true → s.active.toList ≠ []

theorem Stranded.turn {result : Except Error Turn} (hstranded : s.Stranded) (hsound : s.Sound)
    (hturn : s.turn = (result, s')) : s'.Stranded := by
  intro hredirected
  by_cases hbefore : s.redirectedTo.isSome = true
  · rw [turn_of_not_running (.inl hbefore)] at hturn
    cases hturn
    exact hstranded hbefore
  · obtain ⟨hactive, hhead⟩ := (turned hturn).active_of_redirected
      (Option.not_isSome_iff_eq_none.mp hbefore) hredirected
    rw [hactive]
    intro hempty
    rw [Cursor.head?_eq hsound.active, hempty] at hhead
    cases hhead

theorem Stranded.act {id : TaskId} (hstranded : s.Stranded) (hsound : s.Sound)
    (hact : Act id s s') : s'.Stranded := by
  rcases hact.quiet_or_returned with hquiet | ⟨task, entry, target, -, -, htarget, rfl⟩
  · rw [Stranded, hquiet.redirectedTo, hquiet.active]
    exact hstranded
  · intro _
    rcases hsound.nested with hempty | ⟨innermost, hnested⟩
    · rw [hempty] at htarget
      cases htarget
    · obtain ⟨-, outer, hsuffix, hflow⟩ := hnested.of_returnTarget? hsound.wired htarget
      have hrestored := restored hsound.wired hsound.active hnested hsuffix hflow
      change (s.restore target entry).active.toList ≠ []
      rw [hrestored.active]
      exact List.cons_ne_nil target outer

/-- A session that is redirected is never finished. -/
theorem Driven.not_finished (hdriven : s.Driven) (hredirected : s.redirectedTo.isSome = true) :
    s.isFinished = false := by
  obtain ⟨document, settings, ownsEvents, start, hstart, hdrives⟩ := hdriven
  obtain ⟨horderly, hrest⟩ := orderly_start hstart
  obtain ⟨hevolves, -⟩ := hdrives.evolves horderly hrest
  have hstranded : s.Stranded := by
    clear hredirected hdrives
    induction hevolves with
    | refl =>
        obtain ⟨declared, -, rfl⟩ := start_eq hstart
        exact fun hredirected => Bool.noConfusion hredirected
    | tail hbefore hmoment ih =>
        have hsound := (Evolves.orderly hbefore horderly).sound
        cases hmoment with
        | turn hturn => exact ih.turn hsound hturn
        | act _ hact => exact ih.act hsound hact
        | breakpoint | requeued => exact ih
  have hsound := (hevolves.orderly horderly).sound
  rw [isFinished, Cursor.isEmpty_eq hsound.active, List.isEmpty_eq_false_iff]
  exact hstranded hredirected

end Session

namespace Client

/-- What the program around a client does with it: it pulls it, works on the tasks of its session,
sets breakpoints, takes events, and has it load a document. -/
inductive Step (c : Client) : Client → Prop
  | pulled {steps : Nat} {answer : Pull} {c' : Client} (hpull : c.pullWithin steps = (answer, c'))
      (hanswer : answer ≠ .unfinished) : Step c c'
  | filledIn (id : TaskId) (field : String) (value : Value) :
      Step c { c with session := (c.session.fillIn id field value).2 }
  | clicked (id : TaskId) (component : String) :
      Step c { c with session := (c.session.click id component).2 }
  | answered (id : TaskId) (value : Value) :
      Step c { c with session := (c.session.answer id value).2 }
  | breakpointSet (name : String) : Step c (c.setBreakpoint name)
  | eventsTaken : Step c c.takeEvents.2
  | reloaded (url : String) : Step c (c.reload url).2

/-- Whatever the program around a client does. -/
def Run : Client → Client → Prop :=
  Relation.ReflTransGen Step

/-- Between two operations no redirect waits in the queue. -/
structure Ready (c : Client) : Prop where
  driven : c.session.Driven
  quiet : c.session.waitingRedirects = []

/-- The last request of the client was for the document at a url, which failed to load. -/
def FailedToLoad (c : Client) (url : String) (error : Error) : Prop :=
  ∃ request, c.requests = request + 1 ∧ load c.source c.settings request url = .error error

/-- The redirect of the session was lost: a pull took it from the queue and failed to load the
document it leads to, and the session is still the same. -/
inductive Lost (start : Client) : Client → Prop
  | failed {c c' : Client} {steps : Nat} {error : Error} {url : String} (hrun : start.Run c)
      (hpull : c.pullWithin steps = (.failed error, c'))
      (hredirected : c'.session.redirectedTo = some url) (hload : c'.FailedToLoad url error) :
      Lost start c'
  | step {c c' : Client} (hlost : Lost start c) (hstep : c.Step c')
      (hsame : c.session.Drives c'.session) : Lost start c'

section

variable {c c' start : Client} {url : String}

/-! ## Documents being loaded -/

theorem load_eq_ok {source : Source} {settings : SessionSettings} {request : Nat}
    {session : Session} (hload : load source settings request url = .ok session) :
    ∃ document, Session.start document settings false = .ok session := by
  obtain ⟨text, -, hread⟩ := exists_of_bind_eq_ok hload
  obtain ⟨document, -, hstart⟩ := exists_of_bind_eq_ok hread
  exact ⟨document, hstart⟩

/-- A session that was loaded is not redirected, and has said nothing. -/
theorem fresh_of_load {source : Source} {settings : SessionSettings} {request : Nat}
    {session : Session} (hload : load source settings request url = .ok session) :
    session.Driven ∧ session.redirectedTo = none ∧ session.events = #[] := by
  obtain ⟨document, hstart⟩ := load_eq_ok hload
  have hdriven : session.Driven := ⟨document, settings, false, session, hstart, .refl⟩
  obtain ⟨declared, -, rfl⟩ := Session.start_eq hstart
  exact ⟨hdriven, rfl, rfl⟩

/-! ## One pull -/

/-- What a pull comes to: a client whose session is redirected only if it was so before, or if the
pull failed to load the document that the session leads to. -/
structure Pulled (c : Client) (answer : Pull) (c' : Client) : Prop where
  ready : c'.Ready
  redirected : ∀ url, c'.session.redirectedTo = some url →
    c.session.redirectedTo = some url ∧ c.session.Drives c'.session ∨
      ∃ error, answer = .failed error ∧ c'.FailedToLoad url error
  ended : answer = .ended → c'.session.redirectedTo.isSome = true ∨ c'.session.isFinished = true

/-- What one step of a pull comes to: it decides the pull, or leaves a session that is fresh. -/
inductive Stepped (c : Client) : Option Pull → Client → Prop
  | decided {answer : Pull} {c' : Client} (hpulled : Pulled c answer c') :
      Stepped c (some answer) c'
  | loaded {c' : Client} (hready : c'.Ready) (hfresh : c'.session.redirectedTo = none) :
      Stepped c none c'

theorem drain_eq (c : Client) : ∃ kept, c.drain = (c.session.waitingRedirects.head?,
    { c with session := { c.session with events := #[] }, kept }) :=
  ⟨_, Prod.ext (Event.splitAtRedirect_snd _) rfl⟩

theorem settle_of_quiet (pull : Pull) {session : Session}
    (hquiet : session.waitingRedirects = []) : ∃ kept events,
      c.settle (pull, session) =
        (some pull, { c with session := { session with events }, kept }) ∧
      ({ session with events } : Session).waitingRedirects = [] := by
  obtain ⟨kept, hdrain⟩ := drain_eq { c with session }
  rw [hquiet] at hdrain
  cases pull with
  | failed | unfinished => exact ⟨c.kept, session.events, rfl, hquiet⟩
  | task | ended => exact ⟨kept, #[], by simp only [settle, hdrain, List.head?_nil], rfl⟩

/-- Where a redirect waits it is taken from the queue, and the document it leads to is loaded. -/
theorem settle_of_redirect {pull : Pull} {session : Session}
    (hwaiting : session.waitingRedirects = [url])
    (hanswer : pull = .ended ∨ ∃ id, pull = .task id) : ∃ kept,
      (∃ error, load c.source c.settings c.requests url = .error error ∧
        c.settle (pull, session) = (some (.failed error), { c with
          session := { session with events := #[] }, kept, requests := c.requests + 1 })) ∨
      (∃ fresh, load c.source c.settings c.requests url = .ok fresh ∧
        c.settle (pull, session) = (none, { c with
          session := { fresh with events := #[] }, kept, requests := c.requests + 1, url })) := by
  obtain ⟨kept, hdrain⟩ := drain_eq { c with session }
  rw [hwaiting] at hdrain
  refine ⟨kept, ?_⟩
  cases hload : load c.source c.settings c.requests url with
  | error error =>
      refine .inl ⟨error, rfl, ?_⟩
      rcases hanswer with rfl | ⟨id, rfl⟩ <;>
        simp only [settle, hdrain, List.head?_cons, reload, hload]
  | ok fresh =>
      refine .inr ⟨fresh, rfl, ?_⟩
      rcases hanswer with rfl | ⟨id, rfl⟩ <;>
        simp only [settle, hdrain, List.head?_cons, reload, hload]

/-- What a pull of the session is settled as: without a redirect it is the answer of the client,
with one the document that it leads to fails to load, or takes the place of this one. -/
inductive Settles (c : Client) (pull : Pull) (session : Session) : Option Pull → Client → Prop
  | answered {kept events : Array Event} (hsame : session.redirectedTo = c.session.redirectedTo)
      (hquiet : ({ session with events } : Session).waitingRedirects = []) :
      Settles c pull session (some pull) { c with session := { session with events }, kept }
  | failed {url : String} {kept : Array Event} {error : Error}
      (hredirected : session.redirectedTo = some url)
      (hload : load c.source c.settings c.requests url = .error error) :
      Settles c pull session (some (.failed error)) { c with
        session := { session with events := #[] }, kept, requests := c.requests + 1 }
  | loaded {url : String} {kept : Array Event} {fresh : Session}
      (hredirected : session.redirectedTo = some url)
      (hload : load c.source c.settings c.requests url = .ok fresh) :
      Settles c pull session none { c with
        session := { fresh with events := #[] }, kept, requests := c.requests + 1, url }

/-- A pull of the session that is not finished decides the pull of the client. -/
theorem ne_unfinished_of_settle {pull : Pull} {session : Session} {decided : Option Pull}
    (hsettle : c.settle (pull, session) = (decided, c')) (hdecided : decided ≠ some .unfinished) :
    pull ≠ .unfinished := by
  rintro rfl
  cases hsettle
  exact hdecided rfl

theorem settle_settles {turns : Nat} {pull : Pull} {session : Session} {decided : Option Pull}
    (hready : c.Ready) (hpull : c.session.pullWithin turns = (pull, session))
    (hsettle : c.settle (pull, session) = (decided, c')) (hdecided : decided ≠ some .unfinished) :
    c.session.Step session ∧ Settles c pull session decided c' := by
  have hanswer := ne_unfinished_of_settle hsettle hdecided
  have hstep : c.session.Step session := .pulled hpull hanswer
  refine ⟨hstep, ?_⟩
  rcases Session.redirectedTo_of_moves hstep.moves hready.quiet with
    ⟨hquiet, hsame⟩ | ⟨url, hwaiting, -, hredirected⟩
  · obtain ⟨kept, events, hsettled, hquiet⟩ := settle_of_quiet (c := c) pull hquiet
    obtain ⟨rfl, rfl⟩ := Prod.mk.inj (hsettle.symm.trans hsettled)
    exact .answered hsame hquiet
  · have hfollowed : pull = .ended ∨ ∃ id, pull = .task id := by
      cases pull with
      | failed error =>
          have hnone := Session.redirectedTo_of_failed hpull
          rw [hnone] at hredirected
          cases hredirected
      | unfinished => exact absurd rfl hanswer
      | ended => exact .inl rfl
      | task id => exact .inr ⟨id, rfl⟩
    obtain ⟨kept, ⟨error, hload, hsettled⟩ | ⟨fresh, hload, hsettled⟩⟩ :=
      settle_of_redirect (c := c) hwaiting hfollowed
    · obtain ⟨rfl, rfl⟩ := Prod.mk.inj (hsettle.symm.trans hsettled)
      exact .failed hredirected hload
    · obtain ⟨rfl, rfl⟩ := Prod.mk.inj (hsettle.symm.trans hsettled)
      exact .loaded hredirected hload

theorem settle_stepped {turns : Nat} {pull : Pull} {session : Session} {decided : Option Pull}
    (hready : c.Ready) (hpull : c.session.pullWithin turns = (pull, session))
    (hsettle : c.settle (pull, session) = (decided, c')) (hdecided : decided ≠ some .unfinished) :
    Stepped c decided c' := by
  obtain ⟨hstep, hsettles⟩ := settle_settles hready hpull hsettle hdecided
  have hdrives : c.session.Drives session := .single (.operated hstep)
  cases hsettles with
  | @answered kept events hsame hquiet =>
      have hended : pull = .ended →
          session.redirectedTo.isSome = true ∨ session.isFinished = true := by
        rintro rfl
        exact Session.finished_of_ended hready.driven.orderly.1.sound hpull
      have hrequeued := hdrives.tail (.requeued events)
      exact .decided ⟨⟨hready.driven.drives hrequeued, hquiet⟩,
        fun url hurl => .inl ⟨hsame.symm.trans hurl, hrequeued⟩, hended⟩
  | @failed url kept error hredirected hload =>
      have hrequeued := hready.driven.drives (hdrives.tail (.requeued #[]))
      refine .decided ⟨⟨hrequeued, rfl⟩, fun found hfound => .inr ⟨error, rfl, ?_⟩, by simp⟩
      obtain rfl : url = found := Option.some.inj (hredirected.symm.trans hfound)
      exact ⟨c.requests, rfl, hload⟩
  | loaded _ hload =>
      obtain ⟨hdriven, hnone, -⟩ := fresh_of_load hload
      exact .loaded ⟨hdriven.drives (.single (.requeued #[])), rfl⟩ hnone

/-- A step pulls the session, and settles what that comes to. -/
theorem exists_pull_of_step {decided : Option Pull} (hstep : c.step = (decided, c')) :
    ∃ pull session, c.session.pull = (pull, session) ∧
      c.settle (pull, session) = (decided, c') := by
  cases hpull : c.session.pull with
  | mk pull session =>
      rw [step, hpull] at hstep
      exact ⟨pull, session, rfl, hstep⟩

theorem step_stepped {decided : Option Pull} (hready : c.Ready) (hstep : c.step = (decided, c'))
    (hdecided : decided ≠ some .unfinished) : Stepped c decided c' := by
  obtain ⟨pull, session, hpull, hsettle⟩ := exists_pull_of_step hstep
  rw [Session.pull] at hpull
  exact settle_stepped hready hpull hsettle hdecided

/-- What holds of a client before every step of a pull is known of the one that a step decides the
pull for. -/
theorem of_decideWithin {step : Client → Option Pull × Client} (holds : Client → Prop)
    (comes : Pull → Client → Prop) {steps : Nat} {answer : Pull} (hholds : holds c)
    (hsome : ∀ r r' pull, holds r → step r = (some pull, r') → pull ≠ .unfinished →
      comes pull r')
    (hnone : ∀ r r', holds r → step r = (none, r') → holds r')
    (hdecide : decideWithin step steps c = (answer, c')) (hanswer : answer ≠ .unfinished) :
    comes answer c' := by
  induction steps generalizing c with
  | zero =>
      rw [decideWithin] at hdecide
      exact absurd (Prod.mk.inj hdecide).1.symm hanswer
  | succ steps ih =>
      rw [decideWithin] at hdecide
      split at hdecide
      · next pull r hstep =>
          cases hdecide
          exact hsome c c' answer hholds hstep hanswer
      · next r hstep => exact ih (hnone c r hholds hstep) hdecide

theorem pullWithin_pulled {steps : Nat} {answer : Pull} (hready : c.Ready)
    (hpull : c.pullWithin steps = (answer, c')) (hanswer : answer ≠ .unfinished) :
    Pulled c answer c' := by
  -- On the way the session is redirected only as long as it is still the one that was.
  refine of_decideWithin (fun r => r.Ready ∧ ∀ url, r.session.redirectedTo = some url →
    c.session.redirectedTo = some url ∧ c.session.Drives r.session) (Pulled c)
    ⟨hready, fun url hurl => ⟨hurl, .refl⟩⟩ ?_ ?_ hpull hanswer
  · rintro r r' pull ⟨hready, hredirected⟩ hstep hpull
    cases step_stepped hready hstep (by simpa using hpull) with
    | decided hpulled =>
        refine ⟨hpulled.ready, fun url hurl => ?_, hpulled.ended⟩
        refine (hpulled.redirected url hurl).imp_left fun ⟨hbefore, hdrives⟩ => ?_
        obtain ⟨hfirst, hsame⟩ := hredirected url hbefore
        exact ⟨hfirst, hsame.trans hdrives⟩
  · rintro r r' ⟨hready, -⟩ hstep
    cases step_stepped hready hstep (by simp) with
    | loaded hready hfresh =>
        refine ⟨hready, fun url hurl => ?_⟩
        rw [hfresh] at hurl
        cases hurl

/-! ## Runs of a client -/

/-- What holds of a client between two operations: its session is redirected only if the redirect
was lost. -/
structure Kept (start c : Client) : Prop where
  ready : c.Ready
  lost : c.session.redirectedTo.isSome = true → Lost start c

/-- An operation that goes on with the session as far as redirects are concerned. -/
theorem Kept.same (hkept : Kept start c) (hstep : c.Step c')
    (hdrives : c.session.Drives c'.session)
    (hsame : c'.session.redirectedTo = c.session.redirectedTo)
    (hquiet : c'.session.waitingRedirects = []) : Kept start c' where
  ready := ⟨hkept.ready.driven.drives hdrives, hquiet⟩
  lost := fun hredirected => .step (hkept.lost (hsame ▸ hredirected)) hstep hdrives

theorem Ready.acts {id : TaskId} {session : Session} (hready : c.Ready)
    (hoperated : c.session.Step session) (hacts : Session.Acts id c.session session) :
    Ready { c with session } := by
  refine ⟨hready.driven.drives (.single (.operated hoperated)), ?_⟩
  rcases Session.redirectedTo_of_moves hacts.moves hready.quiet with
    ⟨hquiet, -⟩ | ⟨url, -, hbefore, hafter⟩
  · exact hquiet
  · rw [hacts.redirectedTo_eq, hbefore] at hafter
    cases hafter

theorem Kept.acts {id : TaskId} {session : Session} (hkept : Kept start c)
    (hstep : c.Step { c with session }) (hoperated : c.session.Step session)
    (hacts : Session.Acts id c.session session) : Kept start { c with session } :=
  hkept.same hstep (.single (.operated hoperated)) hacts.redirectedTo_eq
    (hkept.ready.acts hoperated hacts).quiet

theorem Kept.step (hkept : Kept start c) (hrun : start.Run c) (hstep : c.Step c') :
    Kept start c' := by
  have hstep' := hstep
  cases hstep with
  | pulled hpull hanswer =>
      have hpulled := pullWithin_pulled hkept.ready hpull hanswer
      refine ⟨hpulled.ready, fun hredirected => ?_⟩
      obtain ⟨url, hurl⟩ := Option.isSome_iff_exists.mp hredirected
      rcases hpulled.redirected url hurl with ⟨hbefore, hdrives⟩ | ⟨error, rfl, hload⟩
      · exact .step (hkept.lost (by rw [hbefore]; rfl)) hstep' hdrives
      · exact .failed hrun hpull hurl hload
  | filledIn id field value =>
      exact hkept.acts hstep' (.filledIn id field value) (Session.fillIn_acts _ id field value)
  | clicked id component =>
      exact hkept.acts hstep' (.clicked id component) (Session.click_acts _ id component)
  | answered id value =>
      exact hkept.acts hstep' (.answered id value) (Session.answer_acts _ id value)
  | breakpointSet name =>
      exact hkept.same hstep' (.single (.operated (.breakpointSet name))) rfl hkept.ready.quiet
  | eventsTaken => exact hkept.same hstep' .refl rfl hkept.ready.quiet
  | reloaded url =>
      cases hload : load c.source c.settings c.requests url with
      | error error =>
          rw [reload, hload] at hstep' ⊢
          exact hkept.same hstep' .refl rfl hkept.ready.quiet
      | ok session =>
          rw [reload, hload]
          obtain ⟨hdriven, hnone, -⟩ := fresh_of_load hload
          have hrequeued := hdriven.drives (.single (.requeued c.session.events))
          refine ⟨⟨hrequeued, hkept.ready.quiet⟩, fun hredirected => ?_⟩
          rw [hnone] at hredirected
          cases hredirected

theorem Run.kept {source : Source} {settings : SessionSettings}
    (hstart : Client.start source settings url = .ok start) (hrun : start.Run c) :
    Kept start c := by
  induction hrun with
  | refl =>
      obtain ⟨session, hload, rfl⟩ := exists_of_map_eq_ok hstart
      obtain ⟨hdriven, hnone, hempty⟩ := fresh_of_load hload
      have hquiet : session.waitingRedirects = [] := by
        rw [Session.waitingRedirects, hempty]
        rfl
      refine ⟨⟨hdriven, hquiet⟩, fun hredirected => ?_⟩
      rw [hnone] at hredirected
      cases hredirected
  | tail hbefore hstep ih => exact ih.step hbefore hstep

theorem Lost.redirected (hlost : Lost start c) : c.session.redirectedTo.isSome = true := by
  induction hlost with
  | failed _ _ hredirected => rw [hredirected]; rfl
  | step _ _ hsame ih =>
      obtain ⟨url, hurl⟩ := Option.isSome_iff_exists.mp ih
      obtain ⟨events, hemits⟩ := hsame.emits
      rw [(hemits.of_redirected hurl).1]
      rfl

theorem decideWithin_of_some {step : Client → Option Pull × Client} {answer : Pull}
    (hstep : step c = (some answer, c')) (steps : Nat) :
    decideWithin step (steps + 1) c = (answer, c') := by
  rw [decideWithin, hstep]

/-- A client whose session is redirected while no redirect waits is told that the end is reached. -/
theorem Ready.pullWithin_of_redirected (hready : c.Ready)
    (hredirected : c.session.redirectedTo.isSome = true) (steps : Nat) :
    ∃ c', c.pullWithin (steps + 1) = (.ended, c') ∧ c'.session.isFinished = false ∧
      c'.requests = c.requests := by
  obtain ⟨kept, events, hsettled, -⟩ := settle_of_quiet (c := c) .ended hready.quiet
  rw [← Session.pull_of_redirected hredirected, ← step] at hsettled
  exact ⟨_, decideWithin_of_some hsettled steps, hready.driven.not_finished hredirected, rfl⟩

/-- A pull that ends says that the session is finished, unless a redirect was lost.  Then every pull
ends, and nothing is requested any more. -/
theorem finished_iff_of_ended {source : Source} {settings : SessionSettings}
    (hstart : Client.start source settings url = .ok start) (hrun : start.Run c) :
    (∀ steps c', c.pullWithin steps = (.ended, c') →
      (c'.session.isFinished = true ↔ ¬ Lost start c)) ∧
    (Lost start c → ∀ steps, ∃ c', c.pullWithin (steps + 1) = (.ended, c') ∧
      c'.session.isFinished = false ∧ c'.requests = c.requests) := by
  have hkept := hrun.kept hstart
  have hlost : Lost start c → ∀ steps, ∃ c', c.pullWithin (steps + 1) = (.ended, c') ∧
      c'.session.isFinished = false ∧ c'.requests = c.requests :=
    fun hlost => hkept.ready.pullWithin_of_redirected hlost.redirected
  refine ⟨fun steps c' hpull => ⟨fun hfinished hfound => ?_, fun hnot => ?_⟩, hlost⟩
  · cases steps with
    | zero => cases hpull
    | succ steps =>
        obtain ⟨r, hended, hunfinished, -⟩ := hlost hfound steps
        obtain rfl := (Prod.mk.inj (hended.symm.trans hpull)).2
        rw [hunfinished] at hfinished
        cases hfinished
  · have hpulled := pullWithin_pulled hkept.ready hpull Pull.noConfusion
    refine (hpulled.ended rfl).resolve_left fun hredirected => hnot ?_
    obtain ⟨url, hurl⟩ := Option.isSome_iff_exists.mp hredirected
    rcases hpulled.redirected url hurl with ⟨hbefore, -⟩ | ⟨error, hfailed, -⟩
    · exact hkept.lost (by rw [hbefore]; rfl)
    · cases hfailed

end

theorem eq_of_fst_eq {α β : Type} {x : α × β} {a : α} (h : x.1 = a) : x = (a, x.2) := by
  rw [← h]

/-- A document that leads to another one, which is not there. -/
def deadEnd : Source :=
  .ofTexts [("/first",
    "\x7b\"components\": \x7b\x7d, \"validators\": \x7b\x7d, \"context\": \x7b\x7d, " ++
    "\"starting_flow\": \"main\", \"flows\": \x7b\"main\": \x7b\"tasks\": [" ++
    "\x7b\"type\": \"redirect\", \"name\": \"leave\", \"url\": \"/gone\"\x7d]\x7d\x7d\x7d")]

/-- The first pull fails to load what the document leads to, and the second one ends. -/
theorem deadEnd_pulls : ∃ start r c error, Client.start deadEnd {} "/first" = .ok start ∧
    start.pull = (.failed error, r) ∧ r.session.redirectedTo = some "/gone" ∧
      r.FailedToLoad "/gone" error ∧ r.pull = (.ended, c) ∧ c.session.isFinished = false := by
  have hpulls : (Client.start deadEnd {} "/first").map (fun start => decide
      (start.pull.1 = .failed (.noDocument "/gone" .unregistered) ∧
        start.pull.2.session.redirectedTo = some "/gone" ∧ start.pull.2.requests = 2 ∧
        (load start.pull.2.source start.pull.2.settings 1 "/gone").map (fun _ => ()) =
          .error (.noDocument "/gone" .unregistered) ∧
        start.pull.2.pull.1 = .ended ∧ start.pull.2.pull.2.session.isFinished = false)) =
      .ok true := by
    decide +kernel
  obtain ⟨start, hstart, hfacts⟩ := exists_of_map_eq_ok hpulls
  obtain ⟨hfirst, hurl, hrequests, hload, hsecond, hunfinished⟩ := of_decide_eq_true hfacts
  have hfirst := eq_of_fst_eq hfirst
  have hsecond := eq_of_fst_eq hsecond
  refine ⟨start, _, _, _, hstart, hfirst, hurl, ⟨1, hrequests, ?_⟩, hsecond, hunfinished⟩
  revert hload
  cases load start.pull.2.source start.pull.2.settings 1 "/gone" with
  | error error => rintro ⟨⟩; rfl
  | ok session => rintro ⟨⟩

/-- The client of `deadEnd` has lost the redirect after one pull, and all its pulls end. -/
theorem deadEnd_lost : ∃ start c, Client.start deadEnd {} "/first" = .ok start ∧ start.Run c ∧
    Lost start c ∧ (∃ c', c.pull = (.ended, c') ∧ c'.session.isFinished = false) ∧
      ∀ steps, (c.pullWithin (steps + 1)).1 = .ended := by
  obtain ⟨start, r, c, error, hstart, hfirst, hurl, hload, hsecond, -⟩ := deadEnd_pulls
  rw [pull] at hfirst
  have hrun : start.Run r := .single (.pulled hfirst Pull.noConfusion)
  have hlost : Lost start r := .failed .refl hfirst hurl hload
  obtain ⟨hiff, hevery⟩ := finished_iff_of_ended hstart hrun
  refine ⟨start, r, hstart, hrun, hlost, ⟨c, hsecond, ?_⟩, fun steps => ?_⟩
  · rw [pull] at hsecond
    exact Bool.eq_false_iff.mpr fun hfinished => (hiff _ c hsecond).mp hfinished hlost
  · obtain ⟨c', hended, -⟩ := hevery hlost steps
    rw [hended]

/-- A pull may end although the session is not finished. -/
theorem ended_not_finished : ¬ ∀ (source : Source) (settings : SessionSettings) (url : String)
    (start c c' : Client), Client.start source settings url = .ok start → start.Run c →
      c.pull = (.ended, c') → c'.session.isFinished = true := by
  intro hclaim
  obtain ⟨start, r, c, error, hstart, hfirst, -, -, hsecond, hunfinished⟩ := deadEnd_pulls
  rw [pull] at hfirst
  have hrun : start.Run r := .single (.pulled hfirst Pull.noConfusion)
  have hfinished := hclaim _ _ _ start r c hstart hrun hsecond
  rw [hunfinished] at hfinished
  cases hfinished

end Client

end Workflow
