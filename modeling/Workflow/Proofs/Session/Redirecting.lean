import Workflow.Proofs.Session.Backward

/-!
# Redirects

A redirect is the last task of a document that runs, wherever it stands.  Turns and acts are told
apart by what they emit, `Session.Announces`: a move adds at most one event to the queue, the
session is redirected exactly by a move that emits a redirect, and once it is redirected a move
emits nothing but what was done with a screen, and opens no task.

`Session.Emits` is a run with all its events, in the order in which they were emitted, whatever
becomes of the queue in between.  So at most one redirect is ever emitted.
-/

namespace Workflow

/-- Whether an event tells of what was done with a screen, and not of a task that ran. -/
def Event.ofScreen : Event → Bool
  | .screenLeft _ _ | .backAsked _ _ => true
  | _ => false

theorem Event.redirectUrl?_of_ofScreen {event : Event} (hscreen : event.ofScreen = true) :
    event.redirectUrl? = none := by
  cases event <;> first | rfl | cases hscreen

theorem Event.redirectUrls_eq_nil {events : List Event}
    (hscreen : ∀ event ∈ events, event.ofScreen = true) :
    events.filterMap Event.redirectUrl? = [] :=
  List.filterMap_eq_nil_iff.mpr fun event hmem => redirectUrl?_of_ofScreen (hscreen event hmem)

namespace Session

/-- A step of a session adds these events to its queue.  It is redirected by a redirect among them
and by nothing else; if it was redirected before, then they tell of screens only, and no task is
opened. -/
structure Announces (s s' : Session) (events : List Event) : Prop where
  queued : s'.events.toList = s.events.toList ++ events
  redirected : s'.redirectedTo.toList =
    s.redirectedTo.toList ++ events.filterMap Event.redirectUrl?
  stopped : s.redirectedTo.isSome = true →
    (∀ event ∈ events, event.ofScreen = true) ∧ s'.tasks.size = s.tasks.size

namespace Announces

variable {s s' r : Session}

theorem nothing (hevents : s'.events = s.events) (hredirected : s'.redirectedTo = s.redirectedTo)
    (hsize : s.redirectedTo.isSome = true → s'.tasks.size = s.tasks.size) : Announces s s' [] where
  queued := by rw [hevents, List.append_nil]
  redirected := by rw [hredirected, List.filterMap_nil, List.append_nil]
  stopped := fun hstopped => ⟨by simp, hsize hstopped⟩

/-- A screen is spoken of. -/
theorem ofScreen {event : Event} (hscreen : event.ofScreen = true)
    (hevents : s'.events = s.events.push event) (hredirected : s'.redirectedTo = s.redirectedTo)
    (hsize : s'.tasks.size = s.tasks.size) : Announces s s' [event] where
  queued := by rw [hevents, Array.toList_push]
  redirected := by
    rw [hredirected, Event.redirectUrls_eq_nil (by simpa using hscreen), List.append_nil]
  stopped := fun _ => ⟨by simpa using hscreen, hsize⟩

/-- While the session is not redirected, any other event may be emitted. -/
theorem running {event : Event} (hbefore : s.redirectedTo = none)
    (hevents : s'.events = s.events.push event)
    (hredirected : s'.redirectedTo = event.redirectUrl?) : Announces s s' [event] where
  queued := by rw [hevents, Array.toList_push]
  redirected := by
    rw [hredirected, hbefore]
    cases hurl : event.redirectUrl? <;> simp [hurl]
  stopped := by simp [hbefore]

/-- What is done to other parts of a session does not count, as long as it is not redirected. -/
theorem congr {events : List Event} (hsaid : Announces s r events) (hbefore : s.redirectedTo = none)
    (hevents : s'.events = r.events) (hredirected : s'.redirectedTo = r.redirectedTo) :
    Announces s s' events where
  queued := by rw [hevents, hsaid.queued]
  redirected := by rw [hredirected, hsaid.redirected]
  stopped := by simp [hbefore]

/-- A session says one thing. -/
theorem unique {events events' : List Event} (hsaid : Announces s s' events)
    (hqueued : s'.events.toList = s.events.toList ++ events') : Announces s s' events' := by
  have heq : events = events' := List.append_cancel_left (hsaid.queued.symm.trans hqueued)
  exact heq ▸ hsaid

/-- A redirected session stays redirected. -/
theorem redirectedTo_eq {events : List Event} {url : String} (hsaid : Announces s s' events)
    (hbefore : s.redirectedTo = some url) : s'.redirectedTo = some url := by
  have hscreen := (hsaid.stopped (by simp [hbefore])).1
  have hredirected := hsaid.redirected
  rw [Event.redirectUrls_eq_nil hscreen, hbefore, List.append_nil] at hredirected
  cases hafter : s'.redirectedTo with
  | none => simp [hafter] at hredirected
  | some found => simpa [hafter] using hredirected

end Announces

section

variable {s s' : Session}

/-- What a task says when it runs: a redirect, a remote call without a result, or a marker. -/
theorem effect_announces {task : Task} (hrunning : s.redirectedTo = none)
    (heffect : s.effect task = .ok s') : ∃ said : Option Event, Announces s s' said.toList := by
  unfold effect at heffect
  split at heffect
  · obtain ⟨patch, -, rfl⟩ := exists_of_map_eq_ok heffect
    exact ⟨none, .nothing rfl rfl fun _ => rfl⟩
  · cases heffect
    exact ⟨some _, .running hrunning rfl rfl⟩
  · split_ifs at heffect
    · cases heffect
      refine ⟨none, .nothing ?_ ?_ (by simp [hrunning])⟩ <;> split <;> rfl
    · cases heffect
      exact ⟨some _, .running hrunning rfl hrunning⟩
  · cases heffect
    split_ifs
    · exact ⟨none, .nothing rfl rfl fun _ => rfl⟩
    · exact ⟨some _, .running hrunning rfl hrunning⟩
  · cases heffect
    exact ⟨none, .nothing rfl rfl fun _ => rfl⟩
  · cases heffect
    exact ⟨none, .nothing rfl rfl fun _ => rfl⟩

theorem runChild_announces {id : TaskId} {child : Child} {task : Task}
    (hrunning : s.redirectedTo = none) (hrun : s.runChild id child task = (.ok (), s')) :
    ∃ said : Option Event, Announces s s' said.toList := by
  unfold runChild at hrun
  split_ifs at hrun
  · cases hrun
    exact ⟨none, .nothing rfl rfl fun _ => rfl⟩
  · split at hrun
    · next ran heffect =>
        cases hrun
        obtain ⟨said, hsaid⟩ := effect_announces hrunning heffect
        exact ⟨said, hsaid.congr hrunning rfl rfl⟩
    · cases hrun

theorem AtChild.not_redirected {scope : ScopeId} {id : TaskId} {flow : Flow} {child : Child}
    {inner : Task} (hat : s.AtChild scope id flow child inner) : s.redirectedTo = none :=
  hat.working.elim fun _ hwork => hwork.running

theorem AtStep.not_redirected {scope : ScopeId} {id : TaskId} {flow : Flow} {step : FlowStep}
    (hat : s.AtStep scope id flow step) : s.redirectedTo = none :=
  hat.working.elim fun _ hwork => hwork.running

/-- A turn says at most one thing, where a task runs, and does nothing once the session is
redirected. -/
theorem Turned.announces {result : Except Error Turn} (hturned : s.Turned result s') :
    ∃ said : Option Event, Announces s s' said.toList := by
  have hnothing : s.redirectedTo = none → s'.events = s.events →
      s'.redirectedTo = s.redirectedTo → ∃ said : Option Event, Announces s s' said.toList :=
    fun hrunning hevents hredirected =>
      ⟨none, .nothing hevents hredirected (by simp [hrunning])⟩
  cases hturned with
  | idle | stuck | unbound | waiting | entered => exact ⟨none, .nothing rfl rfl fun _ => rfl⟩
  | left hrunning _ _ _ _ hleave =>
      unfold leave at hleave
      dsimp only at hleave
      split_ifs at hleave <;> cases hleave <;> exact hnothing hrunning rfl rfl
  | interrupted hat => exact hnothing hat.not_redirected rfl rfl
  | @settled _ id _ child _ ran hat _ _ hrun =>
      obtain ⟨said, hsaid⟩ := runChild_announces hat.not_redirected hrun
      obtain ⟨-, -, -, hredirected, hevents⟩ := foldChild_others ran id child
      exact ⟨said, hsaid.congr hat.not_redirected hevents hredirected⟩
  | dropped hat => exact hnothing hat.not_redirected rfl rfl
  | skipped hat | unopened hat => exact hnothing hat.not_redirected rfl rfl
  | opened hat => exact hnothing hat.not_redirected (by simp) (by simp)
  | passOpened hat | passEnded hat => exact hnothing hat.not_redirected rfl rfl
  | @published _ id _ _ mark _ hat =>
      obtain ⟨-, -, -, hredirected, hevents, -⟩ := concluded_others s id mark
      exact hnothing hat.not_redirected hevents hredirected
  | @unpublished _ id _ _ hat =>
      obtain ⟨-, -, -, hredirected, hevents, -⟩ := concluded_others s id true
      exact hnothing hat.not_redirected hevents hredirected

/-- An act speaks of a screen or says nothing, and opens no task. -/
theorem Act.announces {id : TaskId} (hact : Act id s s') :
    ∃ said : Option Event, Announces s s' said.toList := by
  cases hact with
  | screenSet => exact ⟨none, .nothing rfl rfl fun _ => by simp [setScreen]⟩
  | resultMerged | patched => exact ⟨none, .nothing rfl rfl fun _ => rfl⟩
  | completed => exact ⟨none, .nothing rfl rfl fun _ => by simp⟩
  | @recorded flow entry =>
      exact ⟨some (.screenLeft flow.definition entry.screen), .ofScreen rfl rfl rfl rfl⟩
  | @returned task entry target =>
      obtain ⟨-, -, -, -, -, hredirected, hevents, hsize⟩ := restore_others s target entry
      refine ⟨some (.backAsked task.name true), .ofScreen rfl ?_ hredirected hsize⟩
      rw [emit, hevents]
  | @refused task => exact ⟨some (.backAsked task.name false), .ofScreen rfl rfl rfl rfl⟩

theorem Move.announces (hmove : Move s s') :
    ∃ said : Option Event, Announces s s' said.toList := by
  cases hmove with
  | turn hturn => exact (turned hturn).announces
  | act hact => exact hact.announces
  | breakpoint => exact ⟨none, .nothing rfl rfl fun _ => rfl⟩

/-- Any number of moves adds some events to the queue, and the redirects among them are where the
session is redirected to. -/
theorem Moves.announced (hmoves : Relation.ReflTransGen Move s s') :
    ∃ new, s'.events.toList = s.events.toList ++ new ∧ s'.redirectedTo.toList =
      s.redirectedTo.toList ++ new.filterMap Event.redirectUrl? := by
  induction hmoves with
  | refl => exact ⟨[], by simp, by simp⟩
  | tail _ hmove ih =>
      obtain ⟨first, hqueued, hredirected⟩ := ih
      obtain ⟨second, hsaid⟩ := hmove.announces
      refine ⟨first ++ second.toList, ?_, ?_⟩
      · rw [hsaid.queued, hqueued, List.append_assoc]
      · rw [hsaid.redirected, hredirected, List.filterMap_append, List.append_assoc]

end

/-! ## Runs with their events -/

/-- A run of a session, turn by turn and act by act, with the events that it emits.  The program
around it may take them, or let the session go on with another queue, at any time. -/
inductive Emits (s : Session) : List Event → Session → Prop
  | refl : Emits s [] s
  | moved {r s' : Session} {events new : List Event} (hbefore : Emits s events r)
      (hmove : Move r s') (hnew : s'.events.toList = r.events.toList ++ new) :
      Emits s (events ++ new) s'
  | requeued {r : Session} {events : List Event} (hbefore : Emits s events r)
      (queue : Array Event) : Emits s events { r with events := queue }

section

variable {s r s' : Session} {events : List Event}

theorem Emits.moves (hemits : s.Emits events r) (hmoves : Relation.ReflTransGen Move r s') :
    ∃ later, s.Emits (events ++ later) s' := by
  induction hmoves with
  | refl => exact ⟨[], by rwa [List.append_nil]⟩
  | tail _ hmove ih =>
      obtain ⟨later, hlater⟩ := ih
      obtain ⟨said, hsaid⟩ := hmove.announces
      exact ⟨later ++ said.toList, List.append_assoc .. ▸ hlater.moved hmove hsaid.queued⟩

/-- Whatever the program around a session does emits some events. -/
theorem Drives.emits (hdrives : s.Drives s') : ∃ events, s.Emits events s' := by
  induction hdrives with
  | refl => exact ⟨[], .refl⟩
  | tail _ hdrive ih =>
      obtain ⟨events, hemits⟩ := ih
      cases hdrive with
      | operated hstep =>
          obtain ⟨later, hlater⟩ := hemits.moves hstep.moves
          exact ⟨events ++ later, hlater⟩
      | requeued queue => exact ⟨events, hemits.requeued queue⟩

/-- The redirects of a run are where it is redirected to. -/
theorem Emits.redirectedTo (hemits : s.Emits events s') (hbefore : s.redirectedTo = none) :
    events.filterMap Event.redirectUrl? = s'.redirectedTo.toList := by
  induction hemits with
  | refl => rw [hbefore]; rfl
  | moved _ hmove hnew ih =>
      obtain ⟨found, hsaid⟩ := hmove.announces
      rw [List.filterMap_append, ih, (hsaid.unique hnew).redirected]
  | requeued _ _ ih => exact ih

/-- After a redirect a session stays redirected, opens no task, and speaks of screens only. -/
theorem Emits.of_redirected {url : String} (hemits : s.Emits events s')
    (hredirected : s.redirectedTo = some url) :
    s'.redirectedTo = some url ∧ s'.tasks.size = s.tasks.size ∧
      ∀ event ∈ events, event.ofScreen = true := by
  induction hemits with
  | refl => exact ⟨hredirected, rfl, by simp⟩
  | moved _ hmove hnew ih =>
      obtain ⟨hstays, hsize, hscreen⟩ := ih
      obtain ⟨found, hsaid⟩ := hmove.announces
      have hsaid := hsaid.unique hnew
      obtain ⟨hnew, hkept⟩ := hsaid.stopped (by simp [hstays])
      refine ⟨hsaid.redirectedTo_eq hstays, hkept.trans hsize, fun event hmem => ?_⟩
      exact (List.mem_append.mp hmem).elim (hscreen event) (hnew event)
  | requeued _ _ ih => exact ih

end

theorem pullWithin_of_redirected {s : Session} (hredirected : s.redirectedTo.isSome = true)
    (turns : Nat) : s.pullWithin (turns + 1) = (.ended, s) :=
  pullWithin_of_answer (turn_of_not_running (.inl hredirected)) rfl turns

theorem pull_of_redirected {s : Session} (hredirected : s.redirectedTo.isSome = true) :
    s.pull = (.ended, s) :=
  pull_of_turns (.refl s) (turn_of_not_running (.inl hredirected)) rfl
    (s.lt_turnLimit (Nat.pow_pos Nat.two_pos))

/-- A redirect ends a session for good.  Every run emits its events in some order; the redirects
among those emitted so far are where the session is redirected to, so there is at most one.  From
the turn on that emits it, the rest of that pull and every later pull ends and changes nothing, and
whatever else is done with the session, it stays redirected, opens no task and emits no more than
that a screen was left or a request to go back made. -/
theorem redirect_final {document : Document} {settings : SessionSettings} {ownsEvents : Bool}
    {start : Session} (hstart : Session.start document settings ownsEvents = .ok start) :
    (∀ s, start.Drives s → ∃ events, start.Emits events s) ∧
      ∀ s events, start.Emits events s →
        events.filterMap Event.redirectUrl? = s.redirectedTo.toList ∧
          ∀ url, s.redirectedTo = some url →
            s.pull = (.ended, s) ∧ (∀ turns, s.pullWithin (turns + 1) = (.ended, s)) ∧
              ∀ s' later, s.Emits later s' → s'.redirectedTo = some url ∧
                s'.tasks.size = s.tasks.size ∧ s'.pull = (.ended, s') ∧
                ∀ event ∈ later, event.ofScreen = true := by
  obtain ⟨declared, -, rfl⟩ := start_eq hstart
  refine ⟨fun s hdrives => hdrives.emits, fun s events hemits =>
    ⟨hemits.redirectedTo rfl, fun url hurl => ?_⟩⟩
  have hredirected : s.redirectedTo.isSome = true := by rw [hurl]; rfl
  refine ⟨pull_of_redirected hredirected, pullWithin_of_redirected hredirected,
    fun s' later hlater => ?_⟩
  obtain ⟨hstays, hsize, hscreen⟩ := hlater.of_redirected hurl
  exact ⟨hstays, hsize, pull_of_redirected (by rw [hstays]; rfl), hscreen⟩

/-- A document that shows a screen, redirects within a flow of its own, and has one more screen. -/
def farewellDocument : Document where
  repository :=
    { components := [actionButton "next", actionButton "back"]
      validators := []
      flows := [
        ("main", { tasks := [
                     twoWayScreen "ask",
                     { name := "farewell", preconditions := [], action := .flow .once none },
                     twoWayScreen "never"],
                   settings := {} }),
        ("farewell", { tasks := [
                         { name := "leave", preconditions := [],
                           action := .redirect "https://example.org/done" },
                         { name := "late", preconditions := [], action := .event "late" }],
                       settings := {} })] }
  startingFlow := "main"
  context := .object []
  hash := none

/-- The session of `farewellDocument` after its screen: it has been redirected. -/
def farewell : Session :=
  ((initial farewellDocument {} true {}).pull.2.click ⟨1⟩ "next").2.pull.2

/-- The only redirect of the session is the one in the nested flow, and it ends all pulls. -/
theorem farewell_final :
    ∃ start events, Session.start farewellDocument {} true = .ok start ∧
      start.Emits events farewell ∧
      events.filterMap Event.redirectUrl? = ["https://example.org/done"] ∧
      farewell.pull = (.ended, farewell) ∧ farewell.tasks.size = 4 ∧
      ∀ s' later, farewell.Emits later s' → s'.tasks.size = 4 := by
  have hstart : Session.start farewellDocument {} true =
      .ok (initial farewellDocument {} true {}) :=
    start_initial (by decide +kernel) rfl
  have hrun : (initial farewellDocument {} true {}).Run farewell :=
    run_carryOut [.pull, .click ⟨1⟩ "next", .pull] (by decide +kernel)
  obtain ⟨hevery, hfinal⟩ := redirect_final hstart
  obtain ⟨events, hemits⟩ := hevery farewell hrun.drives
  have hurl : farewell.redirectedTo = some "https://example.org/done" := by decide +kernel
  have hsize : farewell.tasks.size = 4 := by decide +kernel
  obtain ⟨hredirects, hstopped⟩ := hfinal farewell events hemits
  obtain ⟨hpull, -, hlater⟩ := hstopped _ hurl
  refine ⟨_, events, hstart, hemits, by rw [hredirects, hurl]; rfl, hpull, hsize,
    fun s' later hemits' => ?_⟩
  exact (hlater s' later hemits').2.1.trans hsize

end Session

end Workflow
