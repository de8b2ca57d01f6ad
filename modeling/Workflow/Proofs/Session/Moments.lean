import Workflow.Proofs.Session.Release

/-!
# Moments

What the program around a session does is made of turns, of acts, and of breakpoints and queues of
events that are set in between.  `Session.Moment` is one of these, and `Session.Evolves` any number
of them: what is said of all sessions that a session leads to is said of every moment within an
operation too.

A task is acted on only while the session rests.  Within a pull a flow may be complete and still be
the innermost one, and then nothing else happens than that it is left.
-/

namespace Workflow.Session

/-- What happens next to a session. -/
inductive Moment (s : Session) : Session → Prop
  | turn {result : Except Error Turn} {s' : Session} (hturn : s.turn = (result, s')) : Moment s s'
  | act {id : TaskId} {s' : Session} (hrest : s.Resting) (hact : Act id s s') : Moment s s'
  | breakpoint (name : String) : Moment s (s.setBreakpoint name)
  | requeued (events : Array Event) : Moment s { s with events }

/-- What becomes of a session, moment by moment. -/
def Evolves : Session → Session → Prop :=
  Relation.ReflTransGen Moment

/-- What holds of a session at any moment. -/
structure Orderly (s : Session) : Prop where
  accounted : s.Accounted
  emptied : s.Emptied

section

variable {s s' : Session}

theorem Orderly.sound (horderly : s.Orderly) : s.Sound :=
  horderly.accounted.sound

theorem Orderly.wired (horderly : s.Orderly) : s.Wired :=
  horderly.accounted.sound.wired

/-- A moment is a turn or an act, or it leaves the session much as it was. -/
theorem Moment.cases_alike (hmoment : Moment s s') :
    (∃ result, s.turn = (result, s')) ∨ (∃ id, s.Resting ∧ Act id s s') ∨ Alike s s' := by
  cases hmoment with
  | turn hturn => exact .inl ⟨_, hturn⟩
  | act hrest hact => exact .inr (.inl ⟨_, hrest, hact⟩)
  | breakpoint name => exact .inr (.inr (alike_setBreakpoint s name))
  | requeued events => exact .inr (.inr (alike_requeue s events))

theorem Moment.grows (hmoment : Moment s s') : Grows s s' := by
  rcases hmoment.cases_alike with ⟨result, hturn⟩ | ⟨id, -, hact⟩ | halike
  · exact (turned hturn).grows
  · exact hact.grows
  · exact halike.grows

theorem Alike.emptied (halike : Alike s s') (hemptied : s.Emptied) : s'.Emptied := by
  intro scope id task hhead hbound htask hcomplete
  rw [halike.active] at hhead
  rw [scope_eq, scopeAt?, halike.scopes, ← scopeAt?, ← scope_eq] at hbound
  rw [taskAt?, halike.tasks] at htask
  rw [insideOf, flowAt?, taskAt?, halike.tasks]
  exact hemptied scope id task hhead hbound htask hcomplete

theorem Moment.orderly (hmoment : Moment s s') (horderly : s.Orderly) : s'.Orderly := by
  obtain ⟨haccounted, hemptied⟩ := horderly
  rcases hmoment.cases_alike with ⟨result, hturn⟩ | ⟨id, hrest, hact⟩ | halike
  · exact ⟨(retains_turn hturn haccounted hemptied).accounted,
      (turned hturn).emptied haccounted.sound haccounted.placed hemptied⟩
  · exact ⟨(hact.retains haccounted).accounted, (hact.resting haccounted.sound hrest).emptied⟩
  · exact ⟨(halike.retains haccounted).accounted, halike.emptied hemptied⟩

theorem Evolves.grows (hevolves : s.Evolves s') : Grows s s' := by
  induction hevolves with
  | refl => exact .refl s
  | tail _ hmoment ih => exact ih.trans hmoment.grows

theorem Evolves.orderly (hevolves : s.Evolves s') (horderly : s.Orderly) : s'.Orderly := by
  induction hevolves with
  | refl => exact horderly
  | tail _ hmoment ih => exact hmoment.orderly ih

/-! ## Operations are made of moments -/

theorem Turns.evolves {count : Nat} (hturns : Turns count s s') : s.Evolves s' := by
  induction hturns with
  | refl => exact .refl
  | turn hturn _ ih => exact .head (.turn hturn) ih

theorem moment_turn (s : Session) : Moment s s.turn.2 :=
  .turn rfl

theorem evolves_pullWithin (s : Session) (turns : Nat) : s.Evolves (s.pullWithin turns).2 := by
  induction turns generalizing s with
  | zero => exact .refl
  | succ turns ih =>
      rw [pullWithin_succ]
      cases Turn.answer? s.turn.1 with
      | some answer => exact .single (moment_turn s)
      | none => exact .head (moment_turn s) (ih _)

theorem Acts.evolves {id : TaskId} (hacts : Acts id s s') (hsound : s.Sound) (hrest : s.Resting) :
    s.Evolves s' := by
  induction hacts with
  | refl => exact .refl
  | tail hbefore hact ih => exact ih.tail (.act (Acts.resting hbefore hsound hrest) hact)

theorem Step.evolves (hstep : Step s s') (hsound : s.Sound) (hrest : s.Resting) : s.Evolves s' := by
  cases hstep with
  | pulled hpull hanswer =>
      obtain ⟨count, r, result, hturns, hlast, -⟩ := exists_last_turn hpull hanswer
      exact hturns.evolves.tail (.turn hlast)
  | filledIn id field value => exact (fillIn_acts s id field value).evolves hsound hrest
  | clicked id component => exact (click_acts s id component).evolves hsound hrest
  | answered id value => exact (answer_acts s id value).evolves hsound hrest
  | breakpointSet name => exact .single (.breakpoint name)

/-- Whatever the program around a session does happens moment by moment. -/
theorem Drives.evolves (hdrives : s.Drives s') (horderly : s.Orderly) (hrest : s.Resting) :
    s.Evolves s' ∧ s'.Resting := by
  induction hdrives with
  | refl => exact ⟨.refl, hrest⟩
  | @tail r _ _ hdrive ih =>
      obtain ⟨hbefore, hresting⟩ := ih
      have hsound := (hbefore.orderly horderly).sound
      cases hdrive with
      | operated hstep =>
          exact ⟨hbefore.trans (hstep.evolves hsound hresting), hstep.resting hsound hresting⟩
      | requeued events =>
          exact ⟨hbefore.tail (.requeued events), (alike_requeue r events).resting hresting⟩

theorem Driven.orderly (hdriven : s.Driven) : s.Orderly ∧ s.Resting :=
  ⟨⟨hdriven.accounted.1, hdriven.accounted.2.emptied⟩, hdriven.accounted.2⟩

/-- A session that starts is orderly, and what the program around it does leads from there. -/
theorem orderly_start {document : Document} {settings : SessionSettings} {ownsEvents : Bool}
    {start : Session} (hstart : Session.start document settings ownsEvents = .ok start) :
    start.Orderly ∧ start.Resting :=
  Driven.orderly ⟨document, settings, ownsEvents, start, hstart, .refl⟩

end

end Workflow.Session
