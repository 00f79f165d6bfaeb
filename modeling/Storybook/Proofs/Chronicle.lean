/-
**The chronicle of a play.**

The milestones that are reported after a story is loaded follow a protocol. A splash may be shown
first, and it may end, with the start scene after it. Then scenes are entered and torn down in turn.

* `Alternates`: scenes are entered and torn down in turn, and one of them may be left standing;
* `Opening`: what comes before the scenes;
* `Moment`, `Chronicle`: the milestones up to a moment of a play;
* `Chronicle.begin`, `Chronicle.finish`, `Chronicle.leave`, `Chronicle.enter`: how a chronicle goes on;
* `Chronicle.notMem_loaded`, `Chronicle.count_le_one`, `Chronicle.finished`, `Chronicle.alternates`:
  what the chronicle of some events tells of them.
-/

import Mathlib.Data.List.Basic
import Storybook.Proofs.Working

namespace Storybook

/-- The beginning or the end of a scene. -/
def Event.isOfScene : Event → Bool
  | .sceneEntered _ => true
  | .sceneTornDown _ => true
  | _ => false

theorem Event.isMilestone_of_isOfScene {event : Event} (scene : event.isOfScene = true) :
    event.isMilestone = true := by
  cases event <;> first | rfl | cases scene

/-- **Scenes are entered and torn down in turn**, each torn down before the next one is entered. The
last one may be left standing. -/
inductive Alternates : List Event → Option String → Prop
  | nil : Alternates [] none
  | enter {log : List Event} (before : Alternates log none) (id : String) :
      Alternates (log ++ [.sceneEntered id]) (some id)
  | leave {log : List Event} {id : String} (before : Alternates log (some id)) :
      Alternates (log ++ [.sceneTornDown id]) none

theorem Alternates.isOfScene {log : List Event} {standing : Option String}
    (alternates : Alternates log standing) : ∀ event ∈ log, event.isOfScene = true := by
  induction alternates with
  | nil => exact nofun
  | enter before id ih => exact List.forall_mem_append.mpr ⟨ih, List.forall_mem_singleton.mpr rfl⟩
  | leave before ih => exact List.forall_mem_append.mpr ⟨ih, List.forall_mem_singleton.mpr rfl⟩

/-- What comes before the scenes of a story: nothing, or a splash that was cut off, or one that has
ended. Then the start scene follows. -/
inductive Opening (start : String) : List Event → List Event → Prop
  | plain {scenes : List Event} : Opening start [] scenes
  | cut {scenes : List Event} : Opening start [.splashShown] scenes
  | ended {scenes : List Event} :
      Opening start [.splashShown, .splashFinished] (.sceneEntered start :: scenes)

theorem Opening.append {start : String} {opening scenes : List Event}
    (opens : Opening start opening scenes) (more : List Event) :
    Opening start opening (scenes ++ more) := by
  cases opens with
  | plain => exact .plain
  | cut => exact .cut
  | ended => exact .ended

/-! ### Moments -/

/-- How far a play has come. -/
inductive Moment
  | loaded
  /-- The splash is shown, and the end of its sound is waited for. -/
  | splash
  /-- Scenes may be entered. One of them may be in play. -/
  | scenes (current : Option String)

namespace Moment

/-- The scene in play. -/
def current : Moment → Option String
  | scenes current => current
  | _ => none

/-- The moment after the scene in play, or the splash, is left. -/
def left : Moment → Moment
  | loaded => loaded
  | _ => scenes none

/-- What is reported when the scene in play is left. -/
def farewell (moment : Moment) : List Event :=
  moment.current.toList.map .sceneTornDown

theorem current_left (moment : Moment) : moment.left.current = none := by
  cases moment <;> rfl

end Moment

/-- **The milestones of a play** after it was loaded, up to a moment. -/
inductive Chronicle (start : String) : Moment → List Event → Prop
  | loaded : Chronicle start .loaded []
  | splash : Chronicle start .splash [.splashShown]
  | scenes {opening scenes : List Event} {current : Option String}
      (opens : Opening start opening scenes) (alternates : Alternates scenes current) :
      Chronicle start (.scenes current) (opening ++ scenes)

namespace Chronicle

variable {start : String} {moment : Moment} {log : List Event}

/-! ### How a chronicle goes on -/

theorem begin (chronicle : Chronicle start .loaded log) :
    Chronicle start .splash (log ++ [.splashShown]) := by
  cases chronicle
  exact .splash

/-- After the splash the start scene is entered. -/
theorem finish (chronicle : Chronicle start .splash log) :
    Chronicle start (.scenes (some start)) (log ++ [.splashFinished, .sceneEntered start]) := by
  cases chronicle
  have whole : Chronicle start _ ([.splashShown, .splashFinished] ++ [.sceneEntered start]) :=
    .scenes .ended (.enter .nil start)
  exact whole

theorem leave (chronicle : Chronicle start moment log) :
    Chronicle start moment.left (log ++ moment.farewell) := by
  cases chronicle with
  | loaded => exact .loaded
  | splash => exact .scenes .cut .nil
  | @scenes opening scenes current opens alternates =>
    rw [List.append_assoc]
    cases current with
    | none =>
      show Chronicle start _ (opening ++ (scenes ++ []))
      rw [List.append_nil]
      exact .scenes opens alternates
    | some id => exact .scenes (opens.append _) alternates.leave

/-- While no scene is in play, one can be entered. -/
theorem enter (chronicle : Chronicle start moment log) (free : moment.current = none)
    (id : String) : Chronicle start (.scenes (some id)) (log ++ [.sceneEntered id]) := by
  cases chronicle with
  | loaded => exact .scenes .plain (.enter .nil id)
  | splash => exact .scenes .cut (.enter .nil id)
  | scenes opens alternates =>
    cases free
    rw [List.append_assoc]
    exact .scenes (opens.append _) (.enter alternates id)

/-- What is in play is left, and a scene is entered. -/
theorem leave_enter (chronicle : Chronicle start moment log) (id : String) :
    Chronicle start (.scenes (some id)) (log ++ (moment.farewell ++ [.sceneEntered id])) := by
  rw [← List.append_assoc]
  exact chronicle.leave.enter moment.current_left id

/-! ### What a chronicle tells -/

/-- A chronicle is an opening and scenes, of which one may stand. -/
theorem exists_opening (chronicle : Chronicle start moment log) :
    ∃ opening scenes, log = opening ++ scenes ∧ Opening start opening scenes ∧
      Alternates scenes moment.current := by
  cases chronicle with
  | loaded => exact ⟨[], [], rfl, .plain, .nil⟩
  | splash => exact ⟨[.splashShown], [], rfl, .cut, .nil⟩
  | scenes opens alternates => exact ⟨_, _, rfl, opens, alternates⟩

variable {events : List Event}

/-- An event that is no milestone of the opening is one of a scene. -/
theorem isOfScene_of_mem (chronicle : Chronicle start moment (events.filter Event.isMilestone))
    {event : Event} (milestone : event.isMilestone = true) (member : event ∈ events) :
    event = .splashShown ∨ event = .splashFinished ∨ event.isOfScene = true := by
  have listed := List.mem_filter.mpr ⟨member, milestone⟩
  obtain ⟨opening, scenes, split, opens, alternates⟩ := chronicle.exists_opening
  rw [split] at listed
  rcases List.mem_append.mp listed with early | late
  · cases opens with
    | plain => cases early
    | cut => exact Or.inl (List.mem_singleton.mp early)
    | ended =>
      rcases List.mem_cons.mp early with shown | ended
      · exact Or.inl shown
      · exact Or.inr (Or.inl (List.mem_singleton.mp ended))
  · exact Or.inr (Or.inr (alternates.isOfScene event late))

/-- The story is loaded only once. -/
theorem notMem_loaded (chronicle : Chronicle start moment (events.filter Event.isMilestone))
    (assets : Nat) : .storyLoaded assets ∉ events := by
  intro member
  rcases chronicle.isOfScene_of_mem rfl member with shown | ended | scene
  · cases shown
  · cases ended
  · cases scene

/-- The events of scenes are those that follow the opening. -/
theorem filter_isOfScene {opening scenes : List Event}
    (split : events.filter Event.isMilestone = opening ++ scenes)
    (opens : Opening start opening scenes) (ofScenes : ∀ event ∈ scenes, event.isOfScene = true) :
    events.filter Event.isOfScene = scenes := by
  have twice : events.filter Event.isOfScene =
      (events.filter Event.isMilestone).filter Event.isOfScene := by
    rw [List.filter_filter]
    refine List.filter_congr fun event _ => ?_
    cases scene : event.isOfScene with
    | true => exact (Event.isMilestone_of_isOfScene scene).symm
    | false => rfl
  have none : opening.filter Event.isOfScene = [] := by
    cases opens <;> rfl
  rw [twice, split, List.filter_append, none, List.nil_append]
  exact List.filter_eq_self.mpr ofScenes

/-- **Scenes are entered and torn down in turn.** -/
theorem alternates (chronicle : Chronicle start moment (events.filter Event.isMilestone)) :
    Alternates (events.filter Event.isOfScene) moment.current := by
  obtain ⟨opening, scenes, split, opens, alternates⟩ := chronicle.exists_opening
  rw [filter_isOfScene split opens alternates.isOfScene]
  exact alternates

/-- A milestone that is no event of a scene is reported at most once. -/
theorem count_le_one (chronicle : Chronicle start moment (events.filter Event.isMilestone))
    {event : Event} (milestone : event.isMilestone = true) (other : event.isOfScene = false) :
    events.count event ≤ 1 := by
  obtain ⟨opening, scenes, split, opens, alternates⟩ := chronicle.exists_opening
  have late : scenes.count event = 0 := by
    refine List.count_eq_zero.mpr fun member => ?_
    cases other.symm.trans (alternates.isOfScene event member)
  have early : opening.Nodup := by
    cases opens <;> simp
  rw [← List.count_filter milestone, split, List.count_append, late, Nat.add_zero]
  exact List.nodup_iff_count_le_one.mp early event

/-- **Where the splash has ended**, it was shown before, and the start scene is the first scene after
it. -/
theorem finished (chronicle : Chronicle start moment (events.filter Event.isMilestone))
    {before after : List Event} (ended : events = before ++ .splashFinished :: after) :
    .splashShown ∈ before ∧
      (after.filter Event.isOfScene).head? = some (.sceneEntered start) := by
  obtain ⟨opening, scenes, split, opens, alternates⟩ := chronicle.exists_opening
  have silent : .splashFinished ∉ scenes := fun member => nomatch alternates.isOfScene _ member
  have parts : opening ++ scenes =
      before.filter Event.isMilestone ++ .splashFinished :: after.filter Event.isMilestone := by
    rw [← split, ended, List.filter_append]
    rfl
  have inside : .splashFinished ∈ opening ++ scenes := by
    rw [parts]
    exact List.mem_append_right _ List.mem_cons_self
  -- the splash ends in the opening only, so that there is one place to cut the events at
  have early := (List.mem_append.mp inside).resolve_right silent
  cases opens with
  | plain => cases early
  | cut => cases List.mem_singleton.mp early
  | @ended scenes =>
    obtain ⟨shown, _, rest⟩ := (List.append_cons_inj_of_notMem
      (show .splashFinished ∉ [Event.splashShown] by simp) silent).mp parts
    constructor
    · have listed : Event.splashShown ∈ before.filter Event.isMilestone := shown ▸ List.mem_cons_self
      exact List.mem_of_mem_filter listed
    · have later : after.filter Event.isMilestone = [] ++ .sceneEntered start :: scenes := rest.symm
      have plain : Opening start [] (.sceneEntered start :: scenes) := .plain
      rw [filter_isOfScene later plain alternates.isOfScene]
      rfl

end Chronicle

end Storybook
