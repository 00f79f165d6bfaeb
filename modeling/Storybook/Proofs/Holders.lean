/-
**Everything that is under way has one holder.**

Between two operations every timer is one that the scene in play has set, for a sound, for a character
to appear again, or for the start of a motion, and every motion that is registered is held by exactly
one place: the gravity of a character or the state of one effect of a character. A holder's motion
moves the sprite of its own character.

* `Scene.Sets`: what a scene knows of a timer that it has set;
* `Scene.Moves`: what a scene knows of a motion that is registered;
* `Player.one_holder`: all timers and all motions are known in this way.
-/

import Storybook.Proofs.Holding.Players

namespace Storybook

/-! ### One holder -/

namespace Scene

/-- The places of a scene that hold a handle, in order. -/
def holders (scene : Scene) (tick : TickId) : List Holding :=
  scene.holdings.filter fun holding => holding.tick = tick

/-- A timer that the scene has set. A sound is one of its sounds, and its timer is pending; a character
that appears again has the name set for that; and the start of a motion is the timer of one move
that is pending, of a character whose sprite the motion moves. -/
def Sets (scene : Scene) (timer : Timer Task) : Prop :=
  match timer.task with
  | .playSound link =>
    timer.period = none ∧ link < scene.sounds.links.length ∧ timer.id ∈ scene.sounds.pending
  | .retrigger id =>
    timer.period ≠ none ∧ timer.id ∈ scene.retriggers ∧
      ∃ character, scene.character? id = some character ∧
        scene.options.retriggerCharacter = some character.name
  | .startMotion tick motion =>
    timer.period = none ∧ scene.holders tick = [⟨tick, motion, some timer.id⟩] ∧
      ∃ character ∈ scene.characters, character.sprite = some motion.sprite ∧
        ∃ velocity pause, motion = .drift motion.sprite velocity ∧
          .move motion.sprite velocity pause (.pending timer.id tick) ∈ character.bindings.effects

/-- A motion that the scene moves: one place holds its handle, and this is a place of a character
whose sprite the motion moves. The motion is the one that is held, but for the velocity that it has
gained. -/
def Moves (scene : Scene) (entry : TickId × Motion) : Prop :=
  ∃ holding, scene.holders entry.1 = [holding] ∧ holding.motion = entry.2.atRest ∧
    ∃ character ∈ scene.characters, holding ∈ character.holdings ∧
      character.sprite = some entry.2.sprite

variable {lost : Losses} {loose : List Loose} {scene : Scene} {world : World}

/-- A place that holds a handle is the only one. -/
theorem Settled.holders (settled : scene.Settled) {holding : Holding}
    (member : holding ∈ scene.holdings) : scene.holders holding.tick = [holding] := by
  have listed : holding ∈ scene.holders holding.tick :=
    List.mem_filter.mpr ⟨member, decide_eq_true rfl⟩
  have distinct : (scene.holders holding.tick).Nodup :=
    (List.Nodup.of_map _ settled.handles).filter _
  refine List.perm_singleton.mp ((List.perm_ext_iff_of_nodup distinct (List.nodup_singleton _)).mpr ?_)
  intro other
  rw [List.mem_singleton]
  constructor
  · intro inside
    obtain ⟨place, same⟩ := List.mem_filter.mp inside
    exact List.inj_on_of_nodup_map settled.handles place member (of_decide_eq_true same)
  · rintro rfl
    exact listed

theorem Kept.sets (kept : scene.Kept lost loose world) {timer : Timer Task}
    (member : timer ∈ world.timers.timers) : scene.Sets timer := by
  unfold Sets
  split
  · exact kept.plans timer member _ ‹_›
  · obtain ⟨again, set, character, inside, rfl, named⟩ := kept.recalls timer member _ ‹_›
    exact ⟨again, set, character, kept.numbered.found inside, named⟩
  · obtain ⟨once, place⟩ := kept.kept.held.starts timer member _ _ ‹_›
    obtain ⟨character, inside, holds⟩ := List.mem_flatMap.mp place
    obtain ⟨sprite, velocity, pause, rfl, bound⟩ := character.pending_of_waits holds
    exact ⟨once, kept.settled.holders place, character, inside,
      (kept.coherent character inside).sprite holds, velocity, pause, rfl, bound⟩

theorem Kept.moves (kept : scene.Kept lost [] world) {entry : TickId × Motion}
    (member : entry ∈ world.animator.entries) : scene.Moves entry := by
  rcases kept.kept.held.motions entry member with stray | ⟨holding, place, same, moves⟩
  · cases stray
  · obtain ⟨character, inside, holds⟩ := List.mem_flatMap.mp place
    have stands := (kept.coherent character inside).sprite holds
    rw [moves, Motion.sprite_atRest] at stands
    exact ⟨holding, same ▸ kept.settled.holders place, moves, character, inside, holds, stands⟩

end Scene

/-! ### In every state between two operations -/

/-- **Everything that is under way has one holder**: between two operations there are timers and motions
only while a scene is played, and they are all known to it. -/
theorem Player.one_holder (document : Story.Document) (resources : Asset.Resources) (audio : Audio)
    (viewport : Viewport) (options : SceneOptions) (operations : List Operation) :
    let player := (ofResources document resources audio viewport options).run operations
    (∀ timer ∈ player.world.timers.timers, ∃ scene, player.scene = some scene ∧ scene.Sets timer) ∧
      ∀ entry ∈ player.world.animator.entries,
        ∃ scene, player.scene = some scene ∧ scene.Moves entry := by
  intro player
  have kept : player.Kept .any :=
    kept_run_any operations (kept_ofResources document resources audio viewport options)
  cases kept with
  | waiting waits plain =>
    refine ⟨fun timer member => ?_, fun entry member => ?_⟩
    · rw [waits.idle] at member
      cases member
    · rw [waits.kept.held.entries_eq_nil] at member
      cases member
  | playing scene shows active kept =>
    exact ⟨fun timer member => ⟨scene, shows.current, kept.sets member⟩,
      fun entry member => ⟨scene, shows.current, kept.moves member⟩⟩

end Storybook
