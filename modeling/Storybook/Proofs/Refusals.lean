/-
**A scene that is torn down stays silent.**

A scene answers requests: it may be entered and torn down, its characters are touched and appear again, its
sounds are played and end. Once it is torn down it refuses them all, whatever happened to it before, in
whatever worlds that was, and whichever numbers and handles of its past a request may name.

* `Scene.Request`, `Scene.serve`: what can be asked of a scene, and how it answers;
* `Scene.after`: a scene after several requests, each of them in a world of its own;
* `Scene.Refuses`: a request is refused, and leaves everything as it is but for a remark;
* `Scene.Inert`: a scene that can only refuse (`Scene.Inert.refuses`), as every scene is that was torn down
  (`Scene.EndsInert.inert_teardown`);
* `Scene.stays_silent`: whatever is asked of it from then on is refused.
-/

import Storybook.Proofs.Working

namespace Storybook.Scene

/-! ### Requests -/

/-- What can be asked of a scene. -/
inductive Request
  | enter
  | teardown
  | retrigger (character : CharacterId)
  | playSound (link : Nat)
  | finish (playback : PlaybackId)
  | touch (character : CharacterId)
  | pointerUp (sprite : SpriteId)
  | pointerUpAt (x y : Single)
deriving DecidableEq, Repr

/-- The answer yes or no with what comes of it. -/
def decided (outcome : Bool × Scene × World) : Option Bool × Scene × World :=
  (some outcome.1, outcome.2)

/-- The answer of a scene, where a request calls for one, with what comes of the scene and of the world. -/
def serve (scene : Scene) : Request → World → Option Bool × Scene × World
  | .enter, world => (none, scene.enter world)
  | .teardown, world => (none, scene.teardown world)
  | .retrigger character, world => (none, scene.retrigger character world)
  | .playSound link, world => (none, scene.playSound link world)
  | .finish playback, world => decided (scene.finish playback world)
  | .touch character, world => decided (scene.touch character world)
  | .pointerUp sprite, world => decided (scene.pointerUp sprite world)
  | .pointerUpAt x y, world => decided (scene.pointerUpAt x y world)

/-- A scene after several requests. Anything may happen to the world from one to the next. -/
def after (scene : Scene) (requests : List (Request × World)) : Scene :=
  requests.foldl (fun scene (request, world) => (scene.serve request world).2.1) scene

/-- **A request is refused**: it is not granted, it leaves the scene torn down and as it is, and it changes
nothing in the world but may make a remark. -/
structure Refuses (scene : Scene) (request : Request) (world : World) : Prop where
  answer : (scene.serve request world).1 ≠ some true
  state : (scene.serve request world).2.1.state = .tornDown
  same : (scene.serve request world).2.1 = scene
  stage : (scene.serve request world).2.2.stage = world.stage
  animator : (scene.serve request world).2.2.animator = world.animator
  timers : (scene.serve request world).2.2.timers = world.timers
  audio : (scene.serve request world).2.2.audio = world.audio
  resources : (scene.serve request world).2.2.resources = world.resources
  events : (scene.serve request world).2.2.events = world.events

variable {scene : Scene}

/-! ### Scenes that can only refuse -/

/-- A scene that is torn down and waits for no playing to end. -/
structure Inert (scene : Scene) : Prop where
  state : scene.state = .tornDown
  awaiting : scene.sounds.awaiting = []

namespace Inert

/-- A request that is denied and changes nothing is refused. -/
theorem refuses_of_eq (inert : scene.Inert) {request : Request} {world : World} {answer : Option Bool}
    (same : scene.serve request world = (answer, scene, world)) (denied : answer ≠ some true) :
    scene.Refuses request world := by
  constructor <;> rw [same]
  · exact denied
  · exact inert.state

theorem touch (inert : scene.Inert) (character : CharacterId) (world : World) :
    scene.touch character world = (false, scene, world) := by
  unfold Scene.touch
  rw [if_neg]
  rw [inert.state]
  exact nofun

/-- The characters of the past have no sprites any more, and would not be touched if they had. -/
theorem pointerUp (inert : scene.Inert) (sprite : SpriteId) (world : World) :
    scene.pointerUp sprite world = (false, scene, world) := by
  unfold Scene.pointerUp
  split
  · exact inert.touch _ world
  · rfl

theorem pointerUpAt (inert : scene.Inert) (x y : Single) (world : World) :
    scene.pointerUpAt x y world = (false, scene, world) := by
  unfold Scene.pointerUpAt
  split
  · exact inert.pointerUp _ world
  · rfl

/-- No playing of the past is awaited. The state of the scene is not asked here. -/
theorem finish (inert : scene.Inert) (playback : PlaybackId) (world : World) :
    scene.finish playback world = (false, scene, world) := by
  unfold Scene.finish SoundChain.finish
  rw [inert.awaiting]
  rfl

/-- **An inert scene refuses whatever is asked of it.** -/
theorem refuses (inert : scene.Inert) (request : Request) (world : World) :
    scene.Refuses request world := by
  have down := inert.state
  cases request with
  | enter =>
    have fresh : scene.state ≠ .uninitialized := down ▸ nofun
    have remarked : scene.serve .enter world = (none, scene,
        world.remark .warn .scene s!"Scene '{scene.id}' entered twice, ignored") :=
      congrArg (Prod.mk none) (if_neg fresh)
    constructor <;> rw [remarked]
    · exact nofun
    · exact down
    all_goals rfl
  | teardown => exact inert.refuses_of_eq (congrArg (Prod.mk none) (if_pos down)) nofun
  | retrigger character =>
    have active : scene.state ≠ .active := down ▸ nofun
    exact inert.refuses_of_eq (congrArg (Prod.mk none) (if_neg active)) nofun
  | playSound link => exact inert.refuses_of_eq (congrArg (Prod.mk none) (if_pos down)) nofun
  | finish playback =>
    exact inert.refuses_of_eq (congrArg decided (inert.finish playback world)) nofun
  | touch character =>
    exact inert.refuses_of_eq (congrArg decided (inert.touch character world)) nofun
  | pointerUp sprite =>
    exact inert.refuses_of_eq (congrArg decided (inert.pointerUp sprite world)) nofun
  | pointerUpAt x y =>
    exact inert.refuses_of_eq (congrArg decided (inert.pointerUpAt x y world)) nofun

/-- It stays as it is, whatever is asked of it. -/
theorem after (inert : scene.Inert) (requests : List (Request × World)) : scene.after requests = scene := by
  induction requests with
  | nil => rfl
  | cons first rest ih =>
    show ((scene.serve first.1 first.2).2.1).after rest = scene
    rw [(inert.refuses first.1 first.2).same]
    exact ih

end Inert

/-! ### Every scene that was torn down -/

/-- **A scene that is torn down is inert.** This holds of the scenes that requests lead to, and not of all
that could be put together. -/
def EndsInert (scene : Scene) : Prop :=
  scene.state = .tornDown → scene.Inert

/-- Only a request for the end of a scene tears it down. -/
theorem state_serve (standing : scene.state ≠ .tornDown) {request : Request} (goes : request ≠ .teardown)
    (world : World) : (scene.serve request world).2.1.state ≠ .tornDown := by
  cases request with
  | enter =>
    show (scene.enter world).1.state ≠ _
    by_cases new : scene.state = .uninitialized
    · exact (enter_fst new world).1.trans_ne nofun
    · rw [show scene.enter world = (scene, _) from if_neg new]
      exact standing
  | teardown => exact absurd rfl goes
  | retrigger character =>
    show (scene.retrigger character world).1.state ≠ _
    unfold retrigger
    split
    · split <;> exact standing
    · exact standing
  | playSound link =>
    show (scene.playSound link world).1.state ≠ _
    unfold playSound
    split <;> exact standing
  | finish playback => exact standing
  | touch character => exact (scene.state_touch character world).trans_ne standing
  | pointerUp sprite =>
    show (scene.pointerUp sprite world).2.1.state ≠ _
    unfold pointerUp
    split
    · exact (scene.state_touch _ world).trans_ne standing
    · exact standing
  | pointerUpAt x y => exact (scene.state_pointerUpAt x y world).trans_ne standing

namespace EndsInert

/-- The end of a scene leaves it inert, also where it comes again. -/
theorem inert_teardown (ends : scene.EndsInert) (world : World) : (scene.teardown world).1.Inert := by
  unfold teardown
  split
  · rename_i down
    exact ends down
  · exact ⟨rfl, rfl⟩

theorem serve (ends : scene.EndsInert) (request : Request) (world : World) :
    (scene.serve request world).2.1.EndsInert := by
  intro down
  by_cases already : scene.state = .tornDown
  · rw [((ends already).refuses request world).same]
    exact ends already
  · by_cases goes : request = .teardown
    · subst goes
      exact ends.inert_teardown world
    · exact absurd down (state_serve already goes world)

theorem after (ends : scene.EndsInert) (requests : List (Request × World)) : (scene.after requests).EndsInert := by
  induction requests generalizing scene with
  | nil => exact ends
  | cons first rest ih => exact ih (ends.serve first.1 first.2)

end EndsInert

/-- **A scene that is torn down stays silent**: after any history it refuses every request of any later
sequence of requests. -/
theorem stays_silent (id : String) (spec : Story.Scene) (style : Story.Style) (options : SceneOptions)
    (history : List (Request × World)) (last : World) (later : List (Request × World)) (request : Request)
    (world : World) :
    let torn := (((ofSpec id spec style options).after history).teardown last).1
    (torn.after later).Refuses request world := by
  have fresh : (ofSpec id spec style options).EndsInert := nofun
  have inert := (fresh.after history).inert_teardown last
  dsimp only
  rw [inert.after later]
  exact inert.refuses request world

end Storybook.Scene
