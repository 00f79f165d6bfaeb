/-
**Characters come again at regular intervals.**

A scene is entered by an operation that asks for it, by the start of a story whose splash has no sound, or in
the frame in which the sound of the splash ends. However that comes, from then on every character of the
scene comes as often as the time of the frames says that follow.

* `Player.HasEntered`: a scene was entered since a state of the world, and no time has passed since;
* `Player.hasEntered_enterSpec`: every entry is such a one;
* `Player.uneventful_or_hasEntered`: every operation enters a scene in this way, or reports no entry;
* `Player.told`: what is reported in a list of operations;
* `Player.comes_again`: how often each character comes, after everything that can be done before.
-/

import Storybook.Proofs.Returning.Players
import Storybook.Proofs.Splash

namespace Storybook

open Operation (elapsed)

namespace Player

variable {player next : Player} {before : World} {id : CharacterId}
  {character : Story.Character} {spec : Story.Scene}

/-! ### Entries -/

/-- **A scene has been entered since a state of the world**, and no time has passed since. -/
structure HasEntered (before : World) (player : Player) : Prop where
  kept : player.Kept .any
  scene : ∃ scene spec, player.Shows scene ∧ player.document.scene? scene.id = some spec ∧
    ∀ id character, spec.characters[id.index]? = some character →
      player.Recalling id character player.world.timers.now before

/-- What is done in no time and within the scene, without a character coming, leaves it so. -/
theorem HasEntered.keep (entered : player.HasEntered before) (kept : next.Kept .any)
    (stays : player.Stays next) (halts : player.world.timers.Halts next.world.timers)
    (presents : ∀ id, player.Presents id 0 next) : next.HasEntered before := by
  obtain ⟨scene, spec, shows, found, recalling⟩ := entered.scene
  obtain ⟨later, showing, title⟩ := stays.shows shows
  refine ⟨kept, later, spec, showing, ?_, fun id character part => ?_⟩
  · rw [stays.document, show later.id = scene.id from congrArg Prod.fst title]
    exact found
  · rw [halts.now]
    exact (recalling id character part).keep kept stays.same halts (presents id)

/-- Nothing comes when what is played is left. -/
theorem abides_clear (player : Player) : player.world.Abides player.leaveScene.clearSplash.world := by
  have left : player.world.Abides player.leaveScene.world := by
    unfold leaveScene
    cases player.scene with
    | none => exact .refl player.world
    | some scene => exact scene.abides_teardown player.world
  refine left.trans ?_
  unfold clearSplash
  cases player.leaveScene.splashSprite with
  | none => cases player.leaveScene.splashPlayback <;> exact .of_eq rfl rfl rfl
  | some sprite =>
    have destroyed := player.leaveScene.world.abides_destroySprite sprite
    cases player.leaveScene.splashPlayback <;> exact destroyed.trans (.of_eq rfl rfl rfl)

/-- **From the entry of a scene on**, each of its characters has come once, if its picture is loaded. -/
theorem recalling_enterSpec (waits : player.leaveScene.Waits .any)
    (ordered : Timer.Ordered player.world.timers.timers) (name : String)
    (part : spec.characters[id.index]? = some character)
    (silent : World.Announces id 0 before player.world) :
    (player.enterSpec name spec).Recalling id character
      (player.enterSpec name spec).world.timers.now before := by
  let cleared := player.leaveScene.clearSplash
  let fresh := Scene.ofSpec name spec cleared.document.style cleared.options
  have new : fresh.state = .uninitialized := rfl
  have still : (player.enterSpec name spec).world.timers.now = cleared.world.timers.now :=
    (Scene.halts_enter new cleared.world).now
  have options : (player.enterSpec name spec).options = cleared.options := rfl
  have same := player.same_enterSpec name spec
  have resources : cleared.world.resources = player.world.resources := player.same_clear.resources
  refine ⟨kept_enterSpec waits name spec, (Scene.casts_enter new rfl cleared.world).part part,
    (player.halts_enterSpec name spec).ordered ordered, Nat.le_refl _, ?_, ?_⟩
  · rw [Nat.sub_self, Nat.zero_div, still]
    exact Scene.recalls_enter name _ cleared.options (kept_clearSplash waits).2 part
  · have enters : World.Announces id _ cleared.world (player.enterSpec name spec).world :=
      Scene.announces_enter new cleared.world
    rw [show fresh.characters = Scene.cast spec from rfl, Scene.comings_cast part, resources] at enters
    have whole := (silent.trans player.abides_clear.announces).trans enters
    rw [Nat.sub_self, SceneOptions.comings_zero, same.resources]
    rwa [Nat.zero_add] at whole

/-- **The entry of a scene.** -/
theorem hasEntered_enterSpec (waits : player.leaveScene.Waits .any)
    (ordered : Timer.Ordered player.world.timers.timers) {name : String}
    (found : player.document.scene? name = some spec)
    (silent : ∀ id, World.Announces id 0 before player.world) :
    (player.enterSpec name spec).HasEntered before := by
  let cleared := player.leaveScene.clearSplash
  let fresh := Scene.ofSpec name spec cleared.document.style cleared.options
  have new : fresh.state = .uninitialized := rfl
  obtain ⟨_, named⟩ := Scene.enter_fst new cleared.world
  have known : (player.enterSpec name spec).document.scene? (fresh.enter cleared.world).1.id = some spec := by
    rw [named, (player.same_enterSpec name spec).document]
    exact found
  exact ⟨kept_enterSpec waits name spec, _, spec, ⟨rfl, rfl, rfl, rfl⟩, known, fun id character part =>
    recalling_enterSpec waits ordered name part (silent id)⟩

/-! ### Operations -/

/-- No scene is reported to have been entered since a state of the world. -/
def Uneventful (before : World) (player : Player) : Prop :=
  World.Reports (fun event => ∀ name, event ≠ .sceneEntered name) before player.world

/-- What is told without any entry. -/
theorem uneventful_of_tells {told : List Event} (tells : before.Tells told player.world)
    (none : ∀ name, .sceneEntered name ∉ told) : player.Uneventful before := by
  obtain ⟨new, added, milestones⟩ := tells.events
  refine ⟨new, added, ?_⟩
  rintro event member name rfl
  refine none name ?_
  rw [← milestones]
  exact List.mem_filter.mpr ⟨member, rfl⟩

/-- Work within a scene is no entry. -/
theorem Stays.uneventful (stays : player.Stays next) : next.Uneventful player.world :=
  uneventful_of_tells stays.works.tells nofun

/-- A try to enter a scene. -/
theorem uneventful_or_hasEntered_enterScene (waits : player.leaveScene.Waits .any)
    (ordered : Timer.Ordered player.world.timers.timers) (quiet : player.Uneventful before)
    (silent : ∀ id, World.Announces id 0 before player.world) (name : String) :
    (player.enterScene name).2.Uneventful before ∨ (player.enterScene name).2.HasEntered before :=
  enterScene_cases (motive := fun next => next.Uneventful before ∨ next.HasEntered before)
    (.inl quiet) fun _ found => .inr (hasEntered_enterSpec waits ordered found silent)

/-- The start of a story. -/
theorem uneventful_or_hasEntered_start (kept : player.Kept .any)
    (ordered : Timer.Ordered player.world.timers.timers) :
    player.start.2.Uneventful player.world ∨ player.start.2.HasEntered player.world := by
  refine start_cases (motive := fun next => next.Uneventful player.world ∨ next.HasEntered player.world)
    (fun _ => .inl (player.stays_world (player.world.works_warn _ _)).uneventful) (fun _ _ _ => .inl ?_)
    fun loaded _ => ?_
  · have tells := player.stays_showSplash.works.tells.trans player.showSplash.tells_playSplash
    exact uneventful_of_tells tells (by simp)
  · have skipped := kept_skipSplash kept loaded fun _ _ => trivial
    have halts : player.world.timers.Halts player.skipSplash.world.timers := by
      rw [skipSplash, showSplash_eq]
      exact .refl _
    have silent : ∀ id, World.Announces id 0 player.world player.skipSplash.world := by
      intro id
      rw [skipSplash, showSplash_eq]
      exact .of_eq rfl rfl
    have quiet : player.skipSplash.Uneventful player.world := player.stays_skipSplash.uneventful
    exact uneventful_or_hasEntered_enterScene (waits_leaveScene skipped) (halts.ordered ordered) quiet silent _

/-! ### Frames -/

/-- The end of a playing, in the frame in which a scene was entered. -/
theorem HasEntered.finish (entered : player.HasEntered before) (playback : PlaybackId) :
    (player.finish playback).HasEntered before := by
  obtain ⟨scene, _, shows, _⟩ := entered.scene
  have other : player.splashPlayback ≠ some playback := by
    rw [shows.playback]
    nofun
  exact entered.keep (kept_finish entered.kept playback) (stays_finish other) (player.halts_finish playback)
    fun _ => presents_finish other

/-- **No scene is in play**, and none was entered since a state of the world. -/
structure Idles (before : World) (player : Player) : Prop where
  waits : player.Waits .any
  quiet : player.Uneventful before
  ordered : Timer.Ordered player.world.timers.timers
  silent : ∀ id, World.Announces id 0 before player.world

/-- The end of a playing while no scene is in play: it may be that of the splash. -/
theorem Idles.finish (idles : player.Idles before) (playback : PlaybackId) :
    (player.finish playback).Idles before ∨ (player.finish playback).HasEntered before := by
  unfold Player.finish
  split
  · have told : World.Reports _ before player.endSplash.world :=
      idles.quiet.trans (player.world.reports_report nofun)
    have silent (id : CharacterId) : World.Announces id 0 before player.endSplash.world :=
      have ended : World.Announces id 0 player.world player.endSplash.world := World.announces_report _ rfl
      (idles.silent id).trans ended
    have waits := waits_endSplash idles.waits
    refine leaveSplash_cases (motive := fun next => next.Idles before ∨ next.HasEntered before)
      (fun _ => .inl ?_) fun spec found => .inr (hasEntered_enterSpec waits.leave idles.ordered found silent)
    have remarked (id : CharacterId) : World.Announces id 0 player.endSplash.world player.missStart.world :=
      .of_eq rfl rfl
    exact ⟨⟨waits.scene, waits.kept.congr rfl rfl rfl, waits.idle⟩, told.trans (.of_eq rfl),
      idles.ordered, fun id => (silent id).trans (remarked id)⟩
  · unfold withScene
    rw [idles.waits.scene]
    exact .inl idles

/-- **A frame while no scene is in play**: it may enter one. -/
theorem uneventful_or_hasEntered_frame (waits : player.Waits .any)
    (ordered : Timer.Ordered player.world.timers.timers) (span : Nat) :
    (player.frame span).Uneventful player.world ∨ (player.frame span).HasEntered player.world := by
  have begun : (player.listening span).Idles player.world :=
    ⟨waits.listening span, .of_eq rfl, TimerQueue.ordered_advance ordered span, fun _ => .of_eq rfl rfl⟩
  have ended : (player.beforeMotions span).Idles player.world ∨
      (player.beforeMotions span).HasEntered player.world := by
    rw [frame_of_waits waits]
    exact List.foldlRecOn (motive := fun middle : Player => middle.Idles player.world ∨
      middle.HasEntered player.world) _ finish (.inl begun) fun middle since playback _ =>
        since.elim (fun idles => idles.finish playback) fun entered => .inr (entered.finish playback)
  rw [frame_eq]
  have ticks := stays_tick (player.beforeMotions span) span
  rcases ended with idles | entered
  · exact .inl (idles.quiet.trans ticks.uneventful)
  · have timers : ((player.beforeMotions span).world.tick span).timers =
        (player.beforeMotions span).world.timers := World.timers_tick _ span
    exact .inr (entered.keep (kept_tick entered.kept span) ticks (timers ▸ .refl _)
      fun _ => presents_tick _ span)

/-! ### Every operation -/

/-- **An operation enters a scene, or it is not reported that one was entered.** -/
theorem uneventful_or_hasEntered (kept : player.Kept .any)
    (ordered : Timer.Ordered player.world.timers.timers) (operation : Operation) :
    (player.perform operation).Uneventful player.world ∨
      (player.perform operation).HasEntered player.world := by
  cases operation with
  | start => exact uneventful_or_hasEntered_start kept ordered
  | enterScene name =>
    exact uneventful_or_hasEntered_enterScene (waits_leaveScene kept) ordered (.refl _) (fun _ => .refl _) name
  | frame span =>
    cases kept with
    | waiting waits plain => exact uneventful_or_hasEntered_frame waits ordered span
    | playing scene shows active kept => exact .inl (stays_frame shows.playback span).uneventful
  | touch other => exact .inl (player.stays_touch other).uneventful
  | touchNamed name => exact .inl (player.stays_touchNamed name).uneventful
  | pointerUpAt x y => exact .inl (player.stays_pointerUpAt x y).uneventful
  | render viewport => exact .inl (player.stays_render viewport).uneventful
  | destroy sprite => exact .inl (player.stays_destroySprite sprite).uneventful
  | shutdown =>
    have active : ∀ scene, player.scene = some scene → scene.state = .active := by
      intro scene current
      cases kept with
      | waiting waits plain => cases waits.scene.symm.trans current
      | playing other shows active kept =>
        cases shows.current.symm.trans current
        exact active
    exact .inl (uneventful_of_tells (tells_clear active) (by simp))

/-! ### How often characters come -/

/-- What is reported in a list of operations. -/
def told (player : Player) (operations : List Operation) : List Event :=
  (player.run operations).world.events.toList.drop player.world.events.size

/-- What is reported between two states of a world is all that was added. -/
theorem told_eq {operations : List Operation} {new : List Event}
    (added : (player.run operations).world.events.toList = player.world.events.toList ++ new) :
    player.told operations = new := by
  unfold told
  rw [added, ← Array.length_toList, List.drop_left]

/-- **Characters come again at regular intervals.** In a play of a story a scene is entered, in whichever
way, and then watched, in frames of any lengths, with touches and everything else that does not leave it.
Then it is still in play, and since its entry every one of its characters whose picture is loaded has come
once, and those that come again once more for every interval that has passed. The others have not come. -/
theorem comes_again (document : Story.Document) (resources : Asset.Resources) (audio : Audio)
    (viewport : Viewport) (options : SceneOptions) (before : List Operation) (entry : Operation)
    (watching : List Operation) :
    let player := (ofResources document resources audio viewport options).run before
    (∃ name, .sceneEntered name ∈ player.told [entry]) →
      (∀ operation ∈ watching, operation.leaves document = false) →
        ∃ scene spec, (player.run (entry :: watching)).scene = some scene ∧
          document.scene? scene.id = some spec ∧
            ∀ id character, spec.characters[id.index]? = some character →
              (player.told (entry :: watching)).countP (Event.shows id) =
                options.comings resources character (elapsed watching) := by
  intro player ⟨name, entered⟩ remains
  have kept : player.Kept .any :=
    kept_run_any before (kept_ofResources document resources audio viewport options)
  have ordered : Timer.Ordered player.world.timers.timers :=
    ordered_run document resources audio viewport options before
  have same : (ofResources document resources audio viewport options).Same (player.perform entry) :=
    (same_run before _).trans (player.same_perform entry)
  have story : (player.perform entry).document = document := same.document
  have begun : (player.perform entry).HasEntered player.world := by
    refine (uneventful_or_hasEntered kept ordered entry).resolve_left fun quiet => ?_
    obtain ⟨new, added, none⟩ := quiet
    rw [told_eq (show (player.run [entry]).world.events.toList = _ from added)] at entered
    exact none _ entered name rfl
  obtain ⟨scene, spec, shows, found, recalling⟩ := begun.scene
  rw [← story] at remains
  have stays := stays_run watching shows remains
  obtain ⟨later, showing, title⟩ := stays.shows shows
  refine ⟨later, spec, showing.current, ?_, fun id character part => ?_⟩
  · rw [← story, show later.id = scene.id from congrArg Prod.fst title]
    exact found
  · have watched := (recalling id character part).run watching remains
    obtain ⟨new, added, count⟩ := watched.announces.events
    rw [told_eq (show (player.run (entry :: watching)).world.events.toList = _ from added), count, now_run,
      Nat.add_sub_cancel_left, stays.options, stays.works.resources, same.options, same.resources]
    rfl

/-- A mill with two cats and a dog. Every cat comes again, but the picture of one is missing. -/
def millScene : Story.Scene :=
  ⟨"mill.png", [], [⟨"Cat", "cat.png", ⟨10, 20⟩, none, [("touch", [.spin 2])]⟩,
    ⟨"Cat", "shadow.png", ⟨30, 20⟩, none, []⟩, ⟨"Dog", "dog.png", ⟨50, 20⟩, none, []⟩]⟩

/-- The story of the mill. -/
def millStory : Story.Document :=
  ⟨.standard, ⟨"s.png", "s.mp3"⟩, "mill", [("mill", millScene)]⟩

/-- Its assets. -/
def millAssets : Asset.Resources :=
  ⟨[("cat.png", .texture ⟨64, 64⟩), ("dog.png", .texture ⟨64, 64⟩), ("s.mp3", .sound ⟨none⟩)]⟩

/-- The mill is watched for two seconds, with a touch, and it is asked for a scene that there is not. -/
def millWatch : List Operation :=
  [.frame 1000000000, .touch ⟨0⟩, .enterScene "barn", .frame 100000000, .start, .frame 900000000]

/-- The mill is entered in the frame in which the sound of the splash ends. Two of the five intervals of
four tenths of a second that pass then end in the first frame. -/
theorem comes_again_mill :
    let player := (ofResources millStory millAssets (.silent 3000000000 []) ⟨800, 600⟩
      ⟨some "Cat", 400, 100⟩).run [.start, .frame 1000000000]
    let told := player.told (.frame 2500000000 :: millWatch)
    .sceneEntered "mill" ∈ player.told [.frame 2500000000] ∧
      told.countP (Event.shows ⟨0⟩) = 6 ∧ told.countP (Event.shows ⟨1⟩) = 0 ∧
        told.countP (Event.shows ⟨2⟩) = 1 := by
  intro player told
  have entered : .sceneEntered "mill" ∈ player.told [.frame 2500000000] := by
    decide +kernel
  obtain ⟨scene, spec, _, found, counts⟩ := comes_again millStory millAssets (.silent 3000000000 [])
    ⟨800, 600⟩ ⟨some "Cat", 400, 100⟩ [.start, .frame 1000000000] (.frame 2500000000) millWatch
    ⟨"mill", entered⟩ (by decide)
  have only : spec = millScene := by
    change List.lookup scene.id [("mill", millScene)] = some spec at found
    rw [List.lookup_cons] at found
    split at found
    · exact (Option.some.inj found).symm
    · cases found
  subst only
  refine ⟨entered, ?_, ?_, ?_⟩
  · exact (counts ⟨0⟩ _ rfl).trans (by decide +kernel)
  · exact (counts ⟨1⟩ _ rfl).trans (by decide +kernel)
  · exact (counts ⟨2⟩ _ rfl).trans (by decide +kernel)

end Player

end Storybook
