/-
**How often a character comes onto the stage.**

It is reported each time that a character comes onto the stage, and a character whose picture is not loaded
never does. At its entry a scene lets every character come once, and sets one timer for each of those that
are to come again. From then on nothing but these timers lets a character come, and nothing but time changes
them.

* `World.Announces`: how often it is reported that a character comes;
* `TimerQueue.recalls`: the timers that let a character come again;
* `Scene.announces_enter`, `Scene.recalls_enter`: the entry of a scene;
* `Scene.Presents`: both, while a scene is played, with `Scene.Kept.presents_touch`,
  `Scene.Kept.presents_retrigger` and others for what is done with it.
-/

import Storybook.Proofs.Clock
import Storybook.Proofs.Neighbours.Players
import Storybook.Proofs.Recurrences

namespace Storybook

/-! ### Reports and timers -/

/-- An event that tells that a character has come onto the stage. -/
def Event.shows (id : CharacterId) : Event → Bool
  | .characterShown other _ => other = id
  | _ => false

theorem Event.shows_eq_false {id : CharacterId} {event : Event} (quiet : event.isArrival = false) :
    event.shows id = false := by
  cases event with
  | characterShown _ _ => cases quiet
  | _ => rfl

/-- The time from one coming of a character to the next. -/
def SceneOptions.period (options : SceneOptions) : Period :=
  .ofSpan (Span.millis options.retriggerMillis)

/-- The timers that are to let a character of the story come again, when it was to come again so many times
since an instant: one for those that do so at all. -/
def SceneOptions.Recalls (options : SceneOptions) (id : CharacterId) (character : Story.Character)
    (made had : Nat) (timers : List (Timer Task)) : Prop :=
  ∃ timer, timers = if options.retriggerCharacter = some character.name then
    [Timer.turn timer made options.period (.retrigger id) had] else []

/-- The picture of a character is loaded. -/
def Story.Character.isLoaded (character : Story.Character) (resources : Asset.Resources) : Bool :=
  (resources.texture? character.image).isSome

/-- The timers that let a character come again. -/
def TimerQueue.recalls (queue : TimerQueue Task) (id : CharacterId) : List (Timer Task) :=
  queue.timers.filter fun timer => timer.task = .retrigger id

variable {id : CharacterId} {times more : Nat} {lost : Losses} {loose : List Loose}

namespace World

/-- **Between the two worlds it is reported so many times** that a character comes onto the stage, and the
assets stay. -/
structure Announces (id : CharacterId) (times : Nat) (before after : World) : Prop where
  resources : after.resources = before.resources
  events : ∃ new, after.events.toList = before.events.toList ++ new ∧ new.countP (Event.shows id) = times

variable {first second third world after : World}

theorem Announces.of_eq (resources : second.resources = first.resources)
    (events : second.events = first.events) : Announces id 0 first second :=
  ⟨resources, [], by rw [events, List.append_nil], rfl⟩

theorem Announces.refl (world : World) : Announces id 0 world world :=
  .of_eq rfl rfl

theorem Announces.trans (left : Announces id times first second) (right : Announces id more second third) :
    Announces id (times + more) first third := by
  obtain ⟨earlier, before, count⟩ := left.events
  obtain ⟨later, after, counts⟩ := right.events
  refine ⟨right.resources.trans left.resources, earlier ++ later, ?_, ?_⟩
  · rw [after, before, List.append_assoc]
  · rw [List.countP_append, count, counts]

theorem announces_report (world : World) {event : Event} (shown : (event.shows id).toNat = times) :
    Announces id times world (world.report event) := by
  refine ⟨rfl, [event], by simp [report], shown ▸ ?_⟩
  cases shows : event.shows id <;> simp [shows]

theorem announces_of_reports (resources : second.resources = first.resources)
    (silent : Reports (fun event => event.shows id = false) first second) :
    Announces id 0 first second := by
  obtain ⟨new, added, others⟩ := silent
  refine ⟨resources, new, added, List.countP_eq_zero.mpr fun event member => ?_⟩
  rw [others event member]
  exact Bool.false_ne_true

/-- What is done without anything coming onto the stage is not reported in this way. -/
theorem Abides.announces (abides : first.Abides second) : Announces id 0 first second :=
  announces_of_reports abides.resources (abides.events.imp fun _ => Event.shows_eq_false)

/-- What spares all but some sprites leaves the timers for characters alone. -/
theorem Spares.recalls {own : List SpriteId} (spares : Spares own world after) (id : CharacterId) :
    after.timers.recalls id = world.timers.recalls id := by
  have among (timers : List (Timer Task)) :
      (timers.filter (·.task.isForeign own)).filter (fun timer => timer.task = .retrigger id) =
        timers.filter fun timer => timer.task = .retrigger id := by
    rw [List.filter_filter]
    refine List.filter_congr fun timer _ => ?_
    by_cases recalls : timer.task = .retrigger id
    · simp [recalls, Task.isForeign]
    · simp [recalls]
  unfold TimerQueue.recalls
  rw [← among after.timers.timers, ← among world.timers.timers, spares.timers]

end World

/-! ### Characters -/

namespace Character

/-- How many of some characters have a given number, and a picture that is loaded. -/
def comings (resources : Asset.Resources) (id : CharacterId) (characters : List Character) : Nat :=
  characters.countP fun character => character.id = id && character.spec.isLoaded resources

variable {world : World}

/-- A character that enters the stage is reported once. -/
theorem announces_enterStage (character : Character) (binder : Binder) (texture : Asset.Texture)
    (world : World) :
    World.Announces id (decide (character.id = id)).toNat world
      (character.enterStage binder texture world).2 := by
  obtain ⟨quiet, told, silent⟩ := character.events_enterStage binder texture world
  refine ⟨(character.arrives_enterStage binder texture world).resources, _, told, ?_⟩
  have omits (skipped : List SkippedEffect) :
      (skipped.map (Event.effectSkipped character.name)).countP (Event.shows id) = 0 :=
    List.countP_eq_zero.mpr (List.forall_mem_map.mpr fun _ _ => Bool.false_ne_true)
  have rest : quiet.countP (Event.shows id) = 0 := List.countP_eq_zero.mpr fun event member => by
    rw [Event.shows_eq_false (silent event member)]
    exact Bool.false_ne_true
  rw [List.countP_append, omits, List.countP_cons, rest]
  by_cases same : character.id = id <;> simp [Event.shows, same]

/-- **A character that appears is reported once**, if its picture is loaded. -/
theorem announces_appear (character : Character) (binder : Binder) (world : World) :
    World.Announces id (comings world.resources id [character]) world
      (character.appear binder world).2 := by
  have remains := (character.turns_withdraw world).remains
  have withdrawn : World.Announces id 0 world (character.withdraw world).2 :=
    (character.abides_withdraw world).announces
  rw [appear_eq]
  split
  · rename_i texture loaded
    have single : comings world.resources id [character] =
        0 + (decide ((character.withdraw world).1.id = id)).toNat := by
      rw [remains.id]
      by_cases same : character.id = id <;> simp [comings, Story.Character.isLoaded, loaded, same]
    rw [single]
    exact withdrawn.trans (announces_enterStage _ binder texture _)
  · rename_i missing
    have none : comings world.resources id [character] = 0 := by
      simp [comings, Story.Character.isLoaded, missing]
    have warned := withdrawn.trans (World.abides_remark _ .warn .character
      s!"{character.name}: image '{character.spec.image}' is not loaded, not shown").announces
    rw [none]
    exact warned

end Character

/-! ### The entry of a scene -/

namespace SoundChain

theorem recalls_scheduleAll (links : List Nat) : ∀ (chain : SoundChain) (world : World),
    (chain.scheduleAll links world).2.timers.recalls id = world.timers.recalls id := by
  induction links with
  | nil => exact fun _ _ => rfl
  | cons link rest ih =>
    intro chain world
    have scheduled : (chain.schedule link world).2.timers.recalls id = world.timers.recalls id :=
      Timer.filter_enqueue (by simp) _
    exact (ih (chain.schedule link world).1 _).trans scheduled

end SoundChain

namespace Scene

open Character (comings)

variable {scene : Scene} {world : World}

theorem announces_appearEach (binder : Binder) (characters : List Character) (world : World) :
    World.Announces id (comings world.resources id characters) world
      (appearEach binder characters world).2 := by
  induction characters generalizing world with
  | nil => exact .refl world
  | cons character rest ih =>
    have first : World.Announces id (comings world.resources id [character]) world
        (character.appear binder world).2 := character.announces_appear binder world
    have others := ih (character.appear binder world).2
    rw [first.resources] at others
    have whole : comings world.resources id (character :: rest) =
        comings world.resources id [character] + comings world.resources id rest := by
      rw [comings, ← List.singleton_append, List.countP_append]
      rfl
    rw [whole]
    exact first.trans others

/-- **At the entry of a scene it is reported of each of its characters that it comes**, once, if its
picture is loaded. -/
theorem announces_enter (new : scene.state = .uninitialized) (world : World) :
    World.Announces id (comings world.resources id scene.characters) world (scene.enter world).2 := by
  let begun := scene.enterSounds (scene.remarkEntry world)
  let drawn := begun.1.drawBackground begun.2
  let dressed := drawn.1.enterCharacters drawn.2
  let set := dressed.1.setRetriggers dressed.2
  have told : World.Announces id 0 world (scene.remarkEntry world) := .of_eq rfl rfl
  have sounds : World.Announces id 0 (scene.remarkEntry world) begun.2 :=
    (SoundChain.abides_scheduleAll _ _ _).announces
  have draws : World.Announces id 0 begun.2 drawn.2 := by
    show World.Announces id 0 begun.2 (begun.1.drawBackground begun.2).2
    unfold drawBackground
    split <;> exact .of_eq rfl rfl
  have before := (told.trans sounds).trans draws
  have appears : World.Announces id (comings drawn.2.resources id drawn.1.characters) drawn.2 dressed.2 :=
    announces_appearEach _ _ _
  have cast : drawn.1.characters = scene.characters := characters_drawBackground begun.1 begun.2
  rw [cast, before.resources] at appears
  have sets : World.Announces id 0 dressed.2 set.2 := (dressed.1.abides_setRetriggers dressed.2).announces
  have entered : World.Announces id 0 set.2 (set.2.report (.sceneEntered set.1.id)) :=
    World.announces_report _ rfl
  have whole := ((before.trans appears).trans sets).trans entered
  simp only [Nat.zero_add, Nat.add_zero] at whole
  rw [enter_eq new]
  exact whole

/-! ### The cast of a scene -/

/-- The characters of a scene are those that the story gives it. -/
def Casts (scene : Scene) (spec : Story.Scene) : Prop :=
  scene.characters.map Character.part = (cast spec).map Character.part

variable {spec : Story.Scene} {character : Story.Character}

theorem part_cast (found : spec.characters[id.index]? = some character) :
    ((cast spec)[id.index]?).map Character.part = some (id, character) := by
  unfold cast
  rw [List.getElem?_map, List.getElem?_zipIdx, found]
  simp [Character.part, Character.ofSpec]

theorem nodup_cast (spec : Story.Scene) : ((cast spec).map Character.id).Nodup := by
  have numbers : (cast spec).map Character.id =
      (List.range' 0 spec.characters.length).map CharacterId.mk := by
    rw [← List.zipIdx_map_snd 0 spec.characters, cast, List.map_map, List.map_map]
    rfl
  rw [numbers]
  exact (List.nodup_range').map fun first second same => congrArg CharacterId.index same

theorem Casts.part (casts : scene.Casts spec) (found : spec.characters[id.index]? = some character) :
    (scene.character? id).map Character.part = some (id, character) := by
  rw [← part_cast found, ← List.getElem?_map, ← casts, List.getElem?_map]
  rfl

theorem Casts.nodup (casts : scene.Casts spec) : (scene.characters.map Character.id).Nodup := by
  have ids (characters : List Character) :
      characters.map Character.id = (characters.map Character.part).map Prod.fst := by
    rw [List.map_map]
    rfl
  rw [ids, casts, ← ids]
  exact nodup_cast spec

/-- Of characters with different numbers, only one has a given number. -/
theorem comings_eq {resources : Asset.Resources} {characters : List Character}
    (distinct : (characters.map Character.id).Nodup) {one : Character} (member : one ∈ characters) :
    comings resources one.id characters = (one.spec.isLoaded resources).toNat := by
  induction characters with
  | nil => cases member
  | cons first rest ih =>
    obtain ⟨apart, others⟩ := List.nodup_cons.mp distinct
    have unlike {other : Character} (inside : other ∈ rest) : first.id ≠ other.id := fun same =>
      apart (List.mem_map.mpr ⟨other, inside, same.symm⟩)
    rcases List.mem_cons.mp member with rfl | inside
    · have none : comings resources one.id rest = 0 := by
        refine List.countP_eq_zero.mpr fun other inside => ?_
        simp [(unlike inside).symm]
      have whole : comings resources one.id (one :: rest) =
          comings resources one.id rest + (one.spec.isLoaded resources).toNat := by
        cases loaded : one.spec.isLoaded resources <;> simp [comings, loaded]
      rw [whole, none, Nat.zero_add]
    · have whole : comings resources one.id (first :: rest) = comings resources one.id rest := by
        simp [comings, unlike inside]
      rw [whole, ih others inside]

/-- **Of each character of the story it is reported once** that it comes, if its picture is loaded. -/
theorem comings_cast {resources : Asset.Resources}
    (found : spec.characters[id.index]? = some character) :
    comings resources id (cast spec) = (character.isLoaded resources).toNat := by
  obtain ⟨one, there, part⟩ := Option.map_eq_some_iff.mp (part_cast found)
  have single : comings resources one.id (cast spec) = (one.spec.isLoaded resources).toNat :=
    comings_eq (nodup_cast spec) (List.mem_of_getElem? there)
  rw [show one.id = id from congrArg Prod.fst part,
    show one.spec = character from congrArg Prod.snd part] at single
  exact single

/-! ### The timers of an entry -/

theorem mem_retriggered_iff : id ∈ scene.retriggered ↔ scene.IsRecalled id := by
  refine ⟨isRecalled_of_mem, ?_⟩
  rintro ⟨one, member, same, set⟩
  unfold retriggered
  rw [set]
  exact List.mem_map.mpr ⟨one, List.mem_filter.mpr ⟨member, by simp⟩, same⟩

theorem Casts.nodup_retriggered (casts : scene.Casts spec) : scene.retriggered.Nodup := by
  unfold retriggered
  split
  · exact (List.filter_sublist.map Character.id).nodup casts.nodup
  · exact .nil

theorem Casts.mem_retriggered_iff (casts : scene.Casts spec)
    (found : spec.characters[id.index]? = some character) :
    id ∈ scene.retriggered ↔ scene.options.retriggerCharacter = some character.name := by
  obtain ⟨one, there, part⟩ := Option.map_eq_some_iff.mp (casts.part found)
  have named : one.name = character.name := congrArg (fun part => part.2.name) part
  rw [Scene.mem_retriggered_iff]
  constructor
  · rintro ⟨other, member, same, set⟩
    have unique : other = one := List.inj_on_of_nodup_map casts.nodup member (List.mem_of_getElem? there)
      (same.trans (congrArg Prod.fst part).symm)
    rw [set, unique, named]
  · exact fun set => ⟨one, List.mem_of_getElem? there, congrArg Prod.fst part, named ▸ set⟩

theorem recalls_retriggerEach_of_not_mem {ids : List CharacterId} (other : id ∉ ids) (span : Nat) :
    ∀ world : World, (retriggerEach span ids world).2.timers.recalls id = world.timers.recalls id := by
  induction ids with
  | nil => exact fun _ => rfl
  | cons first rest ih =>
    intro world
    obtain ⟨different, others⟩ := not_or.mp (mt List.mem_cons.mpr other)
    have set : (world.timers.repeatEvery span (.retrigger first)).2.recalls id =
        world.timers.recalls id := Timer.filter_enqueue (by simpa using Ne.symm different) _
    exact (ih others { world with timers := _ }).trans set

/-- **For each of several characters one timer is set.** -/
theorem recalls_retriggerEach {ids : List CharacterId} (distinct : ids.Nodup) (span : Nat) {world : World}
    (free : world.timers.recalls id = []) : ∃ timer,
      (retriggerEach span ids world).2.timers.recalls id =
        if id ∈ ids then
          [Timer.turn timer world.timers.now (Period.ofSpan span) (.retrigger id) 0]
        else [] := by
  induction ids generalizing world with
  | nil => exact ⟨⟨0⟩, free⟩
  | cons first rest ih =>
    obtain ⟨apart, others⟩ := List.nodup_cons.mp distinct
    let set : World :=
      { world with timers := (world.timers.repeatEvery span (.retrigger first)).2 }
    by_cases same : id = first
    · subst same
      refine ⟨⟨world.timers.issued + 1⟩, ?_⟩
      show (retriggerEach span rest set).2.timers.recalls id = _
      rw [if_pos List.mem_cons_self, recalls_retriggerEach_of_not_mem apart span]
      refine List.perm_singleton.mp (((Timer.perm_enqueue _ _).filter _).trans ?_)
      rw [List.filter_cons_of_pos (by simp), show world.timers.timers.filter _ = [] from free]
      have due : world.timers.now + (Period.ofSpan span).length =
          world.timers.now + (0 + 1) * (Period.ofSpan span).length := by omega
      exact .of_eq (congrArg (fun due => [(⟨_, due, _, _⟩ : Timer Task)]) due)
    · have before : set.timers.recalls id = [] := by
        refine (Timer.filter_enqueue ?_ _).trans free
        simpa using Ne.symm same
      obtain ⟨timer, recalls⟩ := ih others before
      refine ⟨timer, ?_⟩
      show (retriggerEach span rest set).2.timers.recalls id = _
      rw [recalls]
      simp only [List.mem_cons, same, false_or]
      rfl

/-- Characters that act set no such timers. -/
theorem recalls_of_acts {world after : World} (acts : world.Acts after)
    (free : world.timers.recalls id = []) : after.timers.recalls id = [] := by
  refine List.filter_eq_nil_iff.mpr fun timer member recalls => ?_
  have task : timer.task = .retrigger id := of_decide_eq_true recalls
  rcases acts.timers timer member with old | ⟨tick, motion, starts⟩
  · exact List.filter_eq_nil_iff.mp free timer old recalls
  · cases task.symm.trans starts

theorem casts_enterCharacters (same : scene.characters = cast spec) (world : World) :
    (scene.enterCharacters world).1.Casts spec := by
  have coherent : ∀ one ∈ scene.characters, one.Coherent := same ▸ coherent_cast spec
  have parts := parts_appearEach scene.binder scene.characters coherent world
  rw [same] at parts
  unfold Casts enterCharacters
  rw [same]
  exact parts

theorem casts_enter (new : scene.state = .uninitialized) (same : scene.characters = cast spec)
    (world : World) : (scene.enter world).1.Casts spec := by
  let begun := scene.enterSounds (scene.remarkEntry world)
  rw [enter_eq new]
  exact casts_enterCharacters ((characters_drawBackground begun.1 begun.2).trans same) _

/-- **At its entry a scene sets one timer for each character that is to come again**, if there were no
timers before. -/
theorem recalls_enter (name : String) (style : Story.Style) (options : SceneOptions)
    (idle : world.timers.timers = []) (found : spec.characters[id.index]? = some character) :
    options.Recalls id character world.timers.now 0
      (((ofSpec name spec style options).enter world).2.timers.recalls id) := by
  let scene := ofSpec name spec style options
  let begun := scene.enterSounds (scene.remarkEntry world)
  let drawn := begun.1.drawBackground begun.2
  let dressed := drawn.1.enterCharacters drawn.2
  have new : scene.state = .uninitialized := rfl
  have same : drawn.1.characters = cast spec := characters_drawBackground begun.1 begun.2
  have casts : dressed.1.Casts spec := casts_enterCharacters same drawn.2
  have choice : dressed.1.options = options := by
    show (begun.1.drawBackground begun.2).1.options = options
    unfold drawBackground
    split <;> rfl
  have begins : begun.2.timers.recalls id = [] := by
    refine (SoundChain.recalls_scheduleAll _ _ (scene.remarkEntry world)).trans ?_
    show world.timers.timers.filter _ = []
    rw [idle, List.filter_nil]
  have draws : drawn.2.timers = begun.2.timers := by
    show (begun.1.drawBackground begun.2).2.timers = begun.2.timers
    unfold drawBackground
    split <;> rfl
  have free : dressed.2.timers.recalls id = [] :=
    recalls_of_acts (acts_appearEach _ _ (same ▸ coherent_cast spec) _) (draws ▸ begins)
  have still : dressed.2.timers.now = world.timers.now := by
    have sounds : world.timers.Halts begun.2.timers :=
      SoundChain.halts_scheduleAll _ _ (scene.remarkEntry world)
    have halts := sounds.trans (draws ▸ halts_appearEach drawn.1.binder drawn.1.characters drawn.2)
    exact halts.now
  obtain ⟨remarks, told⟩ := dressed.1.remarkRetriggered_eq dressed.2
  have warned : ({ dressed.2 with remarks } : World).timers.recalls id = [] := free
  obtain ⟨timer, set⟩ := recalls_retriggerEach casts.nodup_retriggered
    (Span.millis dressed.1.options.retriggerMillis) warned
  refine ⟨timer, ?_⟩
  rw [enter_eq new]
  show (dressed.1.setRetriggers dressed.2).2.timers.recalls id = _
  unfold setRetriggers
  rw [told]
  refine set.trans ?_
  simp only [casts.mem_retriggered_iff found, choice, still]
  rfl

/-! ### While a scene is played -/

/-- **Between two moments of a scene** it is reported so many times that a character comes, while the
character stays the same one of the story, and so do the timers that let it come again. -/
structure Presents (id : CharacterId) (times : Nat) (scene : Scene) (world : World) (later : Scene)
    (last : World) : Prop where
  part : (later.character? id).map Character.part = (scene.character? id).map Character.part
  announces : World.Announces id times world last
  recalls : last.timers.recalls id = world.timers.recalls id

theorem Presents.refl (scene : Scene) (world : World) : Presents id 0 scene world scene world :=
  ⟨rfl, .refl world, rfl⟩

variable {other : CharacterId} {one after : Character} {last : World}

/-- A character of a scene turns into another state, and spares the sprites of others. -/
theorem presents_setCharacter (found : scene.character? other = some one)
    (turns : one.Turns world after last) {own : List SpriteId} (spares : World.Spares own world last)
    (announces : World.Announces id times world last) :
    Presents id times scene world (scene.setCharacter other after) last := by
  refine ⟨?_, announces, spares.recalls id⟩
  by_cases same : other = id
  · subst same
    rw [character?_setCharacter_self found, found]
    exact congrArg some turns.remains.part
  · rw [character?_setCharacter same]

theorem presents_playSound (scene : Scene) (world : World) (link : Nat) :
    Presents id 0 scene world (scene.playSound link world).1 (scene.playSound link world).2 := by
  unfold Scene.playSound
  split
  · exact .refl scene world
  · refine ⟨rfl, (scene.sounds.abides_play link world).announces, ?_⟩
    show (scene.sounds.play link world).2.timers.recalls id = _
    unfold SoundChain.play
    dsimp only
    split
    · rfl
    · split <;> rfl

theorem presents_finish (scene : Scene) (world : World) (playback : PlaybackId) :
    Presents id 0 scene world (scene.finish playback world).2.1 (scene.finish playback world).2.2 := by
  refine ⟨rfl, (scene.sounds.abides_finish playback world).announces, ?_⟩
  show (scene.sounds.finish playback world).2.2.timers.recalls id = _
  unfold SoundChain.finish
  split
  · rfl
  · exact SoundChain.recalls_scheduleAll _ _ world

namespace Kept

theorem presents_touch (kept : scene.Kept lost loose world) (other : CharacterId) :
    Presents id 0 scene world (scene.touch other world).2.1 (scene.touch other world).2.2 := by
  unfold Scene.touch
  split
  · split
    · rename_i one found
      have spares : World.Spares one.sprite.toList world (one.touch world).2.2 :=
        Character.spares_touch (kept.coherent one (mem_of_character? found))
          (fun sprite stands => Option.mem_toList.mpr stands) (kept.single found).held
      exact presents_setCharacter found (one.runs_touch world).turns spares (one.abides_touch world).announces
    · exact .refl scene world
  · exact .refl scene world

theorem presents_pointerUpAt (kept : scene.Kept lost loose world) (x y : Single) :
    Presents id 0 scene world (scene.pointerUpAt x y world).2.1 (scene.pointerUpAt x y world).2.2 := by
  unfold Scene.pointerUpAt pointerUp
  split
  · split
    · exact kept.presents_touch _
    · exact .refl scene world
  · exact .refl scene world

/-- **A character that is to come again is reported to come**, if its picture is loaded. -/
theorem presents_retrigger (kept : scene.Kept lost loose world) (active : scene.state = .active)
    (part : (scene.character? id).map Character.part = some (id, character)) (other : CharacterId) :
    Presents id (if other = id then (character.isLoaded world.resources).toNat else 0) scene world
      (scene.retrigger other world).1 (scene.retrigger other world).2 := by
  unfold Scene.retrigger
  rw [if_pos active]
  cases found : scene.character? other with
  | none =>
    have different : other ≠ id := by
      rintro rfl
      rw [found] at part
      cases part
    rw [if_neg different]
    exact .refl scene world
  | some one =>
    have coherent := kept.coherent one (mem_of_character? found)
    have spares := Character.spares_appear coherent scene.binder
      (fun sprite stands => List.mem_append_left _ (Option.mem_toList.mpr stands))
      (fun sprite stands => List.mem_append_right _ (Option.mem_toList.mpr stands)) (kept.single found).held
    have times : comings world.resources id [one] =
        if other = id then (character.isLoaded world.resources).toNat else 0 := by
      have number := kept.numbered.id found
      by_cases same : other = id
      · subst same
        rw [found] at part
        have spec : one.spec = character := congrArg Prod.snd (Option.some.inj part)
        cases loaded : character.isLoaded world.resources <;> simp [comings, number, spec, loaded]
      · simp [comings, number, same]
    rw [← times]
    exact presents_setCharacter found (Character.turns_appear coherent scene.binder world) spares
      (one.announces_appear scene.binder world)

end Kept

end Scene

end Storybook
