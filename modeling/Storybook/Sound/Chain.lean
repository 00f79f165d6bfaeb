/-
**Sounds that follow each other.**

A sound may name the sounds that follow it when it has ended. A scene starts the sounds that nothing
leads to: those that no sound names, and of each ring of sounds that is not reached otherwise the
first one. Only sounds with a wait start by themselves.

* `SoundChain.roots`: the sounds that start by themselves;
* `SoundChain.start`, `SoundChain.play`, `SoundChain.finish`, `SoundChain.stop`: the course of the
  sounds.
-/

import Storybook.Play.World

namespace Storybook

/-- The sounds of a scene, and which of them are under way. -/
structure SoundChain where
  links : List Story.Sound
  /-- The playings that other sounds may follow, with their sounds. -/
  awaiting : List (PlaybackId × Nat)
  /-- The timers of sounds that are to be played. -/
  pending : List TimerId
deriving DecidableEq, Repr

namespace SoundChain

/-- The sounds of a scene before any is under way. -/
def ofLinks (links : List Story.Sound) : SoundChain :=
  ⟨links, [], []⟩

/-! ### Roots -/

/-- The sounds with a given id. -/
def withId (links : List Story.Sound) (id : String) : List Nat :=
  (List.range links.length).filter fun link => (links[link]?.bind Story.Sound.id) = some id

theorem mem_withId {links : List Story.Sound} {id : String} {link : Nat} :
    link ∈ withId links id ↔ ∃ sound, links[link]? = some sound ∧ sound.id = some id := by
  simp only [withId, List.mem_filter, List.mem_range, decide_eq_true_eq, Option.bind_eq_some_iff]
  refine and_iff_right_of_imp fun ⟨sound, found, _⟩ => ?_
  exact (List.getElem?_eq_some_iff.mp found).1

/-- The sounds that follow a sound. -/
def successors (links : List Story.Sound) (link : Nat) : List Nat :=
  match links[link]?.bind Story.Sound.next with
  | some next => withId links next
  | none => []

/-- **A sound follows another one** if its id is the one that the other one names. -/
theorem mem_successors {links : List Story.Sound} {link follower : Nat} :
    follower ∈ successors links link ↔ ∃ sound next, links[link]? = some sound ∧ sound.next = some next ∧
      ∃ other, links[follower]? = some other ∧ other.id = some next := by
  have named : follower ∈ successors links link ↔
      ∃ next, links[link]?.bind Story.Sound.next = some next ∧ follower ∈ withId links next := by
    unfold successors
    split <;> simp [*]
  simp only [named, Option.bind_eq_some_iff, mem_withId]
  constructor
  · exact fun ⟨next, ⟨sound, found, names⟩, follows⟩ => ⟨sound, next, found, names, follows⟩
  · exact fun ⟨sound, next, found, names, follows⟩ => ⟨next, ⟨sound, found, names⟩, follows⟩

/-- The sounds that follow a sound come in order, each of them once. -/
theorem sorted_successors (links : List Story.Sound) (link : Nat) :
    (successors links link).Pairwise (· < ·) := by
  unfold successors
  split
  · exact List.pairwise_lt_range.filter _
  · exact .nil

/-- No sound has more successors than there are sounds. -/
theorem length_successors_le (links : List Story.Sound) (link : Nat) :
    (successors links link).length ≤ links.length := by
  unfold successors withId
  split
  · exact Nat.le_trans (List.length_filter_le _ _) (Nat.le_of_eq List.length_range)
  · exact Nat.zero_le _

/-- Whether a sound has a wait. -/
def isTimed (links : List Story.Sound) (link : Nat) : Bool :=
  (links[link]?.bind Story.Sound.wait).isSome

theorem isTimed_iff {links : List Story.Sound} {link : Nat} :
    isTimed links link ↔ ∃ sound wait, links[link]? = some sound ∧ sound.wait = some wait := by
  simp only [isTimed, Option.isSome_iff_exists, Option.bind_eq_some_iff]
  exact exists_comm

/-- Whether a sound names the id of a sound. -/
def isTargeted (links : List Story.Sound) (link : Nat) : Bool :=
  match links[link]?.bind Story.Sound.id with
  | some id => links.any fun sound => sound.next = some id
  | none => false

theorem isTargeted_iff {links : List Story.Sound} {link : Nat} :
    isTargeted links link ↔ ∃ sound id, links[link]? = some sound ∧ sound.id = some id ∧
      ∃ other ∈ links, other.next = some id := by
  have named : isTargeted links link ↔
      ∃ id, links[link]?.bind Story.Sound.id = some id ∧ ∃ other ∈ links, other.next = some id := by
    unfold isTargeted
    split <;> simp [*]
  simp only [named, Option.bind_eq_some_iff]
  constructor
  · exact fun ⟨id, ⟨sound, found, own⟩, targets⟩ => ⟨sound, id, found, own, targets⟩
  · exact fun ⟨sound, id, found, own, targets⟩ => ⟨id, ⟨sound, found, own⟩, targets⟩

/-- What is left of `unreached` without the sounds that are reached from those of `stack` through
unreached ones. -/
def explore (links : List Story.Sound) (unreached stack : List Nat) : List Nat :=
  match stack with
  | [] => unreached
  | link :: stack =>
    if link ∈ unreached then
      explore links (unreached.erase link) (successors links link ++ stack)
    else
      explore links unreached stack
termination_by unreached.length * (links.length + 1) + stack.length
decreasing_by
  · have fewer := List.length_erase_of_mem ‹link ∈ unreached›
    have short := length_successors_le links link
    obtain ⟨rest, whole⟩ := Nat.exists_eq_add_one.mpr (List.length_pos_of_mem ‹link ∈ unreached›)
    rw [fewer, whole, List.length_append, List.length_cons, Nat.add_sub_cancel, Nat.succ_mul]
    omega
  · simp

/-- The sounds with a wait that no sound names. -/
def heads (links : List Story.Sound) : List Nat :=
  (List.range links.length).filter fun link => isTimed links link && !isTargeted links link

/-- The sounds with a wait, in order, that are reached neither from before nor from one that was
picked earlier. -/
def pick (links : List Story.Sound) : List Nat → List Nat → List Nat
  | [], _ => []
  | link :: rest, unreached =>
    if isTimed links link ∧ link ∈ unreached then
      link :: pick links rest (explore links unreached [link])
    else
      pick links rest unreached

/-- The sounds that start by themselves, in order. -/
def roots (links : List Story.Sound) : List Nat :=
  let all := List.range links.length
  let picked := pick links all (explore links all (heads links))
  all.filter fun link => (heads links).contains link || picked.contains link

/-! ### Course -/

/-- Waits for the turn of a sound. -/
def schedule (chain : SoundChain) (link : Nat) (world : World) : SoundChain × World :=
  let wait := (chain.links[link]?.bind Story.Sound.wait).getD 0
  let (timer, world) := world.schedule (Span.millis wait) (.playSound link)
  ({ chain with pending := chain.pending ++ [timer] }, world)

/-- Waits for the turn of several sounds. -/
def scheduleAll (chain : SoundChain) (links : List Nat) (world : World) : SoundChain × World :=
  links.foldl (fun (chain, world) link => chain.schedule link world) (chain, world)

/-- Starts the sounds that start by themselves. -/
def start (chain : SoundChain) (world : World) : SoundChain × World :=
  chain.scheduleAll (roots chain.links) world

/-- Plays a sound at its volume. -/
def play (chain : SoundChain) (link : Nat) (world : World) : SoundChain × World :=
  let chain := { chain with pending := chain.pending.filter world.timers.isPending }
  match chain.links[link]? with
  | none => (chain, world.remark .warn .soundChain s!"Sound link {link} out of range")
  | some sound =>
    let world := { world with audio := world.audio.setVolume sound.file sound.volume }
    let (playback, world) := world.playSound sound.file
    if sound.next.isSome then
      ({ chain with awaiting := chain.awaiting ++ [(playback, link)] }, world)
    else
      (chain, world)

/-- A playing has ended by itself: the sounds that follow it wait for their turn. Answers whether
the playing was one of this chain. -/
def finish (chain : SoundChain) (playback : PlaybackId) (world : World) :
    Bool × SoundChain × World :=
  match chain.awaiting.lookup playback with
  | none => (false, chain, world)
  | some link =>
    let awaiting := chain.awaiting.filter fun (other, _) => other ≠ playback
    (true, { chain with awaiting }.scheduleAll (successors chain.links link) world)

/-- Stops the sounds that others may follow, and waits for no more. -/
def stop (chain : SoundChain) (world : World) : SoundChain × World :=
  let world := chain.pending.foldl World.cancelTimer world
  let files := chain.awaiting.filterMap fun (_, link) => chain.links[link]?.map Story.Sound.file
  let audio := files.foldl Audio.stop world.audio
  ({ chain with awaiting := [], pending := [] }, { world with audio })

end SoundChain

end Storybook
