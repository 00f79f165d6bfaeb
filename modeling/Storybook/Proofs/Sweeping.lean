/-
**Every motion takes one step in a frame.**

An animator gives out handles and registers motions under them, at once or later, and at most one under
each. A frame goes through the motions in the order in which they were registered last. Each of them takes
one step, on the stage that the one before it leaves; the motions that are finished then are handed out,
and the others stay, all of them in their order and as the step leaves them.

* `Animator.Request`, `Roster.serve`: what is asked of an animator, and the account that is kept of it;
* `Roster.AdmitsAll`: motions are registered later only under handles that were given out;
* `Roster.Sound`: handles are used once, in the order of registration (`Roster.Sound.run`);
* `Animator.outcome`, `Animator.Frame.Sweeps`: what a frame does with the motion in each place;
* `Animator.sweep`: the frame as a walk along the places, in which motions that are finished are taken out
  where they lie, and `Animator.sweep_append`: the walk passes over no motion;
* `Animator.sweeps_in_order`: every frame of an animator, whatever was asked of it before.
-/

import Mathlib.Data.List.FinRange
import Storybook.Proofs.Commuting

namespace Storybook

/-! ### Requests -/

/-- What is asked of an animator. A frame may be played on any stage. -/
inductive Animator.Request
  | register (motion : Motion)
  | reserve
  | registerReserved (id : TickId) (motion : Motion)
  | deregister (id : TickId)
  | tick (stage : Stage) (delta : Single)
deriving DecidableEq, Repr

/-- An animator, with an account of what it was used for. -/
structure Roster where
  animator : Animator
  /-- The handles that were given out, the last one at the end. -/
  handed : List TickId
  /-- The handles under which motions were registered, each time that one was. -/
  registered : List TickId
deriving DecidableEq, Repr

namespace Roster

/-- An animator of which nothing was asked yet. -/
def fresh : Roster :=
  ⟨.empty, [], []⟩

/-- Gives out a handle. -/
def reserve (roster : Roster) : Roster :=
  let (id, animator) := roster.animator.reserve
  { roster with animator, handed := roster.handed ++ [id] }

/-- Registers a motion under a handle, unless one is registered there. -/
def registerReserved (roster : Roster) (id : TickId) (motion : Motion) : Roster :=
  let (isNew, animator) := roster.animator.registerReserved id motion
  { roster with animator, registered := if isNew then roster.registered ++ [id] else roster.registered }

/-- Does what is asked. -/
def serve (roster : Roster) : Animator.Request → Roster
  | .register motion =>
    let (id, animator) := roster.animator.register motion
    ⟨animator, roster.handed ++ [id], roster.registered ++ [id]⟩
  | .reserve => roster.reserve
  | .registerReserved id motion => roster.registerReserved id motion
  | .deregister id => { roster with animator := (roster.animator.deregister id).2 }
  | .tick stage delta => { roster with animator := (roster.animator.tick stage delta).2.1 }

/-- Does what is asked, one request after the other. -/
def run (roster : Roster) (requests : List Animator.Request) : Roster :=
  requests.foldl serve roster

/-- A motion is registered later only under a handle that was given out. -/
def Admits (roster : Roster) : Animator.Request → Prop
  | .registerReserved id _ => id ∈ roster.handed
  | _ => True

instance (roster : Roster) : DecidablePred roster.Admits
  | .registerReserved id _ => inferInstanceAs (Decidable (id ∈ roster.handed))
  | .register _ | .reserve | .deregister _ | .tick _ _ => .isTrue trivial

/-- **Motions are registered later only under handles that were given out before.** -/
def AdmitsAll : Roster → List Animator.Request → Prop
  | _, [] => True
  | roster, request :: rest => roster.Admits request ∧ (roster.serve request).AdmitsAll rest

instance decidableAdmitsAll : ∀ (roster : Roster) (requests : List Animator.Request),
    Decidable (roster.AdmitsAll requests)
  | _, [] => .isTrue trivial
  | roster, request :: rest =>
    have := decidableAdmitsAll (roster.serve request) rest
    inferInstanceAs (Decidable (_ ∧ _))

/-! ### The order of registration -/

/-- **The last time that a motion was registered under a handle was before the last time that one was
under another.** -/
def Precedes (registered : List TickId) (first second : TickId) : Prop :=
  ∃ earlier later, registered = earlier ++ later ∧ first ∈ earlier ∧ first ∉ later ∧ second ∈ later

variable {registered : List TickId} {first second id : TickId}

theorem Precedes.ne (precedes : Precedes registered first second) : first ≠ second := by
  obtain ⟨_, later, _, _, absent, present⟩ := precedes
  rintro rfl
  exact absent present

/-- Another registration changes nothing between two other handles. -/
theorem Precedes.concat (precedes : Precedes registered first second) (other : first ≠ id) :
    Precedes (registered ++ [id]) first second := by
  obtain ⟨earlier, later, rfl, before, absent, present⟩ := precedes
  refine ⟨earlier, later ++ [id], List.append_assoc .., before, fun member => ?_,
    List.mem_append_left _ present⟩
  exact (List.mem_append.mp member).elim absent fun new => other (List.mem_singleton.mp new)

/-- What is registered now comes after what was registered before. -/
theorem precedes_concat (before : first ∈ registered) (other : first ≠ id) :
    Precedes (registered ++ [id]) first id :=
  ⟨registered, [id], rfl, before, fun new => other (List.mem_singleton.mp new),
    List.mem_singleton_self id⟩

/-! ### Sound accounts -/

/-- **An account agrees with its animator.** Handles are given out in the order of their numbers, motions
are registered only under such handles, and they lie in the order in which they were registered last. -/
structure Sound (roster : Roster) : Prop where
  handed : roster.handed = (List.range' 1 roster.animator.issued).map TickId.mk
  given : ∀ entry ∈ roster.animator.entries, entry.1 ∈ roster.handed
  noted : ∀ entry ∈ roster.animator.entries, entry.1 ∈ roster.registered
  ordered : (roster.animator.entries.map Prod.fst).Pairwise (Precedes roster.registered)

theorem sound_fresh : fresh.Sound :=
  ⟨rfl, nofun, nofun, .nil⟩

namespace Sound

variable {roster : Roster}

/-- At most one motion is registered under each handle. -/
theorem distinct (sound : roster.Sound) : (roster.animator.entries.map Prod.fst).Nodup :=
  sound.ordered.imp Precedes.ne

theorem mem_handed (sound : roster.Sound) :
    id ∈ roster.handed ↔ 0 < id.number ∧ id.number ≤ roster.animator.issued := by
  rw [sound.handed, List.mem_map]
  constructor
  · rintro ⟨number, member, rfl⟩
    obtain ⟨above, below⟩ := List.mem_range'_1.mp member
    exact ⟨above, by dsimp only; omega⟩
  · intro given
    exact ⟨id.number, List.mem_range'_1.mpr (by omega), rfl⟩

/-- The handle that was given out last has the greatest number. -/
theorem exists_last_handed (sound : roster.Sound) (member : id ∈ roster.handed) :
    ∃ last ∈ roster.handed.getLast?, id.number ≤ last.number := by
  have given := sound.mem_handed.mp member
  refine ⟨⟨roster.animator.issued⟩, ?_, given.2⟩
  obtain ⟨before, same⟩ : ∃ before, roster.animator.issued = before + 1 :=
    Nat.exists_eq_succ_of_ne_zero (by omega)
  rw [sound.handed, same, List.range'_concat, List.map_append, Nat.one_mul, Nat.add_comm 1 before]
  exact List.getLast?_concat

/-- No motion is registered under the handle that is given out next. -/
theorem not_isRegistered_new (sound : roster.Sound) :
    ¬ roster.animator.isRegistered roster.animator.reserve.1 = true := by
  intro there
  obtain ⟨entry, member, same⟩ := Animator.isRegistered_iff.mp there
  have given := (sound.mem_handed.mp (sound.given entry member)).2
  rw [same] at given
  exact Nat.not_succ_le_self _ given

theorem reserve (sound : roster.Sound) : roster.reserve.Sound where
  handed := by
    show roster.handed ++ [⟨roster.animator.issued + 1⟩] =
      (List.range' 1 (roster.animator.issued + 1)).map TickId.mk
    rw [sound.handed, List.range'_concat, List.map_append, Nat.one_mul, Nat.add_comm 1]
    rfl
  given entry member := List.mem_append_left _ (sound.given entry member)
  noted := sound.noted
  ordered := sound.ordered

theorem registerReserved (sound : roster.Sound) (given : id ∈ roster.handed) (motion : Motion) :
    (roster.registerReserved id motion).Sound := by
  unfold Roster.registerReserved Animator.registerReserved
  by_cases there : roster.animator.isRegistered id = true
  · rw [if_pos there]
    exact sound
  · rw [if_neg there]
    have other : ∀ entry ∈ roster.animator.entries, entry.1 ≠ id := fun entry member same =>
      there (Animator.isRegistered_iff.mpr ⟨entry, member, same⟩)
    refine ⟨sound.handed, fun entry member => ?_, fun entry member => ?_, ?_⟩
    · rcases List.mem_append.mp member with old | new
      · exact sound.given entry old
      · rw [List.mem_singleton.mp new]
        exact given
    · rcases List.mem_append.mp member with old | new
      · exact List.mem_append_left _ (sound.noted entry old)
      · exact List.mem_append_right _ (List.mem_singleton.mpr (List.mem_singleton.mp new ▸ rfl))
    · -- the others keep their order, since none of them is registered again, and the new one comes last
      show ((roster.animator.entries ++ [(id, motion)]).map Prod.fst).Pairwise _
      rw [List.map_append, List.pairwise_append]
      refine ⟨?_, List.pairwise_singleton .., ?_⟩
      · refine sound.ordered.imp_of_mem fun member _ precedes => precedes.concat ?_
        obtain ⟨entry, inside, rfl⟩ := List.mem_map.mp member
        exact other entry inside
      · intro old member new last
        obtain ⟨entry, inside, rfl⟩ := List.mem_map.mp member
        rw [List.mem_singleton.mp last]
        exact precedes_concat (sound.noted entry inside) (other entry inside)

/-- To register a motion is to register it at once under the next handle. -/
theorem serve_register (sound : roster.Sound) (motion : Motion) :
    roster.serve (.register motion) =
      roster.reserve.registerReserved roster.animator.reserve.1 motion := by
  have new : ¬ roster.reserve.animator.isRegistered roster.animator.reserve.1 = true :=
    sound.not_isRegistered_new
  unfold Roster.registerReserved Animator.registerReserved
  simp only [new]
  rfl

/-- Motions may go, and change, as long as the others stay in their order. -/
theorem thin (sound : roster.Sound) {animator : Animator}
    (issued : animator.issued = roster.animator.issued)
    (fewer : (animator.entries.map Prod.fst).Sublist (roster.animator.entries.map Prod.fst)) :
    { roster with animator }.Sound := by
  have old : ∀ entry ∈ animator.entries, ∃ other ∈ roster.animator.entries, other.1 = entry.1 :=
    fun entry member => List.mem_map.mp (fewer.subset (List.mem_map_of_mem member))
  refine ⟨?_, fun entry member => ?_, fun entry member => ?_, sound.ordered.sublist fewer⟩
  · show roster.handed = (List.range' 1 animator.issued).map TickId.mk
    rw [issued]
    exact sound.handed
  · obtain ⟨other, inside, same⟩ := old entry member
    exact same ▸ sound.given other inside
  · obtain ⟨other, inside, same⟩ := old entry member
    exact same ▸ sound.noted other inside

theorem serve (sound : roster.Sound) {request : Animator.Request} (admits : roster.Admits request) :
    (roster.serve request).Sound := by
  cases request with
  | register motion =>
    rw [sound.serve_register]
    exact sound.reserve.registerReserved (List.mem_append_right _ (List.mem_singleton_self _)) motion
  | reserve => exact sound.reserve
  | registerReserved id motion => exact sound.registerReserved admits motion
  | deregister id => exact sound.thin rfl ((roster.animator.sublist_deregister id).map Prod.fst)
  | tick stage delta => exact sound.thin rfl Animator.sublist_running

/-- **The account stays sound**, whatever is asked. -/
theorem run (sound : roster.Sound) {requests : List Animator.Request}
    (admitted : roster.AdmitsAll requests) : (roster.run requests).Sound := by
  induction requests generalizing roster with
  | nil => exact sound
  | cons request rest ih => exact ih (sound.serve admitted.1) admitted.2

end Sound

end Roster

namespace Animator

section

variable (delta : Single) (entries : List (TickId × Motion)) (stage : Stage)

/-! ### The step in each place -/

/-- The stage that the motion in a place meets in a frame: the one that those before it leave, each after
the other. -/
def met (place : Nat) : Stage :=
  (entries.take place).foldl (fun stage entry => (entry.2.step stage delta).stage) stage

/-- What becomes of the motion in a place. -/
def outcome (place : Fin entries.length) : Motion.Outcome :=
  entries[place].2.step (met delta entries stage place) delta

/-- The motion in a place after its step, under its handle. -/
def stepped (place : Fin entries.length) : TickId × Motion :=
  (entries[place].1, (outcome delta entries stage place).motion)

/-- The places of the motions that are finished by their step, or that are not. -/
def placesWhere (finished : Bool) : List (Fin entries.length) :=
  (List.finRange entries.length).filter fun place =>
    (outcome delta entries stage place).finished == finished

/-- **A frame steps the motion in each place once**, on the stage that the one in the place before leaves.
The motions that are finished then are those that are handed out, and all others stay, in the order of
their places and as their step leaves them. -/
structure Frame.Sweeps (frame : Frame) : Prop where
  leaves : frame.stage = met delta entries stage entries.length
  finished : frame.finished = (placesWhere delta entries stage true).map (stepped delta entries stage)
  running : frame.running = (placesWhere delta entries stage false).map (stepped delta entries stage)

end

variable {delta : Single} {entries : List (TickId × Motion)} {stage : Stage}

/-- The places of a list are the first one and those of the rest, where all goes as it would without the
first motion on the stage that it leaves. -/
theorem placesWhere_cons (entry : TickId × Motion) (rest : List (TickId × Motion)) (stage : Stage)
    (finished : Bool) : placesWhere delta (entry :: rest) stage finished =
      let first := entry.2.step stage delta
      let others := (placesWhere delta rest first.stage finished).map Fin.succ
      if first.finished = finished then (0 : Fin (rest.length + 1)) :: others else others := by
  have places : List.finRange (entry :: rest).length =
      (0 : Fin (rest.length + 1)) :: (List.finRange rest.length).map Fin.succ := List.finRange_succ
  unfold placesWhere
  rw [places, List.filter_cons, List.filter_map]
  simp only [beq_iff_eq]
  rfl

theorem map_placesWhere_cons (entry : TickId × Motion) (rest : List (TickId × Motion)) (stage : Stage)
    (finished : Bool) :
    (placesWhere delta (entry :: rest) stage finished).map (stepped delta (entry :: rest) stage) =
      let first := entry.2.step stage delta
      let others := (placesWhere delta rest first.stage finished).map (stepped delta rest first.stage)
      if first.finished = finished then (entry.1, first.motion) :: others else others := by
  have others : ((placesWhere delta rest (entry.2.step stage delta).stage finished).map Fin.succ).map
      (stepped delta (entry :: rest) stage) =
        (placesWhere delta rest (entry.2.step stage delta).stage finished).map
          (stepped delta rest (entry.2.step stage delta).stage) := List.map_map
  rw [placesWhere_cons]
  dsimp only
  rw [← others]
  split <;> rfl

/-- **A frame steps the motion in each place once.** -/
theorem sweeps_steps (entries : List (TickId × Motion)) (stage : Stage) :
    (steps delta entries stage).Sweeps delta entries stage := by
  induction entries generalizing stage with
  | nil => exact ⟨rfl, rfl, rfl⟩
  | cons entry rest ih =>
    have later := ih (entry.2.step stage delta).stage
    rw [steps_cons]
    unfold Frame.record
    constructor
    case leaves => split <;> exact later.leaves
    case finished =>
      rw [map_placesWhere_cons]
      dsimp only
      rw [← later.finished]
      cases (entry.2.step stage delta).finished <;> rfl
    case running =>
      rw [map_placesWhere_cons]
      dsimp only
      rw [← later.running]
      cases (entry.2.step stage delta).finished <;> rfl

/-! ### A walk along the places -/

/-- Steps the motions from a place on, where they lie. One that is finished is taken out, so that the next
one comes to lie in its place. -/
def sweep (delta : Single) (place : Nat) (entries : List (TickId × Motion)) (stage : Stage)
    (finished : List (TickId × Motion)) : Frame :=
  if inside : place < entries.length then
    let outcome := entries[place].2.step stage delta
    let stepped := (entries[place].1, outcome.motion)
    if outcome.finished then
      sweep delta place (entries.eraseIdx place) outcome.stage (finished ++ [stepped])
    else
      sweep delta (place + 1) (entries.set place stepped) outcome.stage finished
  else
    ⟨stage, entries, finished⟩
termination_by entries.length - place
decreasing_by
  · rw [List.length_eraseIdx_of_lt inside]
    omega
  · rw [List.length_set]
    omega

/-- **The walk passes over no motion** and comes to none twice: from a place on it does what a frame does
with the motions that lie there. -/
theorem sweep_append (passed coming : List (TickId × Motion)) (stage : Stage)
    (finished : List (TickId × Motion)) :
    sweep delta passed.length (passed ++ coming) stage finished =
      let frame := steps delta coming stage
      ⟨frame.stage, passed ++ frame.running, finished ++ frame.finished⟩ := by
  induction coming generalizing passed stage finished with
  | nil =>
    rw [sweep, dif_neg (by simp)]
    simp [steps]
  | cons entry rest ih =>
    have inside : passed.length < (passed ++ entry :: rest).length := by simp
    have here : (passed ++ entry :: rest)[passed.length] = entry := by simp
    rw [sweep, dif_pos inside, here, steps_cons]
    unfold Frame.record
    dsimp only
    split
    · -- the next motion comes to lie in the place of this one, so that the place stays
      rw [List.eraseIdx_append_of_length_le (Nat.le_refl _), Nat.sub_self, List.eraseIdx_cons_zero, ih]
      simp
    · have after := ih (passed ++ [(entry.1, (entry.2.step stage delta).motion)])
        (entry.2.step stage delta).stage finished
      rw [List.length_append, List.length_singleton, List.append_assoc] at after
      rw [List.set_append_right _ _ (Nat.le_refl _), Nat.sub_self, List.set_cons_zero]
      refine after.trans ?_
      simp

end Animator

/-! ### Every frame -/

/-- **An animator is an ordered registry.** -/
structure Roster.Orderly (roster : Roster) : Prop where
  /-- At most one motion is registered under each handle. -/
  distinct : (roster.animator.entries.map Prod.fst).Nodup
  /-- No handle of a motion has a greater number than the one that was given out last. -/
  bounded : ∀ entry ∈ roster.animator.entries,
    ∃ last ∈ roster.handed.getLast?, entry.1.number ≤ last.number
  /-- The motions lie in the order in which they were registered last. -/
  ordered : (roster.animator.entries.map Prod.fst).Pairwise (Roster.Precedes roster.registered)
  /-- Under the handle of a motion this one is found and taken out, and no other. -/
  single : ∀ first entry rest, roster.animator.entries = first ++ entry :: rest →
    roster.animator.find? entry.1 = some entry.2 ∧
      (roster.animator.deregister entry.1).2.entries = first ++ rest

theorem Roster.Sound.orderly {roster : Roster} (sound : roster.Sound) : roster.Orderly where
  distinct := sound.distinct
  bounded entry member := sound.exists_last_handed (sound.given entry member)
  ordered := sound.ordered
  single first entry rest split := by
    have distinct := split ▸ sound.distinct
    constructor
    · refine List.lookup_eq_some_iff.mpr ⟨first, rest, split, fun other member => bne_iff_ne.mpr ?_⟩
      exact (ne_of_distinct distinct other (List.mem_append_left _ member)).symm
    · unfold Animator.deregister
      rw [split]
      exact filter_ne_of_distinct distinct

namespace Animator

/-- **Every motion takes one step in a frame.** Whatever was asked of an animator before, if motions were
registered later only under handles that were given out: it is an ordered registry, and a frame steps the
motion in each place once, on the stage that the one before leaves, hands out those that are finished and
keeps the others. To walk along the places and to take out what is finished where it lies comes to the
same. -/
theorem sweeps_in_order (requests : List Request) (admitted : Roster.fresh.AdmitsAll requests)
    (stage : Stage) (delta : Single) :
    let roster := Roster.fresh.run requests
    let entries := roster.animator.entries
    let (finished, after, left) := roster.animator.tick stage delta
    roster.Orderly ∧ Frame.Sweeps delta entries stage ⟨left, after.entries, finished⟩ ∧
      sweep delta 0 entries stage [] = ⟨left, after.entries, finished⟩ :=
  ⟨(Roster.sound_fresh.run admitted).orderly, sweeps_steps _ _, sweep_append [] _ _ _⟩

/-- A top, and something that is gone. -/
def toyStage : Stage where
  issued := 2
  sprites := [(⟨1⟩, .ofTexture "top.png" ⟨20, 50⟩)]
  order := [⟨1⟩]
  viewport := ⟨200, 200⟩

/-- The second handle is used late, and the first one again after its motion was taken out. -/
def toys : List Request :=
  [.register (.spin ⟨1⟩ 2), .reserve, .register (.drift ⟨2⟩ 1), .register (.fade ⟨1⟩ 5),
    .registerReserved ⟨2⟩ (.gravity ⟨1⟩ 1 0), .deregister ⟨1⟩, .registerReserved ⟨1⟩ (.spin ⟨1⟩ 3)]

/-- Two neighbours are finished in one frame, and both motions behind them are stepped. -/
theorem sweeps_toys : Roster.fresh.AdmitsAll toys ∧
    let roster := Roster.fresh.run toys
    let entries := roster.animator.entries
    let (finished, after, left) := roster.animator.tick toyStage 1
    (roster.Orderly ∧ Frame.Sweeps 1 entries toyStage ⟨left, after.entries, finished⟩ ∧
      sweep 1 0 entries toyStage [] = ⟨left, after.entries, finished⟩) ∧
    roster.registered = [⟨1⟩, ⟨3⟩, ⟨4⟩, ⟨2⟩, ⟨1⟩] ∧
      finished = [(⟨3⟩, .drift ⟨2⟩ 1), (⟨4⟩, .fade ⟨1⟩ 5)] ∧
        after.entries = [(⟨2⟩, .gravity ⟨1⟩ 1 1), (⟨1⟩, .spin ⟨1⟩ 3)] := by
  have admitted : Roster.fresh.AdmitsAll toys := by decide
  exact ⟨admitted, sweeps_in_order toys admitted toyStage 1, by decide, by decide +kernel,
    by decide +kernel⟩

/-- A motion under a handle that is still to be given out would get in the way of a later one. -/
example :
    let early : List Request := [.registerReserved ⟨1⟩ (.spin ⟨1⟩ 2), .register (.spin ⟨1⟩ 3)]
    ¬ Roster.fresh.AdmitsAll early ∧
      (Roster.fresh.run early).animator.entries.map Prod.fst = [⟨1⟩, ⟨1⟩] := by
  decide

end Animator

end Storybook
