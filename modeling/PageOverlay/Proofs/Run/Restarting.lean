import PageOverlay.Proofs.Command.PageEffects
import PageOverlay.Proofs.Run.Accounting

/-!
# Runs that follow on each other

A runner that was started and stopped before starts again like a new one on the page as it is: its
clock shows another time and its rules get other numbers, and that is all. One thing does not come
back with a start, though. Once a run has given up recording, no later run of that runner takes
anything back.
-/

set_option autoImplicit false

namespace PageOverlay.Runner

/-- No run goes on: after the last stop, or from the beginning, at most the page was edited. -/
def Ended (moves : List Move) : Prop :=
  ∃ (before : List Move) (edits : List (Page → Page)), moves = before ++ edits.map .edit ∧
    (before = [] ∨ before.getLast? = some .stop)

def samePages (records : Bool) : Likeness where
  world := samePage
  seen := Undo.anonymous
  records := records
  page_eq h := h
  edit _ _ := rfl

theorem samePages_lawful (records : Bool) : (samePages records).Lawful where
  commands c commands g t := c.matches_applyCommands commands g t
  labels t := .of_keepsBooks (Labels.keepsBooks_normalize t) _

variable {L : Likeness} {r₀ s₀ r s : Runner}

theorem samePage_revertAll {us vs : List Undo} (hu : us.map Undo.anonymous = vs.map Undo.anonymous)
    {w v : World} (hw : samePage w v) : samePage (revertAll us w) (revertAll vs v) := by
  induction us generalizing vs w v with
  | nil =>
    obtain rfl := List.map_eq_nil_iff.mp hu.symm
    exact hw
  | cons u us ih =>
    cases vs with
    | nil => cases hu
    | cons u' vs =>
      obtain ⟨hfirst, hrest⟩ := List.cons.inj hu
      exact ih hrest (matches_revert hfirst _ _ hw).worlds

theorem page_stop (r : Runner) :
    r.stop.world.page =
      (if r.tracking then revertAll r.undo.toList.reverse r.world else r.world).page := by
  rw [stop]

theorem Alike.page_stop (h : Alike (samePages true) r₀ s₀ r s) :
    r.stop.world.page = s.stop.world.page := by
  obtain ⟨htracking, -, hundo⟩ := h.records rfl
  rw [Runner.page_stop, Runner.page_stop, htracking]
  split
  · refine samePage_revertAll ?_ h.world
    rw [List.map_reverse, List.map_reverse]
    exact congrArg List.reverse hundo
  · exact h.world

theorem moveRule_off : MoveRule fun r r' =>
    r.tracking = false → r'.tracking = false ∧ r'.undo = r.undo where
  refl _ h := ⟨h, rfl⟩
  trans hx hy h := by
    obtain ⟨h', hundo⟩ := hx h
    obtain ⟨h'', hundo'⟩ := hy h'
    exact ⟨h'', hundo'.trans hundo⟩
  world _ _ h := ⟨h, rfl⟩
  addUndo us r h := by
    by_cases hus : us = []
    · rw [hus, addUndo_nil]
      exact ⟨h, rfl⟩
    · rw [addUndo_of_ne hus]
      simp [notify, h]
  report _ _ h := ⟨h, rfl⟩
  failed _ _ _ h := ⟨h, rfl⟩
  schedule _ h := ⟨h, rfl⟩

section

variable {page : Page} {configurations : List (String × Configuration)} {options : RunOptions}
  {labels : Bool} {earlier : List Move}

theorem play_edits (r : Runner) (edits : List (Page → Page)) :
    (r.play (edits.map .edit)).jobs = r.jobs ∧ (r.play (edits.map .edit)).undo = r.undo := by
  induction edits generalizing r with
  | nil => exact ⟨rfl, rfl⟩
  | cons f edits ih => exact ih _

theorem Ended.at_rest (h : Ended earlier) :
    ((create page configurations options labels).play earlier).jobs = [] ∧
      ((create page configurations options labels).play earlier).undo = #[] := by
  obtain ⟨before, edits, rfl, hbefore⟩ := h
  have hjobs : ((create page configurations options labels).play before).jobs = [] := by
    rcases hbefore with rfl | hlast
    · rfl
    · obtain ⟨first, rfl⟩ := List.getLast?_eq_some_iff.mp hlast
      rw [play_append]
      rfl
  obtain ⟨hkept, hundo⟩ :=
    play_edits ((create page configurations options labels).play before) edits
  rw [play_append]
  exact ⟨hkept.trans hjobs, hundo.trans (undo_of_begun hbefore)⟩

theorem abreast_fresh (h : Ended earlier) {records : Bool}
    (hrec : records → ((create page configurations options labels).play earlier).tracking =
      options.withUndo) :
    let r := (create page configurations options labels).play earlier
    let fresh := create r.world.page configurations options labels
    Abreast (samePages records) r fresh r fresh := by
  intro r fresh
  have hstays := stays_play (create page configurations options labels) earlier
  obtain ⟨ids, hin⟩ : ∃ ids, InStep r ids := inStep_play page configurations options labels earlier
  obtain ⟨hjobs, hundo⟩ : r.jobs = [] ∧ r.undo = #[] := h.at_rest
  refine ⟨⟨⟨hstays.labels.symm, hstays.period.symm, hstays.repository.symm, hstays.roster.symm⟩,
    rfl, fun hb => ⟨hrec hb, hstays.limit.symm, ?_⟩, [], [], ?_, ?_, rfl⟩,
    r.clock.now, r.clock.nextId, ?_, ?_⟩
  · rw [hundo]
    rfl
  · rw [List.append_nil]
  · rw [List.append_nil]
  · have htimers := hin.no_timers hjobs
    have hclock : r.clock = ⟨r.clock.now, r.clock.nextId, []⟩ := by rw [← htimers]
    rw [hclock]
    change _ = Clock.shift _ _ {}
    simp [Clock.shift]
  · rw [hjobs]
    rfl

/-- Recording that was given up is not taken up again, not by a stop either. -/
theorem tracking_play (moves : List Move) {r : Runner} (h : r.tracking = false) :
    (r.play moves).tracking = false := by
  induction moves generalizing r with
  | nil => exact h
  | cons move moves ih =>
    refine ih ?_
    by_cases hm : move = .stop
    · rw [hm]
      exact h
    · exact (moveRule_off.make hm r h).1

theorem Abreast.start_fst (h : Abreast L r₀ s₀ r s) (hr : r.jobs = []) (hs : s.jobs = []) :
    r.start.1 = s.start.1 := by
  rw [start_of_rest hr, start_of_rest hs, h.toAlike.duePlaces_eq]

/-- A runner at rest and a new one on the same page start the same configurations, tell of the same
changes and come to the same page, before they stop. If the old one never gave up recording, they
note the same lengths of their records as well, and come to the same page after the stop. If it
did, it takes nothing back. -/
theorem run_fresh (page : Page) (configurations : List (String × Configuration))
    (options : RunOptions) (labels : Bool) (earlier : List Move)
    (hended : Ended earlier) (moves : List Move) (hmoves : .stop ∉ moves) :
    let r := (create page configurations options labels).play earlier
    let fresh := create r.world.page configurations options labels
    let old := r.play (.start :: moves)
    let new := fresh.play (.start :: moves)
    (r.tracking = options.withUndo ∨ options.withUndo ∧ r.tracking = false) ∧
    r.start.1 = fresh.start.1 ∧ old.world.page = new.world.page ∧
    ∃ told told', old.stop.events.toList = r.events.toList ++ told ∧
      new.stop.events.toList = told' ∧
      told.map (samePages false).shown = told'.map (samePages false).shown ∧
      (r.tracking = options.withUndo →
        told.map (samePages true).shown = told'.map (samePages true).shown ∧
          old.stop.world.page = new.stop.world.page) ∧
      (r.tracking = false → old.undo = #[] ∧ old.stop.world.page = old.world.page) := by
  intro r fresh old new
  have hrun : .stop ∉ Move.start :: moves := by simpa using hmoves
  have hloose : Abreast (samePages false) r fresh r fresh :=
    abreast_fresh hended fun h => (Bool.false_ne_true h).elim
  have hend := hloose.play (samePages_lawful false) hrun
  obtain ⟨told, told', hold, hnew, htold⟩ := hend.events
  refine ⟨?_, hloose.start_fst hended.at_rest.1 rfl, hend.world, told, told', hold, hnew,
    htold, fun htracking => ?_, fun hoff => ?_⟩
  · cases hw : options.withUndo with
    | false => exact .inl (tracking_play earlier hw)
    | true =>
      cases ht : r.tracking with
      | false => exact .inr ⟨rfl, rfl⟩
      | true => exact .inl rfl
  · have hstrict : Abreast (samePages true) r fresh r fresh :=
      abreast_fresh hended fun _ => htracking
    have hend' := hstrict.play (samePages_lawful true) hrun
    obtain ⟨more, more', hold', hnew', hmore⟩ := hend'.events
    obtain rfl := List.append_cancel_left (hold.symm.trans hold')
    obtain rfl := List.append_cancel_left (hnew.symm.trans hnew')
    exact ⟨hmore, hend'.toAlike.page_stop⟩
  · obtain ⟨hoff', hundo⟩ := moveRule_off.play hrun r hoff
    refine ⟨hundo.trans hended.at_rest.2, ?_⟩
    rw [page_stop, if_neg (by simpa using hoff')]

end

def oneTick : List Move := [.start, .advance (milliseconds 100), .stop]

def blocking : Configuration := .ofText "@include = /.*/\n!blockUrl(x)"

theorem run_fresh_blocking :
    let r := (create (.blank "x") [("A", blocking)] {} false).play oneTick
    let fresh := create r.world.page [("A", blocking)] {} false
    let moves : List Move := [.advance (milliseconds 100)]
    let old := r.play (.start :: moves)
    let new := fresh.play (.start :: moves)
    Ended oneTick ∧ .stop ∉ moves ∧
      old.stop.events.toList.map Event.batch? =
        [some [.requestRule 1], none, some [.requestRule 2], none] ∧
      ∃ told told', old.stop.events.toList = r.events.toList ++ told ∧
        new.stop.events.toList = told' ∧
          told.map (samePages true).shown = told'.map (samePages true).shown ∧
            old.stop.world.page = new.stop.world.page := by
  intro r fresh moves old new
  have hended : Ended oneTick := ⟨oneTick, [], rfl, .inr rfl⟩
  have hmoves : .stop ∉ moves := by simp [moves]
  obtain ⟨-, -, -, told, told', hold, hnew, -, hkept, -⟩ :=
    run_fresh (.blank "x") [("A", blocking)] {} false oneTick hended moves hmoves
  obtain ⟨htracking, hbatches⟩ : r.tracking = true ∧ old.stop.events.toList.map Event.batch? =
      [some [.requestRule 1], none, some [.requestRule 2], none] := by decide +kernel
  obtain ⟨hshown, hpage⟩ := hkept htracking
  exact ⟨hended, hmoves, hbatches, told, told', hold, hnew, hshown, hpage⟩

def rewriting : List Act := [.write 3 Page.dataPath "a", .advance (milliseconds 100)]

/-- A run that follows on one which gave up recording leaves its changes behind. A new runner takes
them back. -/
theorem run_after_overflow :
    ¬ ∀ (page : Page) (configurations : List (String × Configuration)) (options : RunOptions)
      (labels : Bool) (earlier : List Move) (acts : List Act),
      Ended earlier →
        let r := (create page configurations options labels).play earlier
        let fresh := create r.world.page configurations options labels
        (r.start.2.runActs acts).stop.world.page =
          (fresh.start.2.runActs acts).stop.world.page := by
  intro h
  have hpage := h twoTexts [("A", replacingOnce)] { undoLimit := 0 } false oneTick rewriting
    ⟨oneTick, [], rfl, .inr rfl⟩
  revert hpage
  decide +kernel

end PageOverlay.Runner
