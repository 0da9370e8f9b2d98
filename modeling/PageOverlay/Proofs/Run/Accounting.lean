import PageOverlay.Page.Snapshot
import PageOverlay.Proofs.Run.Parallel

/-!
# What a run keeps

Changes are told of in batches. A runner keeps them one by one, and gives up with the first batch
that comes when the record is over its limit already. What is lost is told of all the same, and
whether anything is kept matters to nothing else that the run does.
-/

set_option autoImplicit false

namespace PageOverlay

/-- The changes that an event tells of. -/
def Event.batch? : Event → Option (List Undo)
  | .changed us => some us
  | _ => none

def batches (told : List Event) : List (List Undo) := told.filterMap Event.batch?

/-- How a limit cuts a row of batches in two. A batch is kept if those before it are kept and do not
exceed the limit together. -/
structure Cut (limit : Nat) (all kept lost : List (List Undo)) : Prop where
  all_eq : all = kept ++ lost
  within : ∀ before b after, kept = before ++ b :: after → before.flatten.length ≤ limit
  beyond : lost ≠ [] → limit < kept.flatten.length

section

variable {α : Type} {limit : Nat} {all more kept kept' lost lost' : List (List Undo)}

theorem split_concat {xs before after : List α} {x y : α} (h : xs ++ [x] = before ++ y :: after) :
    (xs = before ∧ x = y) ∨ ∃ rest, xs = before ++ y :: rest := by
  rcases List.eq_nil_or_concat after with rfl | ⟨rest, last, rfl⟩
  · obtain ⟨hxs, hx⟩ := List.append_inj' h rfl
    exact .inl ⟨hxs, List.head_eq_of_cons_eq hx⟩
  · have hrow : xs ++ [x] = (before ++ y :: rest) ++ [last] := by simpa using h
    exact .inr ⟨rest, (List.append_inj' hrow rfl).1⟩

namespace Cut

theorem nil (limit : Nat) : Cut limit [] [] [] := ⟨rfl, by simp, by simp⟩

theorem keep (h : Cut limit all kept []) (hle : kept.flatten.length ≤ limit) (b : List Undo) :
    Cut limit (all ++ [b]) (kept ++ [b]) [] where
  all_eq := by simp [h.all_eq]
  within before c after hkept := by
    rcases split_concat hkept with ⟨rfl, -⟩ | ⟨rest, hrest⟩
    · exact hle
    · exact h.within before c rest hrest
  beyond hne := absurd rfl hne

theorem lose (h : Cut limit all kept lost) (hlt : limit < kept.flatten.length) (b : List Undo) :
    Cut limit (all ++ [b]) kept (lost ++ [b]) where
  all_eq := by simp [h.all_eq]
  within := h.within
  beyond _ := hlt

theorem grows (h : Cut limit all kept lost) (h' : Cut limit (all ++ more) kept' lost') :
    kept <+: kept' ∧ (lost ≠ [] → kept' = kept ∧ lost' ≠ []) := by
  have hrow : kept ++ (lost ++ more) = kept' ++ lost' := by
    rw [← List.append_assoc, ← h.all_eq, h'.all_eq]
  rcases List.append_eq_append_iff.mp hrow with ⟨extra, hkept', hlost⟩ | ⟨extra, hkept, hlost'⟩
  · refine ⟨⟨extra, hkept'.symm⟩, fun hne => ?_⟩
    cases extra with
    | nil =>
      rw [List.nil_append] at hlost
      exact ⟨by simpa using hkept', by simp [← hlost, hne]⟩
    | cons b after =>
      have := h'.within kept b after hkept'
      have := h.beyond hne
      omega
  · cases extra with
    | nil =>
      rw [List.nil_append] at hlost'
      refine ⟨by simp [hkept], fun hne => ⟨by simp [hkept], by simp [hlost', hne]⟩⟩
    | cons b after =>
      -- the second cut would lose a batch that is still within the limit
      have := h.within kept' b after hkept
      have := h'.beyond (by simp [hlost'])
      omega

theorem length_le (h : Cut limit all kept lost) :
    kept.flatten.length ≤ limit ∨ ∃ b ∈ all, kept.flatten.length ≤ limit + b.length := by
  rcases List.eq_nil_or_concat kept with rfl | ⟨before, b, rfl⟩
  · exact .inl (Nat.zero_le _)
  · have hbefore := h.within before b [] (by simp)
    refine .inr ⟨b, by simp [h.all_eq], ?_⟩
    simp only [List.concat_eq_append, List.flatten_append, List.flatten_singleton,
      List.length_append]
    omega

end Cut

end

namespace Runner

/-- The books of a runner that has told of something since it was `r₀`: what it kept, whether it
still does, and what it noted at the end of each tick. -/
structure Account (r₀ : Runner) (told : List Event) (r : Runner) : Prop where
  events : r.events.toList = r₀.events.toList ++ told
  limit : r.undoLimit = r₀.undoLimit
  record : ∃ kept lost, Cut r₀.undoLimit (batches told) kept lost ∧
    r.undo.toList = kept.flatten ∧ (r.tracking ↔ lost = [])
  noted : ∀ before stats after, told = before ++ .applied stats :: after →
    ∃ kept lost, Cut r₀.undoLimit (batches before) kept lost ∧
      stats.undoLength = kept.flatten.length

variable {r₀ r : Runner} {told : List Event}

theorem Account.refl (ht : r.tracking) (hu : r.undo = #[]) : Account r [] r where
  events := (List.append_nil _).symm
  limit := rfl
  record := ⟨[], [], .nil _, by simp [hu], by simp [ht]⟩
  noted before stats after h := by simp at h

/-- What is kept stays kept, and nothing is added any more once something was lost. -/
theorem Account.later {r' : Runner} {more : List Event} (h : Account r₀ told r)
    (h' : Account r₀ (told ++ more) r') :
    r.undo.toList <+: r'.undo.toList ∧
      (r.tracking = false → r'.undo = r.undo ∧ r'.tracking = false) := by
  obtain ⟨kept, lost, hcut, hundo, htracking⟩ := h.record
  obtain ⟨kept', lost', hcut', hundo', htracking'⟩ := h'.record
  have hbatches : batches (told ++ more) = batches told ++ batches more := List.filterMap_append
  rw [hbatches] at hcut'
  obtain ⟨⟨extra, hextra⟩, hfrozen⟩ := hcut.grows hcut'
  constructor
  · exact ⟨extra.flatten, by rw [hundo, hundo', ← hextra, List.flatten_append]⟩
  · intro hoff
    obtain ⟨hkept, hlost⟩ := hfrozen fun hlost => by simp [htracking.mpr hlost] at hoff
    constructor
    · rw [← Array.toList_inj, hundo, hundo', hkept]
    · exact Bool.eq_false_iff.mpr fun hon => hlost (htracking'.mp hon)

theorem Account.notify (h : Account r₀ told r) {e : Event} (hb : e.batch? = none)
    (hn : ∀ stats, e = .applied stats → stats.undoLength = r.undo.size) :
    Account r₀ (told ++ [e]) (r.notify e) where
  events := by simp [Runner.notify, h.events]
  limit := h.limit
  record := by
    have hsame : batches (told ++ [e]) = batches told := by simp [batches, hb]
    rw [hsame]
    exact h.record
  noted before stats after hsplit := by
    rcases split_concat hsplit with ⟨rfl, rfl⟩ | ⟨rest, hrest⟩
    · obtain ⟨kept, lost, hcut, hundo, -⟩ := h.record
      exact ⟨kept, lost, hcut, by rw [hn stats rfl, ← hundo, Array.length_toList]⟩
    · exact h.noted before stats rest hrest

theorem Account.addUndo (h : Account r₀ told r) (us : List Undo) :
    ∃ more, Account r₀ (told ++ more) (Runner.addUndo us r) := by
  by_cases hus : us = []
  · rw [hus, addUndo_nil]
    exact ⟨[], by rwa [List.append_nil]⟩
  · obtain ⟨kept, lost, hcut, hundo, htracking⟩ := h.record
    have hsize : r.undo.size = kept.flatten.length := by rw [← hundo, Array.length_toList]
    have hbatches : batches (told ++ [.changed us]) = batches told ++ [us] := by
      simp [batches, Event.batch?]
    rw [addUndo_of_ne hus]
    refine ⟨[.changed us], by simp [Runner.notify, h.events], h.limit, ?_, ?_⟩
    · rw [hbatches]
      by_cases hkeep : r.tracking && decide (r.undo.size ≤ r.undoLimit)
      · obtain ⟨ht, hle⟩ : r.tracking = true ∧ r.undo.size ≤ r.undoLimit := by
          simpa using hkeep
        obtain rfl := htracking.mp ht
        rw [hsize, h.limit] at hle
        refine ⟨kept ++ [us], [], hcut.keep hle us, ?_, by simp [Runner.notify, hkeep]⟩
        simp [Runner.notify, hkeep, hundo]
      · have hlt : r₀.undoLimit < kept.flatten.length := by
          by_cases ht : r.tracking
          · simp only [ht, Bool.true_and, decide_eq_true_eq, hsize, h.limit] at hkeep
            omega
          · exact hcut.beyond fun hlost => ht (htracking.mpr hlost)
        refine ⟨kept, lost ++ [us], hcut.lose hlt us, ?_, by simp [Runner.notify, hkeep]⟩
        simp [Runner.notify, hkeep, hundo]
    · intro before stats after hsplit
      rcases split_concat hsplit with ⟨-, he⟩ | ⟨rest, hrest⟩
      · cases he
      · exact h.noted before stats rest hrest

theorem moveRule_account (r₀ : Runner) :
    MoveRule fun r r' => ∀ told, Account r₀ told r → ∃ more, Account r₀ (told ++ more) r' where
  refl r told h := ⟨[], by rwa [List.append_nil]⟩
  trans hx hy told h := by
    obtain ⟨more, h'⟩ := hx told h
    obtain ⟨last, h''⟩ := hy _ h'
    exact ⟨more ++ last, by rwa [← List.append_assoc]⟩
  world w r told h := ⟨[], by rw [List.append_nil]; exact ⟨h.events, h.limit, h.record, h.noted⟩⟩
  addUndo us r told h := h.addUndo us
  report counts r told h := by
    refine ⟨_, h.notify rfl fun stats hstats => ?_⟩
    cases hstats
    rfl
  failed name message r told h := ⟨_, h.notify rfl fun stats hstats => by cases hstats⟩
  schedule _ told h := ⟨[], by rw [List.append_nil]; exact ⟨h.events, h.limit, h.record, h.noted⟩⟩

theorem undo_of_begun {page : Page} {configurations : List (String × Configuration)}
    {options : RunOptions} {labels : Bool} {earlier : List Move}
    (h : earlier = [] ∨ earlier.getLast? = some .stop) :
    ((create page configurations options labels).play earlier).undo = #[] := by
  rcases h with rfl | h
  · rfl
  · obtain ⟨before, rfl⟩ := List.getLast?_eq_some_iff.mp h
    rw [play_append]
    rfl

def sameWorld : Likeness where
  world := Eq
  seen := id
  records := false
  page_eq h := by rw [h]
  edit h page := by rw [h]

theorem sameWorld_lawful : sameWorld.Lawful := by
  have hsame : ∀ x, sameWorld.Respects x := by
    rintro x w _ rfl
    rcases x.run w with ⟨e | us, v⟩
    · exact .error e rfl
    · exact .ok rfl rfl
  exact ⟨fun _ _ _ _ => hsame _, fun _ => hsame _⟩

theorem batches_shown (L : Likeness) (told : List Event) :
    batches (told.map L.shown) = (batches told).map (List.map L.seen) := by
  induction told with
  | nil => rfl
  | cons e told ih =>
    cases e with
    | changed us => simpa [batches, Likeness.shown, Event.batch?] using ih
    | applied stats => exact ih
    | failed name message => exact ih

theorem play_keeping (r : Runner) (tracking : Bool) (undoLimit : Nat) (undo : Array Undo)
    {moves : List Move} (hm : .stop ∉ moves) :
    let s := { r with tracking, undoLimit, undo }
    (s.play moves).world = (r.play moves).world ∧
      ∃ told told', (r.play moves).events.toList = r.events.toList ++ told ∧
        (s.play moves).events.toList = r.events.toList ++ told' ∧ batches told' = batches told := by
  intro s
  have hstart : Abreast sameWorld r s r s := by
    refine ⟨⟨⟨rfl, rfl, rfl, rfl⟩, rfl, fun h => (Bool.false_ne_true h).elim, [], [], ?_, ?_, rfl⟩,
      0, 0, ?_, ?_⟩
    · simp
    · simp
    · rw [Clock.shift_zero]
    · simp [s]
  have hend := hstart.play sameWorld_lawful hm
  obtain ⟨told, told', hr, hs, htold⟩ := hend.events
  refine ⟨hend.world.symm, told, told', hr, hs, ?_⟩
  have hbatches := congrArg batches htold
  rw [batches_shown, batches_shown] at hbatches
  simpa [sameWorld] using hbatches.symm

/-- A run that begins with an empty record keeps its account. As long as recording goes on the
record holds all that was told. Recording ends with the first batch for which the record is over
its limit, and from then on the record stays as it is; so it never shrinks, and exceeds the limit
by less than one batch. What is told does not depend on what is kept. -/
theorem account_play (page : Page) (configurations : List (String × Configuration))
    (options : RunOptions) (labels : Bool) (earlier moves : List Move)
    (hbegun : earlier = [] ∨ earlier.getLast? = some .stop)
    (hon : ((create page configurations options labels).play earlier).tracking)
    (hmoves : .stop ∉ moves) :
    let r := (create page configurations options labels).play earlier
    let r' := r.play moves
    ∃ told, Account r told r' ∧ r.undoLimit = options.undoLimit ∧
      (r'.tracking → r'.undo.toList = (batches told).flatten) ∧
      (∀ before after, moves = before ++ after →
        (r.play before).undo.toList <+: r'.undo.toList ∧
          ((r.play before).tracking = false →
            r'.undo = (r.play before).undo ∧ r'.tracking = false)) ∧
      (r'.undo.size ≤ options.undoLimit ∨
        ∃ b ∈ batches told, r'.undo.size ≤ options.undoLimit + b.length) ∧
      ∀ (tracking : Bool) (undoLimit : Nat) (undo : Array Undo),
        let s := { r with tracking, undoLimit, undo }
        (s.play moves).world = r'.world ∧
          ∃ told', (s.play moves).events.toList = r.events.toList ++ told' ∧
            batches told' = batches told := by
  intro r r'
  have hlimit : r.undoLimit = options.undoLimit :=
    (stays_play (create page configurations options labels) earlier).limit.symm
  have hopen : Account r [] r := .refl hon (undo_of_begun hbegun)
  obtain ⟨told, h⟩ : ∃ told, Account r told r' := by
    simpa using (moveRule_account r).play hmoves r [] hopen
  obtain ⟨kept, lost, hcut, hundo, htracking⟩ := h.record
  refine ⟨told, h, hlimit, fun ht => ?_, fun before after hsplit => ?_, ?_, fun b limit undo => ?_⟩
  · rw [hundo, hcut.all_eq, htracking.mp ht, List.append_nil]
  · rw [hsplit, List.mem_append, not_or] at hmoves
    obtain ⟨first, hfirst⟩ : ∃ first, Account r first (r.play before) := by
      simpa using (moveRule_account r).play hmoves.1 r [] hopen
    obtain ⟨more, hlast⟩ := (moveRule_account r).play hmoves.2 (r.play before) first hfirst
    rw [← play_append, ← hsplit] at hlast
    exact hfirst.later hlast
  · rw [← hlimit, ← Array.length_toList, hundo]
    exact hcut.length_le
  · obtain ⟨hworld, first, told', hr, hs, hbatches⟩ := play_keeping r b limit undo hmoves
    have hsame : first = told := List.append_cancel_left (hr.symm.trans h.events)
    exact ⟨hworld, told', hs, by rw [hbatches, hsame]⟩

def twoTexts : Page :=
  .ofSnapshot {
    location := "x"
    root := .node (some "html") none [] [
      .node (some "body") none [] [
        .node (some "div") none [] [.node none (some "a") [] []],
        .node (some "div") none [] [.node none (some "a") [] []]]] }

def replacingOnce : Configuration := .ofText "@include = /.*/\na = b"

def replacingAgain : Configuration := .ofText "b = c"

def replacingTwice : List Move :=
  [.start, .advance (milliseconds 100), .apply replacingAgain (replacingAgain.commands [])]

theorem account_play_overflow :
    let r := create twoTexts [("A", replacingOnce)] { undoLimit := 0 } false
    let r' := r.play replacingTwice
    r.tracking ∧ .stop ∉ replacingTwice ∧
      ∃ told, Account r told r' ∧ (batches told).length = 4 ∧ r'.undo.size = 1 ∧
        r'.tracking = false := by
  intro r r'
  have hmoves : .stop ∉ replacingTwice := by simp [replacingTwice]
  obtain ⟨told, h, -⟩ :=
    account_play twoTexts [("A", replacingOnce)] { undoLimit := 0 } false [] replacingTwice
      (.inl rfl) rfl hmoves
  obtain ⟨hcount, hsize, htracking⟩ : (batches r'.events.toList).length = 4 ∧
      r'.undo.size = 1 ∧ r'.tracking = false := by decide +kernel
  have htold : r'.events.toList = told := h.events
  rw [htold] at hcount
  exact ⟨rfl, hmoves, told, h, hcount, hsize, htracking⟩

end Runner
end PageOverlay
