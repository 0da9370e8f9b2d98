import Mathlib.Data.List.Nodup
import PageOverlay.Run.Clock

/-!
# Draining a clock

Jobs are taken out of a clock while any is due. Each one that is taken out lowers the number of
those that fall due, so this ends. Which job comes next does not hang on the time up to which jobs
are taken out, so a clock may be drained in one go or bit by bit.
-/

set_option autoImplicit false

namespace PageOverlay

namespace Timer

variable {α : Type} {t u : Timer α}

theorem isBefore_iff : t.isBefore u ↔ t.due < u.due ∨ t.due = u.due ∧ t.id < u.id := by
  simp [isBefore]

theorem not_isBefore_iff : ¬ t.isBefore u ↔ u.due < t.due ∨ u.due = t.due ∧ u.id ≤ t.id := by
  rw [isBefore_iff]
  omega

theorem not_isBefore_self (t : Timer α) : ¬ t.isBefore t := by
  rw [not_isBefore_iff]
  omega

theorem id_next? (h : t.next? = some u) : u.id = t.id := by
  obtain ⟨e, -, rfl⟩ := Option.map_eq_some_iff.mp h
  rfl

theorem job_next? (h : t.next? = some u) : u.job = t.job := by
  obtain ⟨e, -, rfl⟩ := Option.map_eq_some_iff.mp h
  rfl

theorem every_next? (h : t.next? = some u) : u.every = t.every := by
  obtain ⟨e, -, rfl⟩ := Option.map_eq_some_iff.mp h
  rfl

theorem timesUpTo_of_le {limit : Nat} (h : t.due ≤ limit) (hp : ∀ e ∈ t.every, 0 < e) :
    t.timesUpTo limit = ((t.next?.map (·.timesUpTo limit)).getD 0) + 1 := by
  rw [timesUpTo, if_pos h, next?]
  cases he : t.every with
  | none => rfl
  | some e =>
    have hpos : 0 < e := hp e he
    simp only [Option.map_some, Option.getD_some, timesUpTo]
    split
    · next hle =>
      have hsub : limit - (t.due + e) = limit - t.due - e := by omega
      rw [hsub, Nat.div_eq_sub_div hpos (by omega)]
    · next hlt => rw [Nat.div_eq_of_lt (by omega)]

end Timer

namespace Clock

variable {α : Type} {c d : Clock α} {t u : Timer α} {limit later : Nat}

/-- No two timers of a clock share a number, and no timer repeats without a pause. -/
structure Sound (c : Clock α) : Prop where
  ids : (c.timers.map (·.id)).Nodup
  known : ∀ t ∈ c.timers, t.id < c.nextId
  periods : ∀ t ∈ c.timers, ∀ e ∈ t.every, 0 < e

theorem Sound.add (h : c.Sound) {delay : Nat} {every : Option Nat} (he : ∀ e ∈ every, 0 < e)
    (job : α) : (c.add delay every job).2.Sound where
  ids := by
    have hfresh : ∀ t ∈ c.timers, t.id ≠ c.nextId := fun t ht => Nat.ne_of_lt (h.known t ht)
    simpa [Clock.add, List.nodup_append, h.ids] using hfresh
  known t ht := by
    rcases List.mem_append.mp ht with ht | ht
    · exact Nat.lt_succ_of_lt (h.known t ht)
    · rw [List.mem_singleton.mp ht]
      exact Nat.lt_succ_self _
  periods t ht := by
    rcases List.mem_append.mp ht with ht | ht
    · exact h.periods t ht
    · rw [List.mem_singleton.mp ht]
      exact he

theorem Sound.cancel (h : c.Sound) (id : Nat) : (c.cancel id).Sound where
  ids := h.ids.sublist (List.filter_sublist.map _)
  known t ht := h.known t (List.mem_filter.mp ht).1
  periods t ht := h.periods t (List.mem_filter.mp ht).1

theorem Sound.advanceTo (h : c.Sound) (limit : Nat) : (c.advanceTo limit).Sound :=
  ⟨h.ids, h.known, h.periods⟩

theorem earliest?_eq_none {ts : List (Timer α)} : earliest? ts = none ↔ ts = [] := by
  cases ts with
  | nil => simp [earliest?]
  | cons t ts =>
    rw [earliest?]
    split
    · simp
    · split <;> simp

theorem earliest?_spec {ts : List (Timer α)} (h : earliest? ts = some t) :
    t ∈ ts ∧ ∀ u ∈ ts, ¬ u.isBefore t := by
  induction ts generalizing t with
  | nil => cases h
  | cons v vs ih =>
    rw [earliest?] at h
    cases hvs : earliest? vs with
    | none =>
      rw [hvs] at h
      cases h
      rw [earliest?_eq_none.mp hvs]
      simpa using v.not_isBefore_self
    | some w =>
      obtain ⟨hw, hmin⟩ := ih hvs
      simp only [hvs] at h
      split at h
      · next hbefore =>
        cases h
        refine ⟨List.mem_cons_of_mem v hw, fun u hu => ?_⟩
        rcases List.mem_cons.mp hu with rfl | hu
        · rw [Timer.isBefore_iff] at hbefore
          rw [Timer.not_isBefore_iff]
          omega
        · exact hmin u hu
      · next hbefore =>
        cases h
        refine ⟨List.mem_cons_self, fun u hu => ?_⟩
        rcases List.mem_cons.mp hu with rfl | hu
        · exact u.not_isBefore_self
        · have := hmin u hu
          rw [Timer.not_isBefore_iff] at this hbefore ⊢
          omega

def after (c : Clock α) (t : Timer α) : Clock α :=
  { c with
    now := max c.now t.due
    timers := c.timers.filterMap fun u => if u.id = t.id then u.next? else some u }

theorem filterMap_others {ts : List (Timer α)} (h : ∀ u ∈ ts, u.id ≠ t.id) :
    (ts.filterMap fun u => if u.id = t.id then u.next? else some u) = ts := by
  have hsame : ∀ u ∈ ts, (if u.id = t.id then u.next? else some u) = some u :=
    fun u hu => if_neg (h u hu)
  rw [List.filterMap_congr hsame, List.filterMap_some]

theorem pop?_eq_none : c.pop? limit = none ↔ ∀ t ∈ c.timers, limit < t.due := by
  rw [pop?, Option.map_eq_none_iff, earliest?_eq_none, List.filter_eq_nil_iff]
  simp

theorem pop?_spec (h : c.pop? limit = some (t, d)) :
    t ∈ c.timers ∧ t.due ≤ limit ∧ (∀ u ∈ c.timers, u.due ≤ limit → ¬ u.isBefore t) ∧
      d = c.after t := by
  obtain ⟨v, hv, hpair⟩ := Option.map_eq_some_iff.mp h
  obtain ⟨rfl, rfl⟩ := Prod.mk.inj hpair
  obtain ⟨hmem, hmin⟩ := earliest?_spec hv
  obtain ⟨hmem, hdue⟩ := List.mem_filter.mp hmem
  refine ⟨hmem, by simpa using hdue, fun u hu hle => ?_, rfl⟩
  exact hmin u (List.mem_filter.mpr ⟨hu, by simpa using hle⟩)

theorem Sound.pop?_eq_some (h : c.Sound) (ht : t ∈ c.timers) (hdue : t.due ≤ limit)
    (hmin : ∀ u ∈ c.timers, u.due ≤ limit → ¬ u.isBefore t) :
    c.pop? limit = some (t, c.after t) := by
  cases hp : c.pop? limit with
  | none =>
    have := pop?_eq_none.mp hp t ht
    omega
  | some r =>
    obtain ⟨v, d⟩ := r
    obtain ⟨hv, hvdue, hvmin, rfl⟩ := pop?_spec hp
    have htv := hvmin t ht hdue
    have hvt := hmin v hv hvdue
    rw [Timer.not_isBefore_iff] at htv hvt
    rw [List.inj_on_of_nodup_map h.ids hv ht (by omega)]

theorem Sound.pop?_mono (h : c.Sound) (hle : limit ≤ later) (hp : c.pop? limit = some (t, d)) :
    c.pop? later = some (t, d) := by
  obtain ⟨ht, hdue, hmin, rfl⟩ := pop?_spec hp
  refine h.pop?_eq_some ht (Nat.le_trans hdue hle) fun u hu _ => ?_
  by_cases hu' : u.due ≤ limit
  · exact hmin u hu hu'
  · rw [Timer.not_isBefore_iff]
    omega

theorem mem_after {c : Clock α} (h : c.Sound) (ht : t ∈ c.timers) :
    u ∈ (c.after t).timers ↔ (u ∈ c.timers ∧ u.id ≠ t.id) ∨ t.next? = some u := by
  rw [after, List.mem_filterMap]
  constructor
  · rintro ⟨v, hv, hu⟩
    split at hu
    · next hid =>
      rw [List.inj_on_of_nodup_map h.ids hv ht hid] at hu
      exact .inr hu
    · next hid =>
      cases hu
      exact .inl ⟨hv, hid⟩
  · rintro (⟨hu, hid⟩ | hu)
    · exact ⟨u, hu, by rw [if_neg hid]⟩
    · exact ⟨t, ht, by rw [if_pos rfl, hu]⟩

theorem sublist_after (c : Clock α) (t : Timer α) :
    ((c.after t).timers.map (·.id)).Sublist (c.timers.map (·.id)) := by
  rw [after]
  dsimp only
  generalize c.timers = ts
  induction ts with
  | nil => exact .slnil
  | cons v vs ih =>
    rw [List.filterMap_cons]
    split
    · exact ih.trans (List.sublist_cons_self _ _)
    · next w hw =>
      have hid : w.id = v.id := by
        split at hw
        · exact Timer.id_next? hw
        · cases hw
          rfl
      rw [List.map_cons, List.map_cons, hid]
      exact ih.cons_cons _

theorem Sound.after (h : c.Sound) (ht : t ∈ c.timers) : (c.after t).Sound where
  ids := h.ids.sublist (sublist_after c t)
  known u hu := by
    rcases (mem_after h ht).mp hu with ⟨hu, -⟩ | hu
    · exact h.known u hu
    · rw [Timer.id_next? hu]
      exact h.known t ht
  periods u hu := by
    rcases (mem_after h ht).mp hu with ⟨hu, -⟩ | hu
    · exact h.periods u hu
    · rw [Timer.every_next? hu]
      exact h.periods t ht

theorem Sound.of_pop? (h : c.Sound) (hp : c.pop? limit = some (t, d)) : d.Sound := by
  obtain ⟨ht, -, -, rfl⟩ := pop?_spec hp
  exact h.after ht

theorem dueCount_after (h : c.Sound) (ht : t ∈ c.timers) (hdue : t.due ≤ limit) :
    (c.after t).dueCount limit + 1 = c.dueCount limit := by
  obtain ⟨ids, -, periods⟩ := h
  rw [dueCount, dueCount, after]
  dsimp only
  generalize c.timers = ts at *
  induction ts with
  | nil => cases ht
  | cons v vs ih =>
    obtain ⟨hv, hvs⟩ := List.nodup_cons.mp ids
    have hfresh : ∀ w ∈ vs, w.id ≠ v.id := fun w hw he => hv (List.mem_map.mpr ⟨w, hw, he⟩)
    rcases List.mem_cons.mp ht with rfl | ht
    · -- the others keep their places
      have hrest := filterMap_others hfresh
      have htimes := Timer.timesUpTo_of_le hdue (periods t (by simp))
      rw [List.filterMap_cons, if_pos rfl, hrest, List.foldr_cons, htimes]
      cases t.next? <;> simp <;> omega
    · have hne : v.id ≠ t.id := fun he => hfresh t ht he.symm
      have := ih ht hvs fun u hu => periods u (by simp [hu])
      rw [List.filterMap_cons, if_neg hne]
      simp only [List.foldr_cons]
      omega

theorem drain_of_none (h : c.pop? limit = none) : c.drain limit = ([], c) := by
  rw [drain]
  cases c.dueCount limit with
  | zero => rfl
  | succ n => rw [popUpTo, h]

theorem Sound.drain_of_some (h : c.Sound) (hp : c.pop? limit = some (t, d)) :
    c.drain limit = (t :: (d.drain limit).1, (d.drain limit).2) := by
  obtain ⟨ht, hdue, -, rfl⟩ := pop?_spec hp
  rw [drain, ← dueCount_after h ht hdue, popUpTo, hp]
  rfl

/-- What holds of a clock in which nothing is due, and of any other if it holds after its next
timer went off, holds of all clocks: the timers that fall due get fewer. -/
theorem Sound.drainInduction {motive : ∀ c : Clock α, c.Sound → Prop} (limit : Nat)
    (done : ∀ c h, c.pop? limit = none → motive c h)
    (next : ∀ c t d h, (hp : c.pop? limit = some (t, d)) → motive d (h.of_pop? hp) → motive c h)
    (c : Clock α) (h : c.Sound) : motive c h := by
  generalize hn : c.dueCount limit = n
  induction n generalizing c with
  | zero =>
    cases hp : c.pop? limit with
    | none => exact done c h hp
    | some r =>
      obtain ⟨ht, hdue, -, -⟩ := pop?_spec (t := r.1) (d := r.2) hp
      have := dueCount_after h ht hdue
      omega
  | succ n ih =>
    cases hp : c.pop? limit with
    | none => exact done c h hp
    | some r =>
      obtain ⟨ht, hdue, -, hr⟩ := pop?_spec (t := r.1) (d := r.2) hp
      have := dueCount_after h ht hdue
      exact next c r.1 r.2 h hp (ih r.2 (h.of_pop? hp) (by rw [hr]; omega))

theorem Sound.drain (h : c.Sound) (limit : Nat) : (c.drain limit).2.Sound := by
  induction c, h using Sound.drainInduction limit with
  | done c hc hp => rwa [drain_of_none hp]
  | next c t d hc hp ih => rwa [hc.drain_of_some hp]

theorem Sound.pop?_drain (h : c.Sound) (limit : Nat) : (c.drain limit).2.pop? limit = none := by
  induction c, h using Sound.drainInduction limit with
  | done c hc hp => rwa [drain_of_none hp]
  | next c t d hc hp ih => rwa [hc.drain_of_some hp]

theorem Sound.now_drain_le (h : c.Sound) (limit : Nat) :
    (c.drain limit).2.now ≤ max c.now limit := by
  induction c, h using Sound.drainInduction limit with
  | done c hc hp =>
    rw [drain_of_none hp]
    exact Nat.le_max_left _ _
  | next c t d hc hp ih =>
    rw [hc.drain_of_some hp]
    obtain ⟨-, hdue, -, rfl⟩ := pop?_spec hp
    have hnow : (c.after t).now = max c.now t.due := rfl
    rw [hnow] at ih
    dsimp only
    omega

/-- Draining up to a time and then up to a later one takes out what draining up to the later one
takes out at once. -/
theorem Sound.drain_drain (h : c.Sound) (hle : limit ≤ later) :
    c.drain later = ((c.drain limit).1 ++ ((c.drain limit).2.drain later).1,
      ((c.drain limit).2.drain later).2) := by
  induction c, h using Sound.drainInduction limit with
  | done c hc hp =>
    rw [drain_of_none hp]
    rfl
  | next c t d hc hp ih =>
    rw [hc.drain_of_some hp, hc.drain_of_some (hc.pop?_mono hle hp), ih]
    rfl

theorem pop?_advanceTo (c : Clock α) (m limit : Nat) :
    (c.advanceTo m).pop? limit = (c.pop? limit).map fun r => (r.1, r.2.advanceTo m) := by
  simp only [pop?, advanceTo, Option.map_map]
  refine Option.map_congr fun t _ => ?_
  simp only [Function.comp_apply, Prod.mk.injEq, Clock.mk.injEq, true_and, and_true]
  omega

/-- Moving the clock along does not matter for what is taken out of it. -/
theorem Sound.drain_advanceTo (h : c.Sound) (m limit : Nat) :
    (c.advanceTo m).drain limit = ((c.drain limit).1, (c.drain limit).2.advanceTo m) := by
  induction c, h using Sound.drainInduction limit with
  | done c hc hp =>
    rw [drain_of_none hp, drain_of_none (by rw [pop?_advanceTo, hp]; rfl)]
  | next c t d hc hp ih =>
    have hp' : (c.advanceTo m).pop? limit = some (t, d.advanceTo m) := by
      rw [pop?_advanceTo, hp]
      rfl
    rw [hc.drain_of_some hp, (hc.advanceTo m).drain_of_some hp', ih]

def runTo (c : Clock α) (limit : Nat) : List (Timer α) × Clock α :=
  ((c.drain limit).1, (c.drain limit).2.advanceTo limit)

theorem Sound.now_runTo (h : c.Sound) (hle : c.now ≤ limit) : (c.runTo limit).2.now = limit := by
  have := h.now_drain_le limit
  simp only [runTo, Clock.advanceTo]
  omega

theorem Sound.runTo (h : c.Sound) (limit : Nat) : (c.runTo limit).2.Sound :=
  (h.drain limit).advanceTo limit

theorem Sound.runTo_runTo (h : c.Sound) (hle : limit ≤ later) :
    c.runTo later = ((c.runTo limit).1 ++ ((c.runTo limit).2.runTo later).1,
      ((c.runTo limit).2.runTo later).2) := by
  have hmoves : ∀ d : Clock α, (d.advanceTo limit).advanceTo later = d.advanceTo later := by
    intro d
    simp only [Clock.advanceTo, Clock.mk.injEq, and_true]
    omega
  simp only [Clock.runTo, (h.drain limit).drain_advanceTo limit later, hmoves]
  rw [h.drain_drain hle]

theorem Sound.pop?_first {c : Clock α} (h : c.Sound) {waiting todo : List (Timer α)}
    {t : Timer α} {due : Nat} (hts : c.timers = waiting ++ t :: todo)
    (hdue : ∀ u ∈ t :: todo, u.due = due) (hids : (t :: todo).Pairwise fun u v => u.id < v.id)
    (hwait : ∀ u ∈ waiting, due < u.due) (hnow : c.now ≤ due) (hle : due ≤ limit) :
    c.pop? limit = some (t,
      { c with now := due, timers := (waiting ++ t.next?.toList) ++ todo }) := by
  have ht : t ∈ c.timers := by simp [hts]
  have hafter : c.after t =
      { c with now := due, timers := (waiting ++ t.next?.toList) ++ todo } := by
    have hothers : ∀ u ∈ waiting, u.id ≠ t.id := by
      intro u hu hid
      have hlt := hwait u hu
      rw [List.inj_on_of_nodup_map h.ids (by simp [hts, hu]) ht hid, hdue t (by simp)] at hlt
      exact Nat.lt_irrefl _ hlt
    have hrest : ∀ u ∈ todo, u.id ≠ t.id :=
      fun u hu => Nat.ne_of_gt (List.rel_of_pairwise_cons hids hu)
    have htdue := hdue t (by simp)
    rw [Clock.after, hts, List.filterMap_append, List.filterMap_cons, filterMap_others hothers,
      filterMap_others hrest, if_pos rfl, htdue, Nat.max_eq_right hnow]
    cases t.next? <;> simp
  rw [← hafter]
  refine h.pop?_eq_some ht (by rwa [hdue t (by simp)]) fun u hu _ => ?_
  rw [Timer.not_isBefore_iff, hdue t (by simp)]
  rw [hts, List.mem_append, List.mem_cons] at hu
  rcases hu with hu | rfl | hu
  · exact .inl (hwait u hu)
  · exact .inr ⟨(hdue u (by simp)).symm, Nat.le_refl _⟩
  · exact .inr ⟨(hdue u (by simp [hu])).symm, Nat.le_of_lt (List.rel_of_pairwise_cons hids hu)⟩

theorem Sound.drain_round {c : Clock α} (h : c.Sound) {waiting todo : List (Timer α)}
    {t : Timer α} {due : Nat} (hts : c.timers = waiting ++ t :: todo)
    (hdue : ∀ u ∈ t :: todo, u.due = due) (hids : (t :: todo).Pairwise fun u v => u.id < v.id)
    (hwait : ∀ u ∈ waiting, due < u.due) (hnow : c.now ≤ due) (hle : due ≤ limit) :
    let d : Clock α :=
      { c with now := due, timers := waiting ++ (t :: todo).filterMap Timer.next? }
    d.Sound ∧ c.drain limit = (t :: todo ++ (d.drain limit).1, (d.drain limit).2) := by
  -- what went off waits behind, due later than all that is still to go off in this round
  induction todo generalizing c waiting t with
  | nil =>
    have hpop := h.pop?_first hts hdue hids hwait hnow hle
    have hnext : waiting ++ t.next?.toList ++ [] = waiting ++ [t].filterMap Timer.next? := by
      rw [List.filterMap_cons]
      cases t.next? <;> simp
    rw [hnext] at hpop
    exact ⟨h.of_pop? hpop, h.drain_of_some hpop⟩
  | cons u todo ih =>
    have hpop := h.pop?_first hts hdue hids hwait hnow hle
    have hlater : ∀ v ∈ waiting ++ t.next?.toList, due < v.due := by
      intro v hv
      rcases List.mem_append.mp hv with hv | hv
      · exact hwait v hv
      · obtain ⟨e, he, rfl⟩ := Option.map_eq_some_iff.mp (Option.mem_toList.mp hv)
        have hpos := h.periods t (by simp [hts]) e he
        have htdue := hdue t (by simp)
        dsimp only
        omega
    obtain ⟨hsound, hdrain⟩ := ih (h.of_pop? hpop) rfl (fun v hv => hdue v (by simp [hv]))
      (List.Pairwise.of_cons hids) hlater (Nat.le_refl _)
    have hnext : waiting ++ (t :: u :: todo).filterMap Timer.next? =
        (waiting ++ t.next?.toList) ++ (u :: todo).filterMap Timer.next? := by
      rw [List.filterMap_cons]
      cases t.next? <;> simp
    rw [hnext]
    refine ⟨hsound, ?_⟩
    rw [h.drain_of_some hpop, hdrain]
    rfl

theorem flatMap_rounds {β : Type} (f : Nat → List β) {period total : Nat} (hpos : 0 < period)
    (hle : period ≤ total) :
    (List.range (total / period)).flatMap f =
      f 0 ++ (List.range ((total - period) / period)).flatMap fun i => f (i + 1) := by
  rw [Nat.div_eq_sub_div hpos hle, List.range_succ_eq_map, List.flatMap_cons, List.flatMap_map]

theorem drain_before {c : Clock α} {limit due : Nat} (h : ∀ t ∈ c.timers, t.due = due)
    (hlt : limit < due) : c.drain limit = ([], c) := by
  refine drain_of_none (pop?_eq_none.mpr fun t ht => ?_)
  rw [h t ht]
  omega

theorem next_pairwise {ts : List (Timer α)} (h : ts.Pairwise fun u v => u.id < v.id) :
    (ts.filterMap Timer.next?).Pairwise fun u v => u.id < v.id := by
  rw [List.pairwise_filterMap]
  refine h.imp fun huv u' hu' v' hv' => ?_
  rwa [Timer.id_next? hu', Timer.id_next? hv']

theorem next_together {ts : List (Timer α)} {due period : Nat}
    (h : ∀ t ∈ ts, t.due = due ∧ t.every = some period) :
    ts.filterMap Timer.next? = ts.map fun t => { t with due := due + period } := by
  rw [← List.filterMap_eq_map]
  refine List.filterMap_congr fun t ht => ?_
  obtain ⟨hdue, hevery⟩ := h t ht
  simp [Timer.next?, hdue, hevery]

/-- Repeating timers that are due together go off together, round by round. -/
theorem Sound.drain_rounds {c : Clock α} (h : c.Sound) {start period : Nat}
    (hdue : ∀ t ∈ c.timers, t.due = start + period ∧ t.every = some period)
    (hids : c.timers.Pairwise fun u v => u.id < v.id) (hnow : c.now ≤ start + period)
    (total : Nat) :
    (c.drain (start + total)).1.map (fun t => (t.due, t.job)) =
      (List.range (total / period)).flatMap fun i =>
        c.timers.map fun t => (start + (i + 1) * period, t.job) := by
  -- by rounds: after one the clock is as it was, a period later and with that much less to go
  induction total using Nat.strongRecOn generalizing c start with
  | ind total ih =>
    cases hts : c.timers with
    | nil =>
      rw [drain_of_none (pop?_eq_none.mpr (by simp [hts]))]
      simp
    | cons t ts =>
      by_cases hlt : total < period
      · rw [drain_before (fun u hu => (hdue u hu).1) (by omega), Nat.div_eq_of_lt hlt]
        rfl
      · have hpos : 0 < period := h.periods t (by simp [hts]) period (hdue t (by simp [hts])).2
        rw [hts] at hids hdue
        have hle : period ≤ total := by omega
        obtain ⟨hsound, hdrain⟩ := h.drain_round (by rw [hts]; rfl : c.timers = [] ++ t :: ts)
          (fun u hu => (hdue u hu).1) hids (by simp) hnow (Nat.add_le_add_left hle start)
        rw [List.nil_append, next_together hdue] at hsound hdrain
        have hdue' : ∀ u ∈ (t :: ts).map (fun u => { u with due := start + period + period }),
            u.due = start + period + period ∧ u.every = some period := by
          intro u hu
          obtain ⟨v, hv, rfl⟩ := List.mem_map.mp hu
          exact ⟨rfl, (hdue v hv).2⟩
        have hrest := ih (total - period) (by omega) hsound hdue'
          (next_together hdue ▸ next_pairwise hids) (Nat.le_add_right _ _)
        have hfirst : (t :: ts).map (fun u => (u.due, u.job)) =
            (t :: ts).map fun u => (start + (0 + 1) * period, u.job) := by
          refine List.map_congr_left fun u hu => ?_
          rw [(hdue u hu).1, Nat.zero_add, Nat.one_mul]
        have hlimit : start + period + (total - period) = start + total := by omega
        have hshift : ∀ i, start + period + (i + 1) * period = start + (i + 1 + 1) * period := by
          intro i
          rw [Nat.add_mul (i + 1) 1]
          omega
        have hsplit := flatMap_rounds
          (fun i => (t :: ts).map fun u => (start + (i + 1) * period, u.job)) hpos hle
        rw [hlimit] at hrest
        rw [hdrain, List.map_append, hrest, hfirst, hsplit]
        simp only [List.map_map, Function.comp_def, hshift]

end Clock
end PageOverlay
