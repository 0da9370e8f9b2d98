import PageOverlay.Proofs.Run.Draining

/-!
# What a clock hands out

A timer stands for a series of turns: one for once has a single turn, a repeating one has a turn
after each period without end. Draining a clock hands out the turns that its timers have up to a
time, each once and in order, and leaves of each timer the first turn after that time.
-/

set_option autoImplicit false

namespace PageOverlay

namespace Timer

variable {α : Type} {t u v : Timer α} {k j : Nat}

/-- The turn that a timer has after so many earlier ones. -/
def turn? (t : Timer α) (k : Nat) : Option (Timer α) :=
  match t.every with
  | none => if k = 0 then some t else none
  | some e => some { t with due := t.due + k * e }

theorem turn?_zero (t : Timer α) : t.turn? 0 = some t := by
  obtain ⟨id, due, every, job⟩ := t
  cases every <;> simp [turn?]

theorem turn?_succ (t : Timer α) (k : Nat) : t.turn? (k + 1) = t.next?.bind (·.turn? k) := by
  cases h : t.every with
  | none => simp [turn?, next?, h]
  | some e =>
    have hdue : t.due + (k + 1) * e = t.due + e + k * e := by
      rw [Nat.add_mul]
      omega
    simp [turn?, next?, h, hdue]

theorem later_of_turn? (h : t.turn? k = some u) : ∃ wait, u = { t with due := t.due + wait } := by
  rw [turn?] at h
  split at h
  · split at h
    · cases h
      exact ⟨0, rfl⟩
    · cases h
  · cases h
    exact ⟨_, rfl⟩

theorem id_turn? (h : t.turn? k = some u) : u.id = t.id := by
  obtain ⟨_, rfl⟩ := later_of_turn? h
  rfl

theorem every_turn? (h : t.turn? k = some u) : u.every = t.every := by
  obtain ⟨_, rfl⟩ := later_of_turn? h
  rfl

theorem due_le_turn? (h : t.turn? k = some u) : t.due ≤ u.due := by
  obtain ⟨wait, rfl⟩ := later_of_turn? h
  exact Nat.le_add_right _ _

theorem next?_eq_none (h : t.every = none) : t.next? = none := by rw [next?, h, Option.map_none]

theorem turn?_of_once (h : t.every = none) (hk : t.turn? k = some u) : u = t := by
  cases k with
  | zero =>
    rw [turn?_zero] at hk
    exact (Option.some.inj hk).symm
  | succ k =>
    rw [turn?_succ, next?_eq_none h] at hk
    cases hk

theorem due_lt_next? (hp : ∀ e ∈ t.every, 0 < e) (h : t.next? = some u) : t.due < u.due := by
  obtain ⟨e, he, rfl⟩ := Option.map_eq_some_iff.mp h
  exact Nat.lt_add_of_pos_right (hp e he)

def IsFirstAfter (limit : Nat) (t u : Timer α) : Prop :=
  limit < t.due ∧ ∃ k, u.turn? k = some t ∧ ∀ j < k, ∀ v ∈ u.turn? j, v.due ≤ limit

variable {limit : Nat}

theorem IsFirstAfter.id_eq (h : IsFirstAfter limit t u) : t.id = u.id := by
  obtain ⟨-, k, hk, -⟩ := h
  exact id_turn? hk

theorem exists_isFirstAfter {e : Nat} (he : t.every = some e) (hpos : 0 < e) (limit : Nat) :
    ∃ u, IsFirstAfter limit u t := by
  have hturn (k : Nat) : t.turn? k = some { t with due := t.due + k * e } := by rw [turn?, he]
  by_cases h : limit < t.due
  · exact ⟨t, h, 0, t.turn?_zero, by simp⟩
  · have hover := Nat.lt_mul_div_succ (limit - t.due) hpos
    refine ⟨{ t with due := t.due + ((limit - t.due) / e + 1) * e }, ?_, _, hturn _, ?_⟩
    · rw [Nat.mul_comm] at hover
      dsimp only
      omega
    · intro j hj v hv
      rw [hturn, Option.mem_some] at hv
      subst hv
      have hle := Nat.mul_le_mul_right e (Nat.le_of_lt_succ hj)
      have := Nat.div_mul_le_self (limit - t.due) e
      dsimp only
      omega

theorem isFirstAfter_of_lt (h : limit < u.due) : IsFirstAfter limit t u ↔ t = u := by
  constructor
  · rintro ⟨-, k, hk, hearlier⟩
    cases k with
    | zero =>
      rw [turn?_zero] at hk
      exact (Option.some.inj hk).symm
    | succ k =>
      have := hearlier 0 k.succ_pos u (turn?_zero u)
      omega
  · rintro rfl
    exact ⟨h, 0, turn?_zero t, by simp⟩

theorem isFirstAfter_of_le (h : u.due ≤ limit) :
    IsFirstAfter limit t u ↔ ∃ v ∈ u.next?, IsFirstAfter limit t v := by
  constructor
  · rintro ⟨hlt, k, hk, hearlier⟩
    cases k with
    | zero =>
      rw [turn?_zero] at hk
      cases hk
      omega
    | succ k =>
      rw [turn?_succ] at hk
      obtain ⟨v, hv, hk⟩ := Option.bind_eq_some_iff.mp hk
      refine ⟨v, hv, hlt, k, hk, fun j hj w hw => ?_⟩
      refine hearlier (j + 1) (Nat.succ_lt_succ hj) w ?_
      rw [turn?_succ, hv]
      exact hw
  · rintro ⟨v, hv, hlt, k, hk, hearlier⟩
    refine ⟨hlt, k + 1, by rw [turn?_succ, hv]; exact hk, fun j hj w hw => ?_⟩
    cases j with
    | zero =>
      rw [turn?_zero] at hw
      cases hw
      exact h
    | succ j =>
      rw [turn?_succ, hv] at hw
      exact hearlier j (Nat.lt_of_succ_lt_succ hj) w hw

end Timer

namespace Clock

variable {α : Type} {c d : Clock α} {t u : Timer α} {limit : Nat}

/-- The turn is to come on the clock. -/
def Comes (c : Clock α) (t : Timer α) : Prop := ∃ u ∈ c.timers, ∃ k, u.turn? k = some t

theorem comes_of_mem (h : t ∈ c.timers) : c.Comes t := ⟨t, h, 0, t.turn?_zero⟩

theorem Sound.comes_iff (h : c.Sound) (ht : t ∈ c.timers) :
    c.Comes u ↔ u = t ∨ (c.after t).Comes u := by
  constructor
  · rintro ⟨v, hv, k, hk⟩
    by_cases hid : v.id = t.id
    · rw [List.inj_on_of_nodup_map h.ids hv ht hid] at hk
      cases k with
      | zero =>
        rw [Timer.turn?_zero] at hk
        exact .inl (Option.some.inj hk).symm
      | succ k =>
        rw [Timer.turn?_succ] at hk
        obtain ⟨w, hw, hk⟩ := Option.bind_eq_some_iff.mp hk
        exact .inr ⟨w, (mem_after h ht).mpr (.inr hw), k, hk⟩
    · exact .inr ⟨v, (mem_after h ht).mpr (.inl ⟨hv, hid⟩), k, hk⟩
  · rintro (rfl | ⟨v, hv, k, hk⟩)
    · exact comes_of_mem ht
    · rcases (mem_after h ht).mp hv with ⟨hv, -⟩ | hv
      · exact ⟨v, hv, k, hk⟩
      · exact ⟨t, ht, k + 1, by rw [Timer.turn?_succ, hv]; exact hk⟩

theorem Sound.isFirstAfter_after (h : c.Sound) (ht : t ∈ c.timers) (hdue : t.due ≤ limit) :
    (∃ v ∈ (c.after t).timers, Timer.IsFirstAfter limit u v) ↔
      ∃ v ∈ c.timers, Timer.IsFirstAfter limit u v := by
  constructor
  · rintro ⟨v, hv, hfirst⟩
    rcases (mem_after h ht).mp hv with ⟨hv, -⟩ | hv
    · exact ⟨v, hv, hfirst⟩
    · exact ⟨t, ht, (Timer.isFirstAfter_of_le hdue).mpr ⟨v, hv, hfirst⟩⟩
  · rintro ⟨v, hv, hfirst⟩
    by_cases hid : v.id = t.id
    · rw [List.inj_on_of_nodup_map h.ids hv ht hid] at hfirst
      obtain ⟨w, hw, hfirst⟩ := (Timer.isFirstAfter_of_le hdue).mp hfirst
      exact ⟨w, (mem_after h ht).mpr (.inr hw), hfirst⟩
    · exact ⟨v, (mem_after h ht).mpr (.inl ⟨hv, hid⟩), hfirst⟩

theorem Sound.isBefore_of_comes (h : c.Sound) (hp : c.pop? limit = some (t, d)) (hu : d.Comes u)
    (hdue : u.due ≤ limit) : t.isBefore u := by
  obtain ⟨ht, -, hmin, rfl⟩ := pop?_spec hp
  obtain ⟨v, hv, k, hk⟩ := hu
  have hid := Timer.id_turn? hk
  have hle := Timer.due_le_turn? hk
  rw [Timer.isBefore_iff]
  rcases (mem_after h ht).mp hv with ⟨hv, hne⟩ | hv
  · have := hmin v hv (by omega)
    rw [Timer.not_isBefore_iff] at this
    omega
  · have := Timer.due_lt_next? (h.periods t ht) hv
    omega

/-- Jobs are taken out one by one until none is due up to the time. -/
inductive Drains (limit : Nat) : Clock α → List (Timer α) → Clock α → Prop
  | done {c : Clock α} : c.pop? limit = none → Drains limit c [] c
  | next {c d e : Clock α} {t : Timer α} {ts : List (Timer α)} :
    c.pop? limit = some (t, d) → Drains limit d ts e → Drains limit c (t :: ts) e

theorem Sound.drains_iff (h : c.Sound) {ts : List (Timer α)} :
    Drains limit c ts d ↔ c.drain limit = (ts, d) := by
  constructor
  · intro hd
    induction hd with
    | done hp => exact drain_of_none hp
    | next hp _ ih => rw [h.drain_of_some hp, ih (h.of_pop? hp)]
  · intro hd
    induction c, h using Sound.drainInduction limit generalizing ts with
    | done c hc hp =>
      rw [drain_of_none hp] at hd
      cases hd
      exact .done hp
    | next c t e hc hp ih =>
      rw [hc.drain_of_some hp] at hd
      cases hd
      exact .next hp (ih rfl)

theorem now_pop? (hp : c.pop? limit = some (t, d)) : d.now = max c.now t.due := by
  obtain ⟨-, -, -, rfl⟩ := pop?_spec hp
  rfl

/-- The turns that draining hands out, in order, what it leaves of each timer, and the time that the
clock shows afterwards. -/
structure Handed (limit : Nat) (c : Clock α) (ts : List (Timer α)) (d : Clock α) : Prop where
  mem : ∀ t, t ∈ ts ↔ t.due ≤ limit ∧ c.Comes t
  order : ts.Pairwise fun t u => t.due < u.due ∨ t.due = u.due ∧ t.id < u.id
  left : ∀ t, t ∈ d.timers ↔ ∃ u ∈ c.timers, Timer.IsFirstAfter limit t u
  now : d.now = ts.foldl (fun now t => max now t.due) c.now

theorem handed_of_none (hp : c.pop? limit = none) : Handed limit c [] c := by
  have hlater := pop?_eq_none.mp hp
  refine ⟨fun t => ⟨by simp, ?_⟩, .nil, fun t => ⟨fun ht => ?_, ?_⟩, rfl⟩
  · rintro ⟨hdue, u, hu, k, hk⟩
    have hlt := hlater u hu
    have hle := Timer.due_le_turn? hk
    omega
  · exact ⟨t, ht, (Timer.isFirstAfter_of_lt (hlater t ht)).mpr rfl⟩
  · rintro ⟨u, hu, hfirst⟩
    rw [(Timer.isFirstAfter_of_lt (hlater u hu)).mp hfirst]
    exact hu

theorem Sound.handed_of_some (h : c.Sound) (hp : c.pop? limit = some (t, d))
    {ts : List (Timer α)} {e : Clock α} (hd : Handed limit d ts e) :
    Handed limit c (t :: ts) e := by
  obtain ⟨ht, hdue, -, rfl⟩ := pop?_spec hp
  refine ⟨fun u => ?_, ?_, fun u => ?_, ?_⟩
  · rw [List.mem_cons, hd.mem, h.comes_iff ht]
    constructor
    · rintro (rfl | ⟨hle, hu⟩)
      · exact ⟨hdue, .inl rfl⟩
      · exact ⟨hle, .inr hu⟩
    · rintro ⟨hle, rfl | hu⟩
      · exact .inl rfl
      · exact .inr ⟨hle, hu⟩
  · refine List.pairwise_cons.mpr ⟨fun u hu => ?_, hd.order⟩
    obtain ⟨hle, hcomes⟩ := (hd.mem u).mp hu
    exact Timer.isBefore_iff.mp (h.isBefore_of_comes hp hcomes hle)
  · rw [hd.left, h.isFirstAfter_after ht hdue]
  · rw [hd.now, List.foldl_cons, now_pop? hp]

theorem Sound.handed (h : c.Sound) (limit : Nat) :
    Handed limit c (c.drain limit).1 (c.drain limit).2 := by
  induction c, h using Sound.drainInduction limit with
  | done c hc hp =>
    rw [drain_of_none hp]
    exact handed_of_none hp
  | next c t d hc hp ih =>
    rw [hc.drain_of_some hp]
    exact hc.handed_of_some hp ih

structure Settled (limit : Nat) (c : Clock α) (ts : List (Timer α)) (d : Clock α) : Prop where
  ids : (d.timers.map (·.id)).Nodup
  waiting : ∀ t ∈ c.timers, limit < t.due → t ∈ d.timers
  gone : ∀ t ∈ ts, t.every = none → ∀ u ∈ d.timers, u.id ≠ t.id
  again : ∀ t ∈ c.timers, t.every.isSome → ∃ u ∈ d.timers, Timer.IsFirstAfter limit u t

theorem Sound.settled (h : c.Sound) (limit : Nat) :
    Settled limit c (c.drain limit).1 (c.drain limit).2 := by
  obtain ⟨hmem, -, hleft, -⟩ := h.handed limit
  refine ⟨(h.drain limit).ids, fun t ht hlt => ?_, fun t ht honce u hu hid => ?_, fun t ht hs => ?_⟩
  · exact (hleft t).mpr ⟨t, ht, (Timer.isFirstAfter_of_lt hlt).mpr rfl⟩
  · obtain ⟨hdue, v, hv, k, hk⟩ := (hmem t).mp ht
    have hvonce : v.every = none := (Timer.every_turn? hk).symm.trans honce
    obtain ⟨w, hw, hfirst⟩ := (hleft u).mp hu
    have hwid := hfirst.id_eq.symm.trans (hid.trans (Timer.id_turn? hk))
    rw [Timer.turn?_of_once hvonce hk] at hdue
    rw [List.inj_on_of_nodup_map h.ids hw hv hwid, Timer.isFirstAfter_of_le hdue] at hfirst
    obtain ⟨x, hx, -⟩ := hfirst
    rw [Timer.next?_eq_none hvonce] at hx
    cases hx
  · obtain ⟨e, he⟩ := Option.isSome_iff_exists.mp hs
    obtain ⟨u, hu⟩ := Timer.exists_isFirstAfter he (h.periods t ht e he) limit
    exact ⟨u, (hleft u).mpr ⟨t, ht, hu⟩, hu⟩

inductive Act (α : Type)
  | once (delay : Nat) (job : α)
  | repeating (every : Nat) (job : α)
  | cancel (id : Nat)
  | cancelAll
  | pop (limit : Nat)
  | advanceTo (limit : Nat)
  deriving DecidableEq, Repr

def act (c : Clock α) : Act α → Option (Timer α) × Clock α
  | .once delay job => (none, (c.once delay job).2)
  | .repeating every job => (none, (c.repeating every job).2)
  | .cancel id => (none, c.cancel id)
  | .cancelAll => (none, c.cancelAll)
  | .pop limit =>
    match c.pop? limit with
    | none => (none, c)
    | some (t, d) => (some t, d)
  | .advanceTo limit => (none, c.advanceTo limit)

def actAll : Clock α → List (Act α) → List (Timer α) × Clock α
  | c, [] => ([], c)
  | c, a :: as => ((c.act a).1.toList ++ (actAll (c.act a).2 as).1, (actAll (c.act a).2 as).2)

theorem act_pop_of_some (hp : c.pop? limit = some (t, d)) : c.act (.pop limit) = (some t, d) := by
  simp only [act, hp]

theorem Sound.act (h : c.Sound) (a : Act α) : (c.act a).2.Sound := by
  cases a with
  | once delay job => exact h.add (by simp) job
  | repeating every job =>
    refine h.add (fun e he => ?_) job
    rw [Option.mem_some] at he
    have hpos : 0 < shortest := by decide
    omega
  | cancel id => exact h.cancel id
  | cancelAll =>
    have hnone : (c.act .cancelAll).2.timers = [] := rfl
    exact ⟨by simp [hnone], by simp [hnone], by simp [hnone]⟩
  | pop limit =>
    rw [Clock.act]
    split
    · exact h
    · next hp => exact h.of_pop? hp
  | advanceTo limit => exact h.advanceTo limit

theorem Sound.actAll (h : c.Sound) (as : List (Act α)) : (c.actAll as).2.Sound := by
  induction as generalizing c with
  | nil => exact h
  | cons a as ih => exact ih (h.act a)

theorem sound_new : ({} : Clock α).Sound := ⟨List.nodup_nil, by simp, by simp⟩

theorem Sound.actAll_pops (h : c.Sound) (limit : Nat) :
    c.actAll (.replicate (c.drain limit).1.length (.pop limit)) = c.drain limit := by
  induction c, h using Sound.drainInduction limit with
  | done c hc hp =>
    rw [drain_of_none hp]
    rfl
  | next c t d hc hp ih =>
    rw [hc.drain_of_some hp, List.length_cons, List.replicate_succ, Clock.actAll,
      act_pop_of_some hp, ih]
    rfl

theorem now_le_act (c : Clock α) (a : Act α) : c.now ≤ (c.act a).2.now := by
  cases a with
  | pop limit =>
    rw [act]
    split
    · exact Nat.le_refl _
    · next hp =>
      rw [now_pop? hp]
      exact Nat.le_max_left _ _
  | advanceTo limit => exact Nat.le_max_left _ _
  | once delay job => exact Nat.le_refl _
  | repeating every job => exact Nat.le_refl _
  | cancel id => exact Nat.le_refl _
  | cancelAll => exact Nat.le_refl _

theorem now_le_actAll (c : Clock α) (before later : List (Act α)) :
    (c.actAll before).2.now ≤ (c.actAll (before ++ later)).2.now := by
  induction before generalizing c with
  | nil =>
    induction later generalizing c with
    | nil => exact Nat.le_refl _
    | cons a as ih => exact Nat.le_trans (now_le_act c a) (ih _)
  | cons a as ih => exact ih _

/-- The number was given out, and no timer has it any more. -/
def IsGone (c : Clock α) (id : Nat) : Prop := id < c.nextId ∧ ∀ t ∈ c.timers, t.id ≠ id

variable {id : Nat}

theorem isGone_cancel {a : Act α} (ha : a = .cancel id ∨ a = .cancelAll) (hid : id < c.nextId) :
    (c.act a).2.IsGone id := by
  rcases ha with rfl | rfl
  · refine ⟨hid, fun t ht => ?_⟩
    simpa using (List.mem_filter.mp ht).2
  · exact ⟨hid, by simp [act, cancelAll]⟩

theorem IsGone.add (h : c.IsGone id) (delay : Nat) (every : Option Nat) (job : α) :
    (c.add delay every job).2.IsGone id := by
  refine ⟨Nat.lt_succ_of_lt h.1, fun t ht => ?_⟩
  rcases List.mem_append.mp ht with ht | ht
  · exact h.2 t ht
  · rw [List.mem_singleton.mp ht]
    exact Nat.ne_of_gt h.1

theorem IsGone.act (h : c.IsGone id) (a : Act α) :
    (∀ t ∈ (c.act a).1, t.id ≠ id) ∧ (c.act a).2.IsGone id := by
  cases a with
  | once delay job => exact ⟨by simp [Clock.act], h.add _ _ _⟩
  | repeating every job => exact ⟨by simp [Clock.act], h.add _ _ _⟩
  | cancel other => exact ⟨by simp [Clock.act], h.1, fun t ht => h.2 t (List.mem_filter.mp ht).1⟩
  | cancelAll => exact ⟨by simp [Clock.act], h.1, by simp [Clock.act, cancelAll]⟩
  | advanceTo limit => exact ⟨by simp [Clock.act], h⟩
  | pop limit =>
    rw [Clock.act]
    split
    · exact ⟨by simp, h⟩
    · next t d hp =>
      obtain ⟨ht, -, -, rfl⟩ := pop?_spec hp
      refine ⟨fun u hu => Option.mem_some.mp hu ▸ h.2 t ht, h.1, fun u hu he => ?_⟩
      have hmem := (sublist_after c t).subset (List.mem_map.mpr ⟨u, hu, he⟩)
      obtain ⟨v, hv, hvid⟩ := List.mem_map.mp hmem
      exact h.2 v hv hvid

theorem IsGone.actAll (h : c.IsGone id) (as : List (Act α)) :
    (∀ t ∈ (c.actAll as).1, t.id ≠ id) ∧ (c.actAll as).2.IsGone id := by
  induction as generalizing c with
  | nil => exact ⟨by simp [Clock.actAll], h⟩
  | cons a as ih =>
    obtain ⟨hone, hgone⟩ := h.act a
    obtain ⟨hmore, hend⟩ := ih hgone
    refine ⟨fun t ht => ?_, hend⟩
    rw [Clock.actAll] at ht
    rcases List.mem_append.mp ht with ht | ht
    · exact hone t (Option.mem_toList.mp ht)
    · exact hmore t ht

theorem actAll_append (c : Clock α) (as bs : List (Act α)) :
    c.actAll (as ++ bs) =
      ((c.actAll as).1 ++ ((c.actAll as).2.actAll bs).1, ((c.actAll as).2.actAll bs).2) := by
  induction as generalizing c with
  | nil => rfl
  | cons a as ih =>
    rw [List.cons_append, actAll, ih, actAll]
    simp only [List.append_assoc]

/-- Whatever was asked of a clock, taking out jobs up to a time ends, in one way only. It hands out
the turns up to then in order, each once, and never one of a job that was cancelled; of the timers
it leaves the first turns afterwards; and all the while the clock does not move back. -/
theorem drains_actAll (as : List (Act α)) (limit : Nat) :
    let c := (actAll {} as).2
    let ts := (c.drain limit).1
    let d := (c.drain limit).2
    (∀ us e, Drains limit c us e ↔ us = ts ∧ e = d) ∧
      Handed limit c ts d ∧ Settled limit c ts d ∧
      c.actAll (.replicate ts.length (.pop limit)) = (ts, d) ∧
      (∀ before a later id, as = before ++ a :: later → a = .cancel id ∨ a = .cancelAll →
        id < (actAll {} before).2.nextId →
        ∀ t ∈ ((actAll {} (before ++ [a])).2.actAll later).1 ++ ts, t.id ≠ id) ∧
      ∀ before later : List (Act α),
        (actAll {} before).2.now ≤ (actAll {} (before ++ later)).2.now := by
  intro c ts d
  have hc : c.Sound := sound_new.actAll as
  have hloop : c.actAll (.replicate ts.length (.pop limit)) = (ts, d) := hc.actAll_pops limit
  refine ⟨fun us e => ?_, hc.handed limit, hc.settled limit, hloop, ?_, now_le_actAll _⟩
  · rw [hc.drains_iff, eq_comm, Prod.ext_iff]
  · rintro before a later id rfl ha hid
    have hstart : (actAll {} (before ++ [a])).2 = ((actAll {} before).2.act a).2 := by
      rw [actAll_append]
      rfl
    have hend : c = ((actAll {} (before ++ [a])).2.actAll later).2 := by
      change (actAll {} (before ++ a :: later)).2 = _
      rw [hstart, actAll_append]
      rfl
    have hall := ((isGone_cancel ha hid).actAll (later ++ .replicate ts.length (.pop limit))).1
    rwa [actAll_append, ← hstart, ← hend, hloop] at hall

example :
    let c := (actAll {} [.once (milliseconds 2) "a", .repeating 0 "b", .once 7 "c",
      .repeating 5 "d", .cancel 2, .advanceTo 2500000]).2
    (c.drain (milliseconds 2)).1.map (fun t => (t.due, t.id)) =
      [(1000000, 1), (1000000, 3), (2000000, 0), (2000000, 1), (2000000, 3)] := by
  decide +kernel

end Clock
end PageOverlay
